import Gelf.Proofs.Building
import Gelf.Proofs.Layers

/-!
# Gelf.Proofs.Readings

A setting that is given as a keyword, and the same text in the setting's variable.

* `lowerChar_blank`: blanks have no case. `strip_of_yes`: a text that is a word for yes in lower case
  has no blanks around it.
* `Setting.alone`, `ofEnvironment_alone`: one variable on its own, and what it says.
* `alone_iff`: what one keyword on its own says, and whether it can be read.
* `PaddedYes`: a word for yes between blanks. `read_alike`: apart from that, the variable says what
  the keyword says. `padded_yes_apart`: that is yes in a variable and no in a keyword.
-/

namespace Gelf

open Script

/-! ## Blanks in words -/

namespace Text

/-- By induction on the ranges: what holds for all numbers of each holds for each member. -/
theorem Ranges.forall_has {P : Nat → Prop} {ranges : Ranges}
    (h : ∀ r ∈ ranges, ∀ n ∈ List.range' r.1 (r.2 + 1 - r.1), P n) {n : Nat}
    (hn : ranges.has n = true) : P n := by
  induction ranges with
  | nil => cases hn
  | cons r rest ih =>
    obtain ⟨hfirst, hrest⟩ := List.forall_mem_cons.mp h
    rw [Ranges.has] at hn
    split at hn
    · cases hn
    · split at hn
      · exact hfirst n (List.mem_range'_1.mpr (by omega))
      · exact ih hrest hn

theorem lowerChar_blank {c : Char} (hc : isBlank c = true) (before after : List Char) :
    lowerChar before c after = [c] := by
  have hall : ∀ r ∈ blanks, ∀ n ∈ List.range' r.1 (r.2 + 1 - r.1),
      n ≠ capitalSigma.toNat ∧ n ≠ 0x130 ∧ shiftBy lowerRuns n = n := by decide +kernel
  obtain ⟨hsigma, hdot, hshift⟩ := Ranges.forall_has hall hc
  have hne : c ≠ capitalSigma := by
    rintro rfl
    exact hsigma rfl
  rw [lowerChar, if_neg (mt beq_iff_eq.mp hne), if_neg (mt beq_iff_eq.mp hdot), hshift,
    Char.ofNat_toNat]

/-- By induction on the text: a blank stays in its place. -/
theorem mem_lowerFrom_blank {c : Char} (hc : isBlank c = true) {s : List Char} (h : c ∈ s)
    (before : List Char) : c ∈ lowerFrom before s := by
  induction s generalizing before with
  | nil => cases h
  | cons d rest ih =>
    rw [lowerFrom]
    obtain rfl | h := List.mem_cons.mp h
    · rw [lowerChar_blank hc]
      exact List.mem_cons_self
    · exact List.mem_append_right _ (ih h _)

theorem stripBy_none {p : Char → Bool} {s : List Char} (h : ∀ c ∈ s, p c = false) :
    stripBy p s = s := by
  have hdrop : ∀ {t : List Char}, (∀ c ∈ t, p c = false) → t.dropWhile p = t := by
    intro t ht
    cases t with
    | nil => rfl
    | cons c rest => rw [List.dropWhile_cons_of_neg (by simp [ht c List.mem_cons_self])]
  rw [stripBy, hdrop h, hdrop fun c hc => h c (List.mem_reverse.mp hc), List.reverse_reverse]

end Text

theorem trueWords_unblank : ∀ w ∈ trueWords, ∀ c ∈ w.toList, Text.isBlank c = false := by
  simp [trueWords, Text.isBlank, Text.blanks, Text.Ranges.has]

theorem strip_of_yes {v : String} (h : lowerText v ∈ trueWords) :
    Text.strip v.toList = v.toList := by
  refine Text.stripBy_none fun c hc => ?_
  rw [Bool.eq_false_iff]
  intro hblank
  have hmem : c ∈ (lowerText v).toList := by
    rw [lowerText, String.toList_ofList]
    exact Text.mem_lowerFrom_blank hblank hc []
  have hno := trueWords_unblank _ h c hmem
  rw [hblank] at hno
  cases hno

/-! ## One variable -/

theorem Setting.name_injective {s t : Setting} (h : s.name = t.name) : s = t := by
  have hs := Setting.ofName?_name s
  rw [h, Setting.ofName?_name] at hs
  exact (Option.some.inj hs).symm

theorem Setting.variable_injective {s t : Setting} (h : s.variable = t.variable) : s = t := by
  have hfind : ∀ u : Setting, Setting.all.find? (·.variable == u.variable) = some u := by
    intro u
    cases u <;> decide
  have hs := hfind s
  rw [h, hfind t] at hs
  exact (Option.some.inj hs).symm

/-- The setting's variable is set, and nothing else is. -/
def Setting.alone (setting : Setting) (v : String) : Environment :=
  ⟨[(Environment.standardMark ++ setting.variable, .str v)], Environment.standardMark⟩

namespace Environment

variable {setting : Setting} {v : String}

theorem textual_alone : (setting.alone v).Textual := by
  intro n hn
  cases List.mem_singleton.mp hn
  exact ⟨v, rfl⟩

theorem value?_alone (name : String) : (setting.alone v).value? name =
    if name = setting.variable then some v else none := by
  unfold value? Setting.alone
  rw [Named.get?_cons]
  by_cases hname : name = setting.variable
  · rw [if_pos (congrArg _ hname), if_pos hname]
  · rw [if_neg (mt (String.append_right_inj _).mp hname), if_neg hname]
    rfl

theorem rowFrom_alone : (setting.alone v).rowFrom "ADDITIONAL_FIELD" 1 0 = [] := by
  have hname : "ADDITIONAL_FIELD" ++ "_" ++ toString 0 ≠ setting.variable := by
    cases setting <;> decide
  rw [rowFrom, value?_alone, if_neg hname]

/-- A variable that is not blank says what its setting makes of it; all else is by default. -/
theorem ofEnvironment_alone (hs : setting ≠ .staticFields)
    (hv : Text.isBlankText v.toList = false) : Config.ofEnvironment (setting.alone v) =
      .done (Config.standard.set setting ((setting.readText v).getD (defaultValue setting))) := by
  have hsays : ∀ t : Setting, (setting.alone v).says? t.variable =
      if t = setting then some v else none := by
    intro t
    rw [says?, value?_alone]
    by_cases ht : t = setting
    · simp [ht, Option.filter, hv]
    · simp [ht, mt Setting.variable_injective ht]
  rw [ofEnvironment_eq textual_alone]
  refine congrArg (Script.done ∘ Config.mk) (funext fun t => ?_)
  by_cases ht : t = .staticFields
  · subst ht
    rw [if_neg (Ne.symm hs)]
    exact congrArg (fun row => fieldsValue (row.foldl addFieldText [])) rowFrom_alone
  · have hchosen : (setting.alone v).chosen t =
        (((setting.alone v).says? t.variable).bind t.readText).getD (defaultValue t) := by
      cases t with
      | staticFields => contradiction
      | _ => rfl
    rw [hchosen, hsays]
    by_cases he : t = setting
    · simp [he]
    · simp [he, Config.standard]

end Environment

/-! ## One keyword -/

namespace Config

variable {setting : Setting} {v : String} {c : Config}

theorem given_alone (t : Setting) :
    given [(setting.name, .str v)] t = if t = setting then some (.str v) else none := by
  unfold given
  rw [Named.get?_cons]
  by_cases ht : t = setting
  · simp [ht]
  · simp [ht, mt Setting.name_injective ht, Named.get?]

/-- A keyword on its own is taken just if it can be read; all else is by default. -/
theorem alone_iff : (ofUpdates [(setting.name, .str v)]).quiet = .ok c ↔
    ∃ w, (normalize setting (.str v)).quiet = .ok w ∧ c = standard.set setting w := by
  have hknown : ∀ n ∈ [(setting.name, Value.str v)], (Setting.ofName? n.1).isSome := by
    simp [Setting.ofName?_name]
  have hlayer : ∀ (t : Setting) (w : Value), Layered [(setting.name, .str v)] standard t w ↔
      if t = setting then (normalize setting (.str v)).quiet = .ok w else w = standard.value t := by
    intro t w
    rw [Layered, given_alone]
    by_cases ht : t = setting
    · simp [ht]
    · simp [ht]
  rw [ofUpdates, has_unknown (by decide) hknown, if_neg Bool.false_ne_true, withUpdates_ok_iff]
  simp only [hlayer]
  constructor
  · rintro ⟨-, h⟩
    refine ⟨c.value setting, by simpa using h setting, congrArg Config.mk (funext fun t => ?_)⟩
    by_cases ht : t = setting
    · simp [ht]
    · simpa [ht] using h t
  · rintro ⟨w, hw, rfl⟩
    refine ⟨hknown, fun t => ?_⟩
    by_cases ht : t = setting
    · simp [ht, hw]
    · simp [ht, set_value_of_ne]

end Config

/-! ## Keywords and variables -/

/-- Between blanks, a word for yes. -/
def PaddedYes (v : String) : Prop :=
  Text.strip v.toList ≠ v.toList ∧ Environment.strippedLower v ∈ trueWords

theorem toOption_quiet {α : Type} (x : Except Fault α) (f : α → Value) :
    ((ofExcept x).bind fun n => .done (f n)).quiet.toOption = x.toOption.map f := by
  cases x <;> rfl

/-- What can be read as a keyword, and nothing else, is read in a variable, and as the same; a flag
has a rule of its own. -/
theorem readText_eq {setting : Setting} (hs : setting ≠ .staticFields)
    (hf : setting ≠ .extractStacktrace) (v : String) :
    setting.readText v = (normalize setting (.str v)).quiet.toOption := by
  cases setting with
  | staticFields | extractStacktrace => contradiction
  | port | timeout => exact (toOption_quiet _ _).symm
  | _ => rfl

/-- No word for no is one for yes, so a flag is set just by a word for yes. -/
theorem readFlag_eq (v : String) : ((Environment.readFlag v).map Value.bool).getD (.bool false) =
    .bool (trueWords.contains (Environment.strippedLower v)) := by
  unfold Environment.readFlag
  split
  · rename_i h
    rw [h]
    rfl
  · rename_i h
    rw [Bool.eq_false_iff.mpr h]
    split <;> rfl

theorem flag_alike {v : String} (h : ¬ PaddedYes v) :
    trueWords.contains (Environment.strippedLower v) = trueWords.contains (lowerText v) := by
  by_cases hv : Text.strip v.toList = v.toList
  · rw [Environment.strippedLower, lowerText, hv]
  · have hstripped : Environment.strippedLower v ∉ trueWords := by
      intro hmem
      exact h ⟨hv, hmem⟩
    have hlower : lowerText v ∉ trueWords := mt strip_of_yes hv
    simp [hstripped, hlower]

/-- A text that is given for a setting as a keyword, and can be read there, sets up the same when it
is given by the variable instead, all that is left by default included. The one exception is a word
for yes between blanks, which is yes in the variable and no as a keyword. A text that is refused as a
keyword leaves everything by default in the variable. -/
theorem read_alike {setting : Setting} (hs : setting ≠ .staticFields) {v : String}
    (hv : Text.isBlankText v.toList = false) :
    (∀ c, (Config.ofUpdates [(setting.name, .str v)]).Returns c →
      (¬ (setting = .extractStacktrace ∧ PaddedYes v) →
        Config.ofEnvironment (setting.alone v) = .done c) ∧
      (setting = .extractStacktrace ∧ PaddedYes v → c.value .extractStacktrace = .bool false ∧
        Config.ofEnvironment (setting.alone v) = .done (c.set .extractStacktrace (.bool true)))) ∧
    ((∀ c, ¬ (Config.ofUpdates [(setting.name, .str v)]).Returns c) →
      Config.ofEnvironment (setting.alone v) = .done .standard) := by
  have hreturns : ∀ c, (Config.ofUpdates [(setting.name, .str v)]).Returns c ↔
      ∃ w, (normalize setting (.str v)).quiet = .ok w ∧ c = Config.standard.set setting w := by
    intro c
    rw [(Config.verbal_ofUpdates _).returns_iff, Config.alone_iff]
  simp only [hreturns]
  rw [Environment.ofEnvironment_alone hs hv]
  constructor
  · rintro c ⟨w, hw, rfl⟩
    by_cases hf : setting = .extractStacktrace
    · -- both compare with the words for yes: the variable a text without the blanks at its ends
      subst hf
      cases hw
      have hread : (Setting.extractStacktrace.readText v).getD (.bool false) =
          .bool (trueWords.contains (Environment.strippedLower v)) := readFlag_eq v
      constructor
      · intro hn
        rw [defaultValue, hread, flag_alike fun h => hn ⟨rfl, h⟩]
      · rintro ⟨-, hpadded, hyes⟩
        have hno : lowerText v ∉ trueWords := mt strip_of_yes hpadded
        constructor
        · simp [hno]
        · rw [Config.set_set, defaultValue, hread, List.contains_iff_mem.mpr hyes]
    · rw [readText_eq hs hf, hw]
      exact ⟨fun _ => rfl, fun h => absurd h.1 hf⟩
  · intro hrefused
    cases hw : (normalize setting (.str v)).quiet with
    | ok w => exact absurd ⟨w, hw, rfl⟩ (hrefused _)
    | error f =>
      have hf : setting ≠ .extractStacktrace := by
        rintro rfl
        cases hw
      rw [readText_eq hs hf, hw]
      exact congrArg Script.done (Config.set_same .standard setting)

/-- A port with blanks around it and a low line between its digits. -/
theorem read_alike_port : Text.isBlankText " 12_202 ".toList = false ∧
    (Config.ofUpdates [("graylog_port", .str " 12_202 ")]).Returns
      (Config.standard.set .port (.int 12202)) ∧
    Config.ofEnvironment (Setting.port.alone " 12_202 ") =
      .done (Config.standard.set .port (.int 12202)) := by
  have hs : Setting.port ≠ .staticFields := by decide
  have hv : Text.isBlankText " 12_202 ".toList = false := by decide
  have hc : (Config.ofUpdates [("graylog_port", .str " 12_202 ")]).Returns
      (Config.standard.set .port (.int 12202)) := (Config.verbal_ofUpdates _).returns_iff.mpr rfl
  refine ⟨hv, hc, ((read_alike hs hv).1 _ hc).1 ?_⟩
  rintro ⟨⟨⟩, -⟩

/-- A word for yes after a blank: no as a keyword, and yes in the variable. -/
theorem padded_yes_apart :
    Text.isBlankText " yes".toList = false ∧
    (Config.ofUpdates [("extract_stacktrace", .str " yes")]).Returns
      (Config.standard.set .extractStacktrace (.bool false)) ∧
    Config.ofEnvironment (Setting.extractStacktrace.alone " yes") =
      .done (Config.standard.set .extractStacktrace (.bool true)) := by
  refine ⟨by decide, (Config.verbal_ofUpdates _).returns_iff.mpr ?_, ?_⟩
  · have hno : trueWords.contains (lowerText " yes") = false := by decide +kernel
    exact congrArg (fun b => Except.ok (Config.standard.set .extractStacktrace (.bool b))) hno
  · have hyes : trueWords.contains (Environment.strippedLower " yes") = true := by decide +kernel
    rw [Environment.ofEnvironment_alone (by decide) (by decide), defaultValue,
      Setting.readText, readFlag_eq, hyes]

end Gelf
