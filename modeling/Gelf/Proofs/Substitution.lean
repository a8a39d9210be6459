import Gelf.Proofs.Degrading
import Gelf.Proofs.Strict
import Mathlib.Data.List.Forall2
import Mathlib.Data.Nat.Digits.Defs

/-!
# Gelf.Proofs.Substitution

Filling a template puts every argument in its place at once.

* `Template.Slot`, `Template.Literal`, `Template.Pattern`: a placeholder, text without any, and a
  template that is made of both.
* `fillFrom_literal`, `fillFrom_slot`: the scanner finds the placeholders that were written, and no
  others.
* `run_fill`: a template is filled with the texts of its arguments, which are not scanned again.
* `substituted_at_once`: so is the message of a record, and nothing is reported. A filled text may
  look like a template itself.
-/

namespace Gelf

open Gelf.Text Gelf.Number

namespace Template

open Script

/-! ## Templates as they are written -/

/-- The digits of a placeholder, of any script: at least one, and not too many to be read. -/
structure Slot where
  digits : List Char
  nonempty : digits ≠ []
  decimal : ∀ c ∈ digits, isDecimal c = true
  readable : digits.length ≤ 4300

namespace Slot

def text (s : Slot) : List Char := '\x7b' :: (s.digits ++ ['\x7d'])

/-- The place of the argument. Zeros in front of it count for nothing. -/
def index (s : Slot) : Nat :=
  Nat.ofDigits 10 (s.digits.reverse.map fun c => (decimalValue? c).getD 0)

/-- What takes its place where the arguments say this: one of their texts, or the placeholder. -/
def filled (said : List String) (s : Slot) : List Char :=
  match said[s.index]? with
  | some t => t.toList
  | none => s.text

end Slot

/-- Text in which no digits stand between an opening and a closing brace. -/
structure Literal where
  text : List Char
  plain : ∀ digits, digits ≠ [] → (∀ c ∈ digits, isDecimal c = true) →
    ¬ '\x7b' :: (digits ++ ['\x7d']) <:+: text

/-- Text, and then placeholders, each with the text that follows it. -/
structure Pattern where
  first : Literal
  rest : List (Slot × Literal)

namespace Pattern

/-- The template with something in the place of every placeholder. -/
def written (t : Pattern) (part : Slot → List Char) : String :=
  String.ofList (t.first.text ++ t.rest.flatMap fun e => part e.1 ++ e.2.text)

def text (t : Pattern) : String := t.written Slot.text

/-- The template where the arguments say this. -/
def filled (t : Pattern) (said : List String) : String := t.written (Slot.filled said)

end Pattern

/-! ## Scanning -/

variable {args : List Value} {text rest digits : List Char}

theorem scanPlaceholder_some (h : scanPlaceholder text = some (digits, rest)) :
    text = digits ++ '\x7d' :: rest ∧ digits ≠ [] ∧ ∀ c ∈ digits, isDecimal c = true := by
  unfold scanPlaceholder at h
  dsimp only at h
  split at h
  · cases h
  · rename_i hne
    split at h
    · rename_i hd
      cases h
      refine ⟨?_, by simpa using hne, List.all_eq_true.mp List.all_takeWhile⟩
      rw [← hd, List.takeWhile_append_dropWhile]
    · cases h

theorem scanPlaceholder_digits (hne : digits ≠ []) (hd : ∀ c ∈ digits, isDecimal c = true) :
    scanPlaceholder (digits ++ '\x7d' :: rest) = some (digits, rest) := by
  have hclose : isDecimal '\x7d' = false := by decide
  have htake : (digits ++ '\x7d' :: rest).takeWhile isDecimal = digits := by
    rw [List.takeWhile_append_of_pos hd, List.takeWhile_cons, hclose]
    simp
  have hdrop : (digits ++ '\x7d' :: rest).dropWhile isDecimal = '\x7d' :: rest := by
    rw [List.dropWhile_append_of_pos hd, List.dropWhile_cons, hclose]
    simp
  have hne : digits.isEmpty = false := by simpa using hne
  unfold scanPlaceholder
  dsimp only
  rw [htake, hdrop, hne]
  rfl

theorem fillFrom_some (h : scanPlaceholder text = some (digits, rest)) :
    fillFrom args ('\x7b' :: text) = (replacement digits args).bind fun part =>
      (fillFrom args rest).bind fun out => .done (part ++ out) := by
  rw [fillFrom, if_pos (beq_self_eq_true _)]
  split
  · rename_i hs
    cases h.symm.trans hs
    rfl
  · rename_i hs
    cases h.symm.trans hs

theorem fillFrom_none {c : Char} (h : c = '\x7b' → scanPlaceholder text = none) :
    fillFrom args (c :: text) = (fillFrom args text).bind fun out => .done (c :: out) := by
  rw [fillFrom]
  split
  · rename_i hc
    split
    · rename_i hs
      cases (h (beq_iff_eq.mp hc)).symm.trans hs
    · rfl
  · rfl

/-- The text is over, or a placeholder may begin. -/
def Opens (text : List Char) : Prop := ∀ c ∈ text.head?, c = '\x7b'

theorem Literal.tail {c : Char} {l : Literal} (h : l.text = c :: text) :
    ∃ l' : Literal, l'.text = text :=
  ⟨⟨text, fun digits hne hd hin => l.plain digits hne hd (h ▸ List.infix_cons hin)⟩, rfl⟩

/-- A placeholder that begins in plain text would have to end in it: what comes after the text opens
with a brace, which is none of its digits. -/
theorem scan_literal {l : Literal} (h : l.text = '\x7b' :: text) (hr : Opens rest) :
    scanPlaceholder (text ++ rest) = none := by
  cases hs : scanPlaceholder (text ++ rest) with
  | none => rfl
  | some found =>
    obtain ⟨digits, after⟩ := found
    obtain ⟨heq, hne, hd⟩ := scanPlaceholder_some hs
    have hends : digits ++ ['\x7d'] ++ after = text ++ rest := by
      rw [heq, List.append_assoc, List.singleton_append]
    rcases List.append_eq_append_iff.mp hends with ⟨more, ht, -⟩ | ⟨more, ht, hmore⟩
    · refine absurd ?_ (l.plain digits hne hd)
      rw [h, ht]
      exact ⟨[], more, by simp⟩
    · cases more with
      | nil =>
        have hall : '\x7b' :: (digits ++ ['\x7d']) = l.text := by
          rw [h, ht, List.append_nil]
        exact absurd (hall ▸ List.infix_rfl) (l.plain digits hne hd)
      | cons c more =>
        -- the brace after the text would be a digit, or the closing brace
        have hc : c = '\x7b' := hr c (by rw [hmore]; rfl)
        have hm : c ∈ digits ++ ['\x7d'] := by
          rw [ht]
          exact List.mem_append_right _ List.mem_cons_self
        rw [hc, List.mem_append, List.mem_singleton] at hm
        rcases hm with hm | hm
        · exact absurd (hd _ hm) (by decide)
        · exact absurd hm (by decide)

/-- Plain text is copied. By induction along it: its own end is plain too. -/
theorem fillFrom_literal (l : Literal) (hr : Opens rest) :
    fillFrom args (l.text ++ rest) =
      (fillFrom args rest).bind fun out => .done (l.text ++ out) := by
  generalize ht : l.text = text
  induction text generalizing l with
  | nil => exact (bind_done _).symm
  | cons c text ih =>
    obtain ⟨l', hl'⟩ := Literal.tail ht
    have hpass : c = '\x7b' → scanPlaceholder (text ++ rest) = none := by
      rintro rfl
      exact scan_literal ht hr
    rw [List.cons_append, fillFrom_none hpass, ih l' hl', bind_assoc]
    rfl

theorem fillFrom_slot (s : Slot) (rest : List Char) :
    fillFrom args (s.text ++ rest) = (replacement s.digits args).bind fun part =>
      (fillFrom args rest).bind fun out => .done (part ++ out) := by
  have htext : s.text ++ rest = '\x7b' :: (s.digits ++ '\x7d' :: rest) := by
    simp [Slot.text]
  rw [htext, fillFrom_some (scanPlaceholder_digits s.nonempty s.decimal)]

/-- After any text a template goes on with a placeholder, if at all. -/
theorem opens_slots (slots : List (Slot × Literal)) :
    Opens (slots.flatMap fun e => e.1.text ++ e.2.text) := by
  cases slots with
  | nil => nofun
  | cons e slots =>
    intro c hc
    exact (Option.some.inj hc).symm

/-! ## Filling -/

theorem placeholderIndex_slot (s : Slot) : placeholderIndex s.digits = .ok s.index := by
  have hlong : ¬ maxDigits < s.digits.length := Nat.not_lt.mpr s.readable
  rw [placeholderIndex, if_neg hlong, Slot.index, Nat.ofDigits_eq_foldr, List.map_reverse,
    List.foldr_reverse, List.foldl_map]
  congr 2
  funext n c
  exact Nat.add_comm _ _

theorem replacement_slot (s : Slot) : replacement s.digits args =
    match args[s.index]? with
    | some v => v.text.bind fun t => .done t.toList
    | none => .done s.text := by
  unfold replacement
  rw [placeholderIndex_slot]
  rfl

theorem verbal_replacement (digits : List Char) : (replacement digits args).Verbal := by
  unfold replacement
  split
  · exact ⟨trivial, trivial⟩
  · split
    · exact verbal_bind (verbal_text _) fun _ => verbal_done _
    · exact verbal_done _

theorem verbal_fill (text : String) : (fill text args).Verbal := by
  refine verbal_bind ?_ fun _ => verbal_done _
  fun_induction fillFrom args text.toList with
  | case1 => exact verbal_done _
  | case2 c text hc digits rest hs ih =>
    exact verbal_bind (verbal_replacement digits) fun _ => verbal_bind ih fun _ => verbal_done _
  | case3 c text hc hs ih => exact verbal_bind ih fun _ => verbal_done _
  | case4 c text hc ih => exact verbal_bind ih fun _ => verbal_done _

end Template

/-! ## Arguments that say their texts -/

variable {σ : Type} {answer : (q : Request) → σ → Except Fault q.Answer × σ} {I : σ → Prop}
  {args : List Value} {said : List String} {w : σ}

/-- Asked for its text where `I` holds, the value says this and raises nothing, and `I` holds again. -/
def Value.Utters (answer : (q : Request) → σ → Except Fault q.Answer × σ) (I : σ → Prop) (v : Value)
    (t : String) : Prop :=
  ∀ w, I w → ∃ w', v.text.run answer w = (.ok t, w') ∧ I w'

namespace Template

open Script

theorem run_slot (hs : List.Forall₂ (Value.Utters answer I) args said) (s : Slot) (hw : I w) :
    ∃ w', (replacement s.digits args).run answer w = (.ok (s.filled said), w') ∧ I w' := by
  rw [replacement_slot, Slot.filled]
  by_cases hk : s.index < args.length
  · have hk' : s.index < said.length := hs.length_eq ▸ hk
    obtain ⟨w', ht, hw'⟩ := hs.get hk hk' w hw
    rw [List.getElem?_eq_getElem hk, List.getElem?_eq_getElem hk']
    exact ⟨w', run_bind_of_ok ht _, hw'⟩
  · have hk' : said.length ≤ s.index := hs.length_eq ▸ Nat.le_of_not_lt hk
    rw [List.getElem?_eq_none (Nat.le_of_not_lt hk), List.getElem?_eq_none hk']
    exact ⟨w, rfl, hw⟩

/-- By induction on the placeholders that are left, each with the text after it. -/
theorem run_slots (hs : List.Forall₂ (Value.Utters answer I) args said)
    (slots : List (Slot × Literal)) (hw : I w) :
    ∃ w', (fillFrom args (slots.flatMap fun e => e.1.text ++ e.2.text)).run answer w =
      (.ok (slots.flatMap fun e => e.1.filled said ++ e.2.text), w') ∧ I w' := by
  induction slots generalizing w with
  | nil =>
    rw [List.flatMap_nil, fillFrom]
    exact ⟨w, rfl, hw⟩
  | cons e slots ih =>
    obtain ⟨w₁, hslot, hw₁⟩ := run_slot hs e.1 hw
    obtain ⟨w₂, hrest, hw₂⟩ := ih hw₁
    refine ⟨w₂, ?_, hw₂⟩
    rw [List.flatMap_cons, List.append_assoc, fillFrom_slot, run_bind_of_ok hslot,
      fillFrom_literal e.2 (opens_slots slots), Script.bind_assoc, run_bind_of_ok hrest]
    simp only [Script.bind, Script.run, List.flatMap_cons, List.append_assoc]

theorem run_fill (hs : List.Forall₂ (Value.Utters answer I) args said) (t : Pattern) (hw : I w) :
    ∃ w', (fill t.text args).run answer w = (.ok (t.filled said), w') ∧ I w' := by
  obtain ⟨w', hslots, hw'⟩ := run_slots hs t.rest hw
  refine ⟨w', ?_, hw'⟩
  rw [fill, Pattern.text, Pattern.written, String.toList_ofList,
    fillFrom_literal t.first (opens_slots t.rest), Script.bind_assoc, run_bind_of_ok hslots]
  rfl

theorem filled_nil (t : Pattern) : t.filled [] = t.text := by
  unfold Pattern.filled Pattern.text
  congr 1

/-- A template is filled with the texts of its arguments, each placeholder with that of its own
number, whatever these look like. Where a record's message changes by that, it is the filled template,
and rendering it asks for nothing but texts: there is no report. -/
theorem substituted_at_once (t : Pattern) (hs : List.Forall₂ (Value.Utters answer I) args said)
    (hw : I w) :
    ∃ w', (fill t.text args).run answer w = (.ok (t.filled said), w') ∧ I w' ∧
      ∀ (renderer : Renderer) (r : Record), renderer.layout = none →
        r.get "msg" = .ok (.str t.text) → r.get "args" = .ok (.tuple args) →
        t.filled said ≠ t.text →
        (renderer.text r).run answer w = (.ok (t.filled said), w') ∧
          (renderer.text r).Asks Request.IsErrand := by
  obtain ⟨w', hfill, hw'⟩ := run_fill hs t hw
  refine ⟨w', hfill, hw', fun renderer r hl hm ha hne => ?_⟩
  have hargs : args ≠ [] := by
    rintro rfl
    cases hs
    exact hne (filled_nil t)
  have hverbal : (fill t.text args).Verbal := verbal_fill t.text
  rw [text_eq hl hm ha hargs]
  constructor
  · rw [run_bind_of_ok hfill, if_pos hne]
    rfl
  · refine asks_bind_yields hverbal.asks (hverbal.yields (hverbal.quiet hfill))
      fun message hmessage => ?_
    rw [hmessage, if_pos hne]
    trivial

/-- Text in which the scanner finds no placeholder holds none. By induction on what stands before it. -/
theorem plain_of_placeholders {text digits : List Char} (h : placeholders text = [])
    (hne : digits ≠ []) (hd : ∀ c ∈ digits, isDecimal c = true) :
    ¬ '\x7b' :: (digits ++ ['\x7d']) <:+: text := by
  rintro ⟨before, after, rfl⟩
  induction before with
  | nil =>
    have hscan : scanPlaceholder (digits ++ '\x7d' :: after) = some (digits, after) :=
      scanPlaceholder_digits hne hd
    rw [List.nil_append, List.cons_append, List.append_assoc, List.singleton_append,
      placeholders_some rfl hscan] at h
    cases h
  | cons c before ih =>
    rw [List.cons_append, List.cons_append] at h
    cases hs : scanPlaceholder (before ++ '\x7b' :: (digits ++ ['\x7d']) ++ after) with
    | none => exact ih (by rwa [placeholders_none fun _ => hs] at h)
    | some found =>
      by_cases hc : c = '\x7b'
      · subst hc
        rw [placeholders_some rfl hs] at h
        cases h
      · rw [placeholders_none fun hb => absurd (beq_iff_eq.mp hb) hc] at h
        exact ih h

def Slot.ofDigits (digits : List Char) (hn : digits ≠ []) (hd : digits.all isDecimal = true)
    (hr : digits.length ≤ 4300) : Slot := ⟨digits, hn, List.all_eq_true.mp hd, hr⟩

def Literal.ofText (text : String) (h : placeholders text.toList = []) : Literal :=
  ⟨text.toList, fun _ => plain_of_placeholders h⟩

/-- Braces beside braces, digits of another script, zeros in front, and a number without an argument. -/
def crowded : Pattern where
  first := .ofText "\x7b" (by decide +kernel)
  rest := [
    (.ofDigits ['\u0660'] (by decide) (by decide) (by decide),
      .ofText "\x7d\x7b1" (by decide +kernel)),
    (.ofDigits ['0', '1'] (by decide) (by decide) (by decide),
      .ofText " %d " (by decide +kernel)),
    (.ofDigits ['9'] (by decide) (by decide) (by decide),
      .ofText "" (by decide +kernel))]

def crowdedArguments : List Value := [.str "\x7b0\x7d %s", .bool true]

theorem substituted_at_once_crowded :
    List.Forall₂ (Value.Utters Printf.undisturbed fun _ => True) crowdedArguments
      ["\x7b0\x7d %s", "True"] ∧
    crowded.text = "\x7b\x7b\u0660\x7d\x7d\x7b1\x7b01\x7d %d \x7b9\x7d" ∧
    (fill crowded.text crowdedArguments).run Printf.undisturbed () =
      (.ok "\x7b\x7b0\x7d %s\x7d\x7b1True %d \x7b9\x7d", ()) ∧
    (plainRenderer.text (recordOf crowded.text crowdedArguments)).run Printf.undisturbed () =
      (.ok "\x7b\x7b0\x7d %s\x7d\x7b1True %d \x7b9\x7d", ()) ∧
    (plainRenderer.text (recordOf crowded.text crowdedArguments)).Asks Request.IsErrand := by
  have hs : List.Forall₂ (Value.Utters Printf.undisturbed fun _ => True) crowdedArguments
      ["\x7b0\x7d %s", "True"] := by
    refine .cons (fun w _ => ⟨w, ?_, trivial⟩) (.cons (fun w _ => ⟨w, ?_, trivial⟩) .nil)
    · simp only [Value.text, run]
    · simp only [Value.text, Value.quoted]
      rfl
  have hfilled : crowded.filled ["\x7b0\x7d %s", "True"] =
      "\x7b\x7b0\x7d %s\x7d\x7b1True %d \x7b9\x7d" := by decide +kernel
  have hne : crowded.filled ["\x7b0\x7d %s", "True"] ≠ crowded.text := by decide +kernel
  obtain ⟨w', hfill, -, hrender⟩ := substituted_at_once crowded hs (w := ()) trivial
  obtain ⟨htext, hasks⟩ := hrender plainRenderer (recordOf _ _) rfl rfl rfl hne
  exact ⟨hs, by decide +kernel, hfilled ▸ hfill, hfilled ▸ htext, hasks⟩

end Template

end Gelf
