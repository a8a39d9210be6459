import Gelf.Proofs.Percent

/-!
# Gelf.Proofs.LevelNames

Severities of levels that are told by their name, and of those that are told by their number.

* `LevelNames.registered`: the registry after any numbers and names were linked, in any order.
  `LevelNames.Linked`: a number and a name that stand for each other.
* `LevelNames.Plain`: names are texts and numbers are integers. `number?_add`: the last number that
  a name was linked to counts.
* `severity_number`, `severity_text`: a linked number is as severe as it or its name says; a name is
  looked up in its normal form only.
* `alike_iff_normal`: a name in normal form is as severe as the number it is linked to, in every
  registry, and no other name is. `lower_case_apart`: a name in lower case is not found.
-/

namespace Gelf

theorem Value.sameKey_str_right {k : Value} {s : String} :
    k.sameKey (.str s) = true ↔ k = .str s := by
  cases k <;> simp [Value.sameKey, Value.wholeNumber?]

theorem Value.sameKey_str_left {k : Value} {s : String} :
    (Value.str s).sameKey k = true ↔ k = .str s := by
  cases k with
  | str t => rw [Value.sameKey, beq_iff_eq, Value.str.injEq, eq_comm]
  | _ => simp [Value.sameKey, Value.wholeNumber?]

namespace Entries

theorem get?_put_self (es : Entries) {k : Value} (hk : k.sameKey k = true) (v : Value) :
    (es.put k v).get? k = some v := by
  induction es with
  | nil => simp [put, get?, hk]
  | cons e rest ih =>
    obtain ⟨l, u⟩ := e
    by_cases hl : l.sameKey k = true
    · simp [put, get?, hl]
    · simp [put, get?, hl, ih]

theorem get?_put_of_ne (es : Entries) {k : Value} {s : String} (hk : k ≠ .str s) (v : Value) :
    (es.put k v).get? (.str s) = es.get? (.str s) := by
  induction es with
  | nil => simp [put, get?, Value.sameKey_str_right, hk]
  | cons e rest ih =>
    obtain ⟨l, u⟩ := e
    by_cases hl : l.sameKey k = true
    · have hs : l ≠ .str s := by
        rintro rfl
        exact hk (Value.sameKey_str_left.mp hl)
      simp [put, get?, hl, Value.sameKey_str_right, hs]
    · simp [put, get?, hl, ih]

end Entries

namespace LevelNames

/-! ## Registries -/

/-- The registry after numbers and names were linked, first to last. -/
def registered (history : List (Int × String)) : LevelNames :=
  history.foldl (fun r e => r.add (.int e.1) (.str e.2)) standard

/-- The number has this name, and the name stands for this number. -/
structure Linked (r : LevelNames) (n : Int) (s : String) : Prop where
  name : r.nameOf (.int n) = .done (.str s)
  number : r.nameOf (.str s) = .done (.int n)

/-- The number that a text stands for. -/
def number? (r : LevelNames) (s : String) : Option Int :=
  match Entries.get? r.numbers (.str s) with
  | some (.int n) => some n
  | _ => none

/-- Only numbers have names, and texts stand for integers only. -/
structure Plain (r : LevelNames) : Prop where
  names : ∀ s, Entries.get? r.names (.str s) = none
  numbers : ∀ s, Entries.get? r.numbers (.str s) = (r.number? s).map .int

variable {r : LevelNames} {n : Int} {s : String}

theorem plain_standard : standard.Plain where
  names s := by simp [standard, Entries.get?, Value.sameKey_str_right]
  numbers s := by
    cases h : Entries.get? standard.numbers (.str s) with
    | none => simp [number?, h]
    | some v =>
      have hall : ∀ e ∈ standard.numbers, ∃ m, e.2 = .int m := by simp [standard]
      obtain ⟨l, hl⟩ := Entries.mem_of_get? h
      obtain ⟨m, rfl⟩ := hall _ hl
      simp [number?, h]

theorem number?_add (r : LevelNames) (n : Int) (s t : String) :
    (r.add (.int n) (.str s)).number? t = if s = t then some n else r.number? t := by
  unfold number? add
  by_cases hs : s = t
  · subst hs
    rw [Entries.get?_put_self _ (Value.sameKey_str_right.mpr rfl), if_pos rfl]
  · have hk : Value.str s ≠ .str t := by
      intro h
      exact hs (Value.str.inj h)
    rw [Entries.get?_put_of_ne _ hk, if_neg hs]

theorem Plain.add (hr : r.Plain) (n : Int) (s : String) : (r.add (.int n) (.str s)).Plain where
  names t := by
    have hk : Value.int n ≠ .str t := by
      intro h
      cases h
    exact (Entries.get?_put_of_ne _ hk _).trans (hr.names t)
  numbers t := by
    rw [number?_add]
    by_cases hs : s = t
    · subst hs
      rw [if_pos rfl]
      exact Entries.get?_put_self _ (Value.sameKey_str_right.mpr rfl) _
    · have hk : Value.str s ≠ .str t := by
        intro h
        exact hs (Value.str.inj h)
      rw [if_neg hs]
      exact (Entries.get?_put_of_ne _ hk _).trans (hr.numbers t)

/-- By induction on the history: every registry is plain. -/
theorem plain_registered (history : List (Int × String)) : (registered history).Plain := by
  unfold registered
  generalize hr : standard = r
  have hplain : r.Plain := hr ▸ plain_standard
  clear hr
  induction history generalizing r with
  | nil => exact hplain
  | cons e rest ih => exact ih _ (hplain.add e.1 e.2)

/-! ## Lookups -/

theorem format_level (t : String) :
    Printf.format "Level %s" (.str t) = .done ("Level " ++ t) := by
  have htext : "Level %s".toList = "Level ".toList ++ '%' :: 's' :: [] := by decide
  have hargs : Printf.Supply.ofArgs (.str t) = ⟨[.str t], none⟩ := rfl
  unfold Printf.format
  rw [htext, hargs, Printf.formatFrom_append (by decide), Printf.formatFrom_text,
    Printf.formatFrom_done List.not_mem_nil]
  simp only [Value.text, Script.bind, List.append_nil, String.ofList_append, String.ofList_toList]

/-- A text stands for a number, or a name is made up for it. -/
theorem Plain.nameOf_text (hr : r.Plain) (t : String) : r.nameOf (.str t) =
    .done (match r.number? t with
      | some m => .int m
      | none => .str ("Level " ++ t)) := by
  unfold nameOf
  simp only [Value.checkKey, hr.names t, hr.numbers t]
  cases r.number? t with
  | some m => rfl
  | none =>
    simp only [Option.map_none, present, format_level, Script.bind]

/-! ## Severities -/

theorem severity_number (hl : r.Linked n s) :
    r.severity (.int n) = .done (severityOf (some n) (.str s)) := by
  unfold severity
  dsimp only
  rw [hl.name]
  rfl

/-- A name is looked up in its normal form. -/
theorem Plain.severity_text (hr : r.Plain) (s : String) : r.severity (.str s) =
    .done (severityOf (r.number? (strippedUpper s)) (.str (strippedUpper s))) := by
  unfold severity
  simp only [Value.text, Script.bind, hr.nameOf_text]
  cases r.number? (strippedUpper s) with
  | some m => rfl
  | none => rfl

theorem Plain.linked (hr : r.Plain) (n : Int) (s : String) :
    (r.add (.int n) (.str s)).Linked n s where
  name := by
    have hn : (Value.int n).sameKey (.int n) = true := by simp [Value.sameKey, Value.wholeNumber?]
    have hname : Entries.get? (r.add (.int n) (.str s)).names (.int n) = some (.str s) :=
      Entries.get?_put_self _ hn _
    unfold nameOf
    simp only [Value.checkKey, hname, present]
  number := by
    rw [(hr.add n s).nameOf_text, number?_add, if_pos rfl]

theorem Plain.number?_of_linked (hr : r.Plain) (hl : r.Linked n s) : r.number? s = some n := by
  have hname := hl.number
  rw [hr.nameOf_text] at hname
  cases hm : r.number? s with
  | some m =>
    rw [hm] at hname
    cases hname
    rfl
  | none =>
    rw [hm] at hname
    cases hname

/-- A number that is linked to another spelling of its name says nothing about the name. -/
theorem Plain.severity_misspelt (hr : r.Plain) (hs : strippedUpper s ≠ s) (n : Int) :
    (r.add (.int n) (.str s)).severity (.str s) = r.severity (.str s) := by
  rw [(hr.add n s).severity_text, hr.severity_text, number?_add, if_neg (Ne.symm hs)]

/-- In every registry that linking numbers and names can make, a number that is linked both ways is
told by its tier or else by its name, and its name by the number that the name's normal form stands
for or else by that form. They come to the same in every registry just if the name is in its normal
form: in upper case, without blanks at its ends. Any other name is missed after a single call. -/
theorem alike_iff_normal (s : String) :
    (∀ history n, (registered history).Linked n s →
      (registered history).severity (.int n) = .done (severityOf (some n) (.str s)) ∧
      (registered history).severity (.str s) = .done (severityOf
        ((registered history).number? (strippedUpper s)) (.str (strippedUpper s)))) ∧
    ((∀ history n, (registered history).Linked n s →
      (registered history).severity (.str s) = (registered history).severity (.int n)) ↔
      strippedUpper s = s) := by
  refine ⟨fun history n hl => ⟨severity_number hl, (plain_registered history).severity_text s⟩, ?_⟩
  constructor
  · intro h
    by_cases hs : strippedUpper s = s
    · exact hs
    · -- linked to either of two tiers, the name would have to be as severe as both
      exfalso
      have hsame : ∀ n, standard.severity (.str s) = .done (severityOf (some n) (.str s)) := by
        intro n
        have hl : (registered [(n, s)]).Linked n s := plain_standard.linked n s
        rw [← severity_number hl, ← h [(n, s)] n hl]
        exact (plain_standard.severity_misspelt hs n).symm
      have herror : standard.severity (.str s) = .done .error := hsame 40
      have hwarning : standard.severity (.str s) = .done .warning := hsame 30
      rw [herror] at hwarning
      cases hwarning
  · intro hs history n hl
    have hplain := plain_registered history
    rw [severity_number hl, hplain.severity_text, hs, hplain.number?_of_linked hl]

/-- A name that changed hands, and its number. -/
theorem alike_iff_normal_traded :
    let history := [(30, "LOUD"), (25, "NOTICE"), (30, "NOTICE"), (25, "LOUD")]
    (registered history).Linked 25 "LOUD" ∧
      (registered history).severity (.str "LOUD") = (registered history).severity (.int 25) := by
  intro history
  have hl : (registered history).Linked 25 "LOUD" :=
    (plain_registered [(30, "LOUD"), (25, "NOTICE"), (30, "NOTICE")]).linked 25 "LOUD"
  exact ⟨hl, (alike_iff_normal "LOUD").2.mpr (by decide) history 25 hl⟩

/-- The number 40 is called `note`, and is an error under its number only. -/
theorem lower_case_apart : (registered [(40, "note")]).Linked 40 "note" ∧
    (registered [(40, "note")]).severity (.int 40) = .done .error ∧
    (registered [(40, "note")]).severity (.str "note") = .done .debug := by
  have hl : (registered [(40, "note")]).Linked 40 "note" := plain_standard.linked 40 "note"
  refine ⟨hl, severity_number hl, ?_⟩
  have hform : strippedUpper "note" = "NOTE" := by decide +kernel
  have hnone : (registered [(40, "note")]).number? "NOTE" = none := by
    rw [registered, List.foldl_cons, List.foldl_nil, number?_add]
    rfl
  rw [(plain_registered _).severity_text, hform, hnone]
  rfl

end LevelNames

end Gelf
