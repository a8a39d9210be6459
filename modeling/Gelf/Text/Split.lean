/-!
# Gelf.Text.Split

Texts cut at a character.

* `splitFirst`, `splitLast`: the text before the first, or the last, such character and the text
  after it. `splitFirst_eq_some_iff` says which cut `splitFirst` finds,
  `splitLast_eq_some` that `splitLast` finds one.
* `stems`: for a path, the path to each of its parts.
* `joined`: texts in a row with a separator between them.
* `containsText`: does one text stand somewhere in another?
-/

namespace Gelf.Text

def splitFirst (c : Char) : List Char → Option (List Char × List Char)
  | [] => none
  | d :: rest =>
    if d = c then some ([], rest)
    else (splitFirst c rest).map fun (before, after) => (d :: before, after)

def splitLast (c : Char) : List Char → Option (List Char × List Char)
  | [] => none
  | d :: rest =>
    match splitLast c rest with
    | some (before, after) => some (d :: before, after)
    | none => if d = c then some ([], rest) else none

/-- The beginnings of a text that end just before the character, and the whole text. -/
def stems (c : Char) : List Char → List (List Char)
  | [] => [[]]
  | d :: rest =>
    let more := (stems c rest).map (d :: ·)
    if d = c then [] :: more else more

def joined (sep : String) : List String → String
  | [] => ""
  | [s] => s
  | s :: rest => s ++ (sep ++ joined sep rest)

/-- Does `part` stand somewhere in `s`? -/
def containsText (part : List Char) : List Char → Bool
  | [] => part.isEmpty
  | c :: rest => part.isPrefixOf (c :: rest) || containsText part rest

theorem splitFirst_eq_some_iff {c : Char} {s before after : List Char} :
    splitFirst c s = some (before, after) ↔ s = before ++ c :: after ∧ c ∉ before := by
  induction s generalizing before with
  | nil => simp [splitFirst]
  | cons d rest ih =>
    by_cases h : d = c
    · subst h
      cases before with
      | nil => simp [splitFirst, eq_comm]
      | cons e before =>
        simp only [splitFirst, if_true, Option.some.injEq, Prod.mk.injEq, List.cons_append,
          List.cons.injEq, List.mem_cons, not_or]
        exact ⟨fun hc => absurd hc.1 (by simp), fun hc => absurd hc.1.1 hc.2.1⟩
    · cases before with
      | nil =>
        simp only [splitFirst, h, if_false, Option.map_eq_some_iff, Prod.mk.injEq,
          List.nil_append, List.cons.injEq, false_and]
        exact iff_of_false (fun ⟨_, _, hc, _⟩ => by simp at hc) (by simp)
      | cons e before =>
        simp only [splitFirst, h, if_false, Option.map_eq_some_iff, Prod.mk.injEq,
          List.cons.injEq, List.cons_append, List.mem_cons, not_or]
        constructor
        · rintro ⟨⟨b, a⟩, hs, ⟨rfl, rfl⟩, rfl⟩
          obtain ⟨rfl, hb⟩ := ih.1 hs
          exact ⟨⟨rfl, rfl⟩, Ne.symm h, hb⟩
        · rintro ⟨⟨rfl, rfl⟩, _, hb⟩
          exact ⟨(before, after), ih.2 ⟨rfl, hb⟩, ⟨rfl, rfl⟩, rfl⟩

theorem splitLast_eq_some {c : Char} {s before after : List Char}
    (h : splitLast c s = some (before, after)) : s = before ++ c :: after := by
  induction s generalizing before with
  | nil => cases h
  | cons d rest ih =>
    rw [splitLast] at h
    split at h
    · rename_i hr
      cases h
      rw [ih hr]
      rfl
    · split at h
      · rename_i hd
        cases h
        rw [hd]
        rfl
      · cases h

theorem splitLast_isSome {c : Char} {s : List Char} (h : c ∈ s) : (splitLast c s).isSome := by
  induction s with
  | nil => cases h
  | cons d rest ih =>
    rw [splitLast]
    split
    · rfl
    · rename_i hr
      cases h with
      | head => rw [if_pos rfl]; rfl
      | tail _ h =>
        have := ih h
        rw [hr] at this
        cases this

theorem mem_joined {sep : String} {items : List String} {c : Char}
    (h : c ∈ (joined sep items).toList) : c ∈ sep.toList ∨ ∃ s ∈ items, c ∈ s.toList := by
  induction items with
  | nil => cases h
  | cons s rest ih =>
    cases rest with
    | nil => exact .inr ⟨s, List.mem_cons_self, h⟩
    | cons t rest =>
      rw [joined, String.toList_append, String.toList_append, List.mem_append, List.mem_append] at h
      · obtain h | h | h := h
        · exact .inr ⟨s, List.mem_cons_self, h⟩
        · exact .inl h
        · exact (ih h).imp_right fun ⟨u, hu, hc⟩ => ⟨u, List.mem_cons_of_mem s hu, hc⟩
      · nofun

end Gelf.Text
