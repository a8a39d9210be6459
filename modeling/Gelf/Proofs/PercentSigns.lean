import Gelf.Proofs.Layers
import Gelf.Proofs.Precheck

/-!
# Gelf.Proofs.PercentSigns

Where the percent signs of a filled in format come from.

* `Value.Unmarked`: texts, and mappings from names to texts, that hold no percent sign.
* `convert_unmarked`: no conversion puts a percent sign into such a value.
* `doubles`: the places of a text where two percent signs stand in a row. `doubles_lt_count`: a text
  that has percent signs has fewer such places.
* `count_format_le`: a format that is filled with such values has a percent sign for each of its double
  ones at most, and none from elsewhere.
-/

namespace Gelf

namespace Text

/-! ## Quoting adds no percent sign -/

variable {s : List Char}

theorem not_mem_hex (width n : Nat) : '%' ∉ hex width n := by
  have hdigit : ∀ d < 16, hexDigit d ≠ '%' := by decide
  induction width generalizing n with
  | zero => exact List.not_mem_nil
  | succ width ih =>
    rw [hex, List.mem_append, List.mem_singleton, not_or]
    exact ⟨ih _, Ne.symm (hdigit _ (Nat.mod_lt n (by decide)))⟩

theorem not_mem_numbered (n : Nat) : '%' ∉ numbered n := by
  unfold numbered
  split
  · simp [not_mem_hex]
  · split <;> simp [not_mem_hex]

theorem not_mem_quotedChar {c : Char} (hc : '%' ≠ c) (q : Char) : '%' ∉ quotedChar q c := by
  unfold quotedChar
  split
  · simp [hc]
  · split
    · decide
    · split
      · decide
      · split
        · decide
        · split
          · simp [hc]
          · exact not_mem_numbered _

theorem not_mem_quoted (h : '%' ∉ s) : '%' ∉ quoted s := by
  have hq : '%' ≠ quoteFor s := by
    unfold quoteFor
    split <;> decide
  have hbody : '%' ∉ s.flatMap (quotedChar (quoteFor s)) := by
    rw [List.mem_flatMap]
    rintro ⟨c, hc, hm⟩
    exact not_mem_quotedChar (fun hp => h (hp ▸ hc)) _ hm
  simp [quoted, hq, hbody]

theorem not_mem_asciiOnly (h : '%' ∉ s) : '%' ∉ asciiOnly s := by
  rw [asciiOnly, List.mem_flatMap]
  rintro ⟨c, hc, hm⟩
  split at hm
  · exact h (List.mem_singleton.mp hm ▸ hc)
  · exact not_mem_numbered _ hm

end Text

open Gelf.Text Script

/-! ## Values without percent signs -/

/-- A text without percent signs, or a mapping from such names to such texts. -/
inductive Value.Unmarked : Value → Prop where
  | text {s : String} (h : '%' ∉ s.toList) : Value.Unmarked (.str s)
  | mapping {fields : Named String} (h : ∀ n ∈ fields, '%' ∉ n.1.toList ∧ '%' ∉ n.2.toList) :
    Value.Unmarked (fieldsValue fields)

theorem not_mem_quotedText {s : String} (h : '%' ∉ s.toList) : '%' ∉ (quotedText s).toList := by
  rw [quotedText, String.toList_ofList]
  exact not_mem_quoted h

theorem quotedEntries_fields (fields : Named String) :
    quotedEntries (fields.map fun n => (.str n.1, .str n.2)) =
      .ok (fields.map fun n => quotedText n.1 ++ ": " ++ quotedText n.2) := by
  induction fields with
  | nil => rfl
  | cons n rest ih => simp only [List.map_cons, quotedEntries, quotedEntry, Value.quoted, ih]

theorem quoted_unmarked {v : Value} (hv : v.Unmarked) {s : String} (h : v.quoted = .ok s) :
    '%' ∉ s.toList := by
  cases hv with
  | text hs =>
    cases h
    exact not_mem_quotedText hs
  | @mapping fields hf =>
    rw [fieldsValue, Value.quoted, quotedEntries_fields] at h
    cases h
    have hitems : '%' ∉ (joined ", "
        (fields.map fun n => quotedText n.1 ++ ": " ++ quotedText n.2)).toList := by
      intro hm
      obtain hm | ⟨_, hs, hm⟩ := mem_joined hm
      · exact absurd hm (by decide)
      · obtain ⟨n, hn, rfl⟩ := List.mem_map.mp hs
        obtain ⟨hkey, hvalue⟩ := hf n hn
        simp only [String.toList_append, List.mem_append] at hm
        obtain (hm | hm) | hm := hm
        · exact not_mem_quotedText hkey hm
        · exact absurd hm (by decide)
        · exact not_mem_quotedText hvalue hm
    simp [String.toList_append, hitems]

theorem text_unmarked {v : Value} (hv : v.Unmarked) : v.text.Yields ('%' ∉ ·.toList) := by
  cases hv with
  | text hs => exact hs
  | mapping hf =>
    rw [fieldsValue, Value.text]
    · exact yields_ofExcept fun s h => quoted_unmarked (.mapping hf) h
    all_goals nofun

theorem Value.Unmarked.offers {v : Value} (hv : v.Unmarked) (m : NumberMethod) :
    v.offers m = false := by
  cases hv <;> rfl

namespace Printf

/-! ## Conversions without percent signs -/

def Piece.Unmarked (p : Piece) : Prop := '%' ∉ p.sign ∧ '%' ∉ p.lead ∧ '%' ∉ p.body

theorem Piece.unmarked_ofText {s : List Char} (h : '%' ∉ s) : (Piece.ofText s).Unmarked :=
  ⟨List.not_mem_nil, List.not_mem_nil, h⟩

theorem not_mem_clip {s : List Char} (h : '%' ∉ s) (precision : Option Nat) :
    '%' ∉ clip precision s := by
  cases precision with
  | none => exact h
  | some p => exact fun hm => h (List.mem_of_mem_take hm)

theorem charArgument_unmarked {v : Value} (hv : v.Unmarked) {c : Char}
    (h : charArgument v = .ok c) : '%' ≠ c := by
  cases hv with
  | text hs =>
    rw [charArgument] at h
    split at h
    · rename_i d hd
      cases h
      rw [hd, List.mem_singleton] at hs
      exact hs
    · cases h
  | mapping hf => cases h

/-- One case for each group of letters: a text or a mapping is no number, so just the letters for texts
are left. -/
theorem convert_unmarked {v : Value} (hv : v.Unmarked) (spec : Spec) (index : Nat) :
    (spec.convert index v).Yields Piece.Unmarked := by
  have hnumber : ¬ [NumberMethod.index, .int, .float].any v.offers = true := by
    simp [hv.offers]
  unfold Spec.convert
  dsimp only
  split
  case h_1 =>
    exact yields_bind (text_unmarked hv) fun s hs => Piece.unmarked_ofText (not_mem_clip hs _)
  case h_2 =>
    refine yields_bind (yields_ofExcept fun _ h => quoted_unmarked hv h) fun s hs => ?_
    exact Piece.unmarked_ofText (not_mem_clip hs _)
  case h_3 =>
    refine yields_bind (yields_ofExcept fun _ h => quoted_unmarked hv h) fun s hs => ?_
    exact Piece.unmarked_ofText (not_mem_clip (not_mem_asciiOnly hs) _)
  case h_4 =>
    refine yields_bind (yields_ofExcept fun _ h => charArgument_unmarked hv h) fun c hc => ?_
    exact Piece.unmarked_ofText fun hm => hc (List.mem_singleton.mp hm)
  case h_17 => trivial
  case h_5 | h_6 | h_7 =>
    exact yields_bind (yields_ofExcept fun _ h => absurd (decimalArgument_offers h) hnumber)
      fun _ => False.elim
  case h_8 | h_9 | h_10 =>
    refine yields_bind (yields_ofExcept fun _ h => ?_) fun _ => False.elim
    exact absurd ((hv.offers .index).symm.trans (wholeArgument_offers h)) (by decide)
  all_goals
    exact yields_bind (yields_ofExcept fun _ h => absurd (asReal_offers h) hnumber)
      fun _ => False.elim

theorem place_unmarked {p : Piece} (hp : p.Unmarked) {spec : Spec} {field : List Char}
    (h : spec.place p = .ok field) : '%' ∉ field := by
  obtain ⟨hsign, hlead, hbody⟩ := hp
  unfold Spec.place at h
  split at h
  · cases h
  · cases h
    unfold Spec.layOut
    dsimp only
    split
    · simp [hsign, hlead, hbody]
    · split <;> simp [hsign, hlead, hbody]

/-! ## Arguments without percent signs -/

def Supply.Unmarked (s : Supply) : Prop :=
  (∀ v ∈ s.items, v.Unmarked) ∧ ∀ m, s.mapping = some m → m.Unmarked

theorem Supply.Left.unmarked {s s' : Supply} (h : s.Left s') (hs : s.Unmarked) : s'.Unmarked := by
  refine ⟨fun v hv => hs.1 v (h.1.subset hv), fun m hm => hs.2 m (h.2.symm.trans hm)⟩

theorem unmarked_ofArgs {v : Value} (hv : v.Unmarked) : (Supply.ofArgs v).Unmarked := by
  cases hv with
  | text hs => exact ⟨by simpa [Supply.ofArgs] using .text hs, nofun⟩
  | mapping hf =>
    have hv := Value.Unmarked.mapping hf
    refine ⟨fun u hu => ?_, fun m hm => ?_⟩
    · cases List.mem_singleton.mp hu
      exact hv
    · cases hm
      exact hv

theorem lookUp_unmarked {m v : Value} (hm : m.Unmarked) {key : String} (h : lookUp m key = .ok v) :
    v.Unmarked := by
  cases hm with
  | text hs => cases h
  | mapping hf =>
    obtain ⟨l, hl⟩ := Entries.mem_of_get? (lookUp_entry h)
    obtain ⟨n, hn, he⟩ := List.mem_map.mp hl
    cases he
    exact .text (hf n hn).2

theorem read_unmarked {s s' : Supply} (hs : s.Unmarked) {text rest : List Char} {spec : Spec}
    (h : Spec.read s text = .ok (spec, s', rest)) : s'.Unmarked := by
  obtain ⟨c, -, -, -, ⟨-, hleft, -⟩ | ⟨key, m, v, -, hm, hv, hleft, -⟩⟩ := read_conversion h
  · exact hleft.unmarked hs
  · refine hleft.unmarked ⟨fun u hu => ?_, hs.2⟩
    cases List.mem_singleton.mp hu
    exact lookUp_unmarked (hs.2 m hm) hv

theorem next_unmarked {s : Supply} (hs : s.Unmarked) {taken : Value × Supply}
    (h : s.next = .ok taken) : taken.1.Unmarked ∧ taken.2.Unmarked := by
  obtain ⟨hitems, hmapping⟩ := next_ok h
  have hall := hs.1
  rw [hitems, List.forall_mem_cons] at hall
  exact ⟨hall.1, hall.2, fun m hm => hs.2 m (hmapping.symm.trans hm)⟩

/-! ## Double percent signs -/

/-- How often two percent signs stand in a row. -/
def doubles : List Char → Nat
  | [] => 0
  | c :: rest => (if c = '%' ∧ rest.head? = some '%' then 1 else 0) + doubles rest

theorem doubles_le_of_suffix {text rest : List Char} (h : rest <:+ text) :
    doubles rest ≤ doubles text := by
  obtain ⟨before, rfl⟩ := h
  induction before with
  | nil => exact Nat.le_refl _
  | cons c before ih => exact Nat.le_add_left_of_le ih

/-- Another character keeps what is before it apart from what is after it. -/
theorem doubles_append {c : Char} (hc : c ≠ '%') (text rest : List Char) :
    doubles (text ++ c :: rest) = doubles text + doubles rest := by
  induction text with
  | nil => simp [doubles, hc]
  | cons d text ih =>
    have hnext : (text ++ c :: rest).head? = some '%' ↔ text.head? = some '%' := by
      cases text with
      | nil => simp [hc]
      | cons e text => rfl
    simp only [List.cons_append, doubles, hnext, ih]
    omega

theorem doubles_of_not_mem {text : List Char} (h : '%' ∉ text) : doubles text = 0 := by
  induction text with
  | nil => rfl
  | cons c text ih =>
    rw [List.mem_cons, not_or] at h
    simp [doubles, ih h.2, Ne.symm h.1]

/-- The last of the percent signs is not followed by another one. -/
theorem doubles_lt_count {text : List Char} (h : '%' ∈ text) : doubles text < text.count '%' := by
  induction text with
  | nil => cases h
  | cons c rest ih =>
    by_cases hr : '%' ∈ rest
    · have hlt := ih hr
      rw [doubles, List.count_cons]
      by_cases hc : c = '%'
      · subst hc
        split <;> simp <;> omega
      · simp [hc]
        omega
    · have hc : c = '%' := ((List.mem_cons.mp h).resolve_right hr).symm
      have hlast : rest.head? ≠ some '%' := fun hh => hr (List.mem_of_head? hh)
      subst hc
      simp [doubles, hlast, doubles_of_not_mem hr]

/-! ## Percent signs in a filled in format -/

/-- By induction along the format: two percent signs in a row yield one, and nothing else does. -/
theorem count_formatFrom_le {size : Nat} {s : Supply} (hs : s.Unmarked) (text : List Char) :
    (formatFrom size s text).Yields fun out => out.count '%' ≤ doubles text := by
  fun_induction formatFrom size s text with
  | case1 s => exact yields_bind (yields_any _) fun _ _ => Nat.le_refl 0
  | case2 s rest ih =>
    refine yields_bind (ih hs) fun out hout => ?_
    have hrest : doubles rest ≤ doubles ('%' :: rest) := doubles_le_of_suffix (List.suffix_cons _ _)
    have hdouble : doubles ('%' :: '%' :: rest) = 1 + doubles ('%' :: rest) := rfl
    show ('%' :: out).count '%' ≤ _
    rw [List.count_cons_self, hdouble]
    omega
  | case3 s text hn f hr => trivial
  | case4 s text hn spec s' rest hr ih =>
    obtain ⟨c, hread, -⟩ := read_conversion hr
    have hleft : rest <:+ text := (List.suffix_cons _ _).trans (Conversion.read_suffix hread)
    have hrest : doubles rest ≤ doubles ('%' :: text) :=
      doubles_le_of_suffix (hleft.trans (List.suffix_cons _ _))
    refine yields_bind (yields_ofExcept fun _ h => next_unmarked (read_unmarked hs hr) h) ?_
    rintro ⟨v, s''⟩ ⟨hv, hs''⟩
    refine yields_bind (convert_unmarked hv _ _) fun piece hpiece => ?_
    refine yields_bind (yields_ofExcept fun _ h => place_unmarked hpiece h) fun field hfield => ?_
    refine yields_bind (ih s'' hs'') fun out hout => ?_
    show (field ++ out).count '%' ≤ _
    rw [List.count_append, List.count_eq_zero_of_not_mem hfield]
    omega
  | case5 s c rest _ hc ih =>
    refine yields_bind (ih hs) fun out hout => ?_
    have hrest := doubles_le_of_suffix (List.suffix_cons c rest)
    show (c :: out).count '%' ≤ doubles (c :: rest)
    rw [List.count_cons_of_ne hc]
    exact Nat.le_trans hout hrest

theorem count_format_le {v : Value} (hv : v.Unmarked) (text : String) :
    (format text v).Yields fun out => out.toList.count '%' ≤ doubles text.toList := by
  refine yields_bind (count_formatFrom_le (unmarked_ofArgs hv) text.toList) fun out hout => ?_
  show (String.ofList out).toList.count '%' ≤ _
  rw [String.toList_ofList]
  exact hout

end Printf

end Gelf
