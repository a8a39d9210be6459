import Gelf.Printf.Precheck

/-!
# Gelf.Proofs.Conversion

The conversions of a text as a percent format reads them.

* `Conversion`, `conversions`: one conversion, and all of a text.
* `Passed`: a part of a text that reading leaves behind without a percent sign in it.
* `read_conversion`: what a format that reads a conversion has taken from its arguments meanwhile.
-/

namespace Gelf

open Gelf.Text

namespace Script

variable {σ α β : Type} {answer : (q : Request) → σ → Except Fault q.Answer × σ} {w w' : σ}

theorem run_bind_ok {s : Script α} {k : α → Script β} {b : β}
    (h : (s.bind k).run answer w = (.ok b, w')) :
    ∃ a w₁, s.run answer w = (.ok a, w₁) ∧ (k a).run answer w₁ = (.ok b, w') := by
  induction s generalizing w with
  | done a => exact ⟨a, w, rfl, h⟩
  | fail f => cases h
  | ask q next ih => exact ih _ h

theorem run_bind_of_ok {s : Script α} {a : α} {w₁ : σ} (h : s.run answer w = (.ok a, w₁))
    (k : α → Script β) : (s.bind k).run answer w = (k a).run answer w₁ := by
  induction s generalizing w with
  | done b =>
    cases h
    rfl
  | fail f => cases h
  | ask q next ih => exact ih _ h

theorem run_ofExcept_ok {x : Except Fault α} {a : α}
    (h : (ofExcept x).run answer w = (.ok a, w')) : x = .ok a ∧ w' = w := by
  cases x with
  | ok b =>
    cases h
    exact ⟨rfl, rfl⟩
  | error f => cases h

theorem run_request (r : Request) (w : σ) : (request r).run answer w = answer r w := by
  simp only [request, run]
  cases answer r w with
  | mk x w' => cases x <;> rfl

end Script

namespace Printf

open Script

/-! ## Conversions as a format reads them -/

/-- A conversion, apart from its flags and from what its numbers are. -/
structure Conversion where
  key : Option (List Char)
  star : Bool
  /-- Is there a point with neither a star nor digits after it? -/
  bare : Bool
  letter : Char

/-- A star or ASCII digits, if they stand here, and what follows. -/
def skipNumber : List Char → Option Bool × List Char
  | '*' :: rest => (some true, rest)
  | text => if startsWithDigit text then (some false, text.dropWhile isAsciiDigit) else (none, text)

/-- A point and what belongs to it: whether that is a star, whether it is nothing, and what follows. -/
def skipPoint : List Char → Bool × Bool × List Char
  | '.' :: rest => ((skipNumber rest).1 == some true, (skipNumber rest).1.isNone, (skipNumber rest).2)
  | text => (false, false, text)

def skipKey : List Char → Option (Option (List Char) × List Char)
  | '(' :: rest => (splitKey 1 rest).map fun (key, after) => (some key, after)
  | text => some (none, text)

/-- What follows the key of a conversion. -/
def Conversion.readBody (key : Option (List Char)) (text : List Char) :
    Option (Conversion × List Char) :=
  let (wide, text) := skipNumber (text.dropWhile flagLetters.contains)
  let (precise, bare, text) := skipPoint text
  match skipLength text with
  | c :: rest => some (⟨key, wide == some true || precise, bare, c⟩, rest)
  | [] => none

/-- The conversion that follows a percent sign. -/
def Conversion.read (text : List Char) : Option (Conversion × List Char) :=
  (skipKey text).bind fun (key, text) => Conversion.readBody key text

theorem skipPoint_other {text : List Char} (h : ∀ rest, text ≠ '.' :: rest) :
    skipPoint text = (false, false, text) := by
  unfold skipPoint
  split
  · exact absurd rfl (h _)
  · rfl

/-- The first text is the second one with some more in front, no percent sign among it. -/
def Passed (text rest : List Char) : Prop := ∃ before, '%' ∉ before ∧ text = before ++ rest

namespace Passed

variable {text middle rest : List Char}

theorem refl (text : List Char) : Passed text text := ⟨[], nofun, rfl⟩

theorem trans (h₁ : Passed text middle) (h₂ : Passed middle rest) : Passed text rest := by
  obtain ⟨p, hp, rfl⟩ := h₁
  obtain ⟨q, hq, rfl⟩ := h₂
  exact ⟨p ++ q, by rw [List.mem_append, not_or]; exact ⟨hp, hq⟩, (List.append_assoc _ _ _).symm⟩

theorem cons {c : Char} (hc : c ≠ '%') (rest : List Char) : Passed (c :: rest) rest :=
  ⟨[c], by rw [List.mem_singleton]; exact Ne.symm hc, rfl⟩

theorem dropWhile {p : Char → Bool} (hp : p '%' = false) (text : List Char) :
    Passed text (text.dropWhile p) := by
  refine ⟨text.takeWhile p, fun hm => ?_, List.takeWhile_append_dropWhile.symm⟩
  have hall := List.all_eq_true.mp List.all_takeWhile '%' hm
  rw [hp] at hall
  cases hall

theorem skipNumber (text : List Char) : Passed text (skipNumber text).2 := by
  unfold Printf.skipNumber
  split
  · exact cons (by decide) _
  · split
    · exact dropWhile (by decide) _
    · exact refl _

theorem skipPoint (text : List Char) : Passed text (skipPoint text).2.2 := by
  unfold Printf.skipPoint
  split
  · exact (cons (by decide) _).trans (skipNumber _)
  · exact refl _

theorem skipLength (text : List Char) : Passed text (skipLength text) := by
  unfold Printf.skipLength
  split
  · exact cons (by decide) _
  · exact cons (by decide) _
  · exact cons (by decide) _
  · exact refl _

theorem suffix (h : Passed text rest) : rest <:+ text := by
  obtain ⟨before, -, rfl⟩ := h
  exact List.suffix_append _ _

end Passed

theorem readBody_passed {key : Option (List Char)} {text rest : List Char} {c : Conversion}
    (h : Conversion.readBody key text = some (c, rest)) :
    Passed text (c.letter :: rest) ∧ c.key = key := by
  unfold Conversion.readBody at h
  dsimp only at h
  split at h
  · rename_i letter after hlen
    cases h
    have hend := Passed.skipLength
      (skipPoint (skipNumber (text.dropWhile flagLetters.contains)).2).2.2
    rw [hlen] at hend
    have hflags : Passed text (text.dropWhile flagLetters.contains) :=
      Passed.dropWhile (by decide) text
    exact ⟨((hflags.trans (.skipNumber _)).trans (.skipPoint _)).trans hend, rfl⟩
  · cases h

theorem Conversion.read_suffix {text rest : List Char} {c : Conversion}
    (h : Conversion.read text = some (c, rest)) : c.letter :: rest <:+ text := by
  obtain ⟨⟨key, t⟩, hkey, hbody⟩ := Option.bind_eq_some_iff.mp h
  have ht : t <:+ text := by
    unfold skipKey at hkey
    split at hkey
    · obtain ⟨⟨k, after⟩, hs, he⟩ := Option.map_eq_some_iff.mp hkey
      cases he
      exact (splitKey_suffix hs).trans (List.suffix_cons _ _)
    · cases hkey
      exact List.suffix_refl _
  exact (readBody_passed hbody).1.suffix.trans ht

theorem Conversion.read_length {text rest : List Char} {c : Conversion}
    (h : Conversion.read text = some (c, rest)) : rest.length < text.length :=
  (Conversion.read_suffix h).length_le

/-- All conversions of a text, up to one that breaks off. Two percent signs in a row are none. -/
def conversions : List Char → List Conversion
  | [] => []
  | '%' :: '%' :: rest => conversions rest
  | '%' :: text =>
    match _h : Conversion.read text with
    | some (c, rest) => c :: conversions rest
    | none => []
  | _ :: rest => conversions rest
termination_by text => text.length
decreasing_by
  · simp only [List.length_cons]
    omega
  · have := Conversion.read_length _h
    simp only [List.length_cons]
    omega
  · simp only [List.length_cons]
    omega

theorem conversions_some {text rest : List Char} {c : Conversion}
    (hn : ∀ more, text ≠ '%' :: more) (h : Conversion.read text = some (c, rest)) :
    conversions ('%' :: text) = c :: conversions rest := by
  rw [conversions]
  · split
    · rename_i hs
      cases h.symm.trans hs
      rfl
    · rename_i hs
      cases h.symm.trans hs
  · exact hn

theorem conversions_other {c : Char} (hc : c ≠ '%') (rest : List Char) :
    conversions (c :: rest) = conversions rest := by
  rw [conversions]
  · rintro more rfl
    exact absurd rfl hc
  · exact hc

theorem conversions_append {before : List Char} (h : '%' ∉ before) (rest : List Char) :
    conversions (before ++ rest) = conversions rest := by
  induction before with
  | nil => rfl
  | cons c before ih =>
    rw [List.mem_cons, not_or] at h
    rw [List.cons_append, conversions_other (Ne.symm h.1), ih h.2]

/-! ## What a format does with a conversion -/

theorem readKey_ok {s s₁ : Supply} {text t₁ : List Char} (h : readKey s text = .ok (s₁, t₁)) :
    (skipKey text = some (none, t₁) ∧ s₁ = s) ∨
      ∃ key m v, skipKey text = some (some key, t₁) ∧ s.mapping = some m ∧
        lookUp m (String.ofList key) = .ok v ∧ s₁ = { s with items := [v] } := by
  unfold readKey at h
  split at h
  · split at h
    · cases h
    · rename_i m hm
      split at h
      · cases h
      · rename_i key after hk
        split at h
        · rename_i v hv
          cases h
          exact .inr ⟨key, m, v, by simp [skipKey, hk], hm, hv, rfl⟩
        · cases h
  · rename_i hn
    cases h
    left
    unfold skipKey
    split
    · exact absurd rfl (hn _)
    · exact ⟨rfl, rfl⟩

theorem addFlag_isSome (f : Flags) (c : Char) :
    (addFlag f c).isSome = flagLetters.contains c := by
  unfold addFlag
  split
  case h_6 h₁ h₂ h₃ h₄ h₅ =>
    symm
    simp [flagLetters]
    exact ⟨h₄, h₅, h₁, h₃, h₂⟩
  all_goals rfl

theorem readFlags_eq (f : Flags) (text : List Char) :
    (readFlags f text).2 = text.dropWhile flagLetters.contains := by
  induction text generalizing f with
  | nil => rfl
  | cons c rest ih =>
    have hs := addFlag_isSome f c
    rw [readFlags, List.dropWhile_cons]
    cases hf : addFlag f c with
    | some g =>
      rw [hf] at hs
      rw [← hs]
      exact ih g
    | none =>
      rw [hf] at hs
      rw [← hs]
      rfl

theorem readBounded_eq {limit n v : Nat} {text rest : List Char}
    (h : readBounded limit n text = some (v, rest)) : rest = text.dropWhile isAsciiDigit := by
  induction text generalizing n with
  | nil =>
    cases h
    rfl
  | cons c t ih =>
    rw [readBounded] at h
    rw [List.dropWhile_cons]
    by_cases hc : isAsciiDigit c = true
    · rw [if_pos hc] at h ⊢
      split at h
      · cases h
      · exact ih h
    · rw [if_neg hc] at h ⊢
      cases h
      rfl

theorem skipNumber_snd {text : List Char} (h : ∀ rest, text ≠ '*' :: rest) :
    (skipNumber text).2 = text.dropWhile isAsciiDigit := by
  unfold skipNumber
  split
  · exact absurd rfl (h _)
  · split
    · rfl
    · rename_i hd
      cases text with
      | nil => rfl
      | cons c rest =>
        have hc : ¬ isAsciiDigit c = true := hd
        rw [List.dropWhile_cons, if_neg hc]

/-- Some of the arguments may have been taken meanwhile. -/
def Supply.Left (s s' : Supply) : Prop := s'.items <:+ s.items ∧ s'.mapping = s.mapping

theorem Supply.Left.refl (s : Supply) : s.Left s := ⟨List.suffix_refl _, rfl⟩

theorem Supply.Left.trans {s₁ s₂ s₃ : Supply} (h₁ : s₁.Left s₂) (h₂ : s₂.Left s₃) : s₁.Left s₃ :=
  ⟨h₂.1.trans h₁.1, h₂.2.trans h₁.2⟩

theorem starred_left {s s₁ : Supply} {n : Int} (h : starred s = .ok (n, s₁)) : s.Left s₁ := by
  obtain ⟨items, m⟩ := s
  unfold starred Supply.next at h
  cases items with
  | nil => cases h
  | cons v rest =>
    dsimp only at h
    split at h
    · cases h
      exact ⟨List.suffix_cons _ _, rfl⟩
    · cases h

theorem readWidth_ok {s s₁ : Supply} {text t₁ : List Char} {w : Option Nat} {left : Bool}
    (h : readWidth s text = .ok (w, left, s₁, t₁)) : s.Left s₁ ∧
      (skipNumber text).2 = t₁ ∧ ((skipNumber text).1 ≠ some true → s₁ = s) := by
  unfold readWidth at h
  split at h
  · split at h
    · cases h
    · rename_i hs
      split at h
      · cases h
      · cases h
        exact ⟨starred_left hs, rfl, fun hn => absurd rfl hn⟩
  · rename_i hstar
    have hskip : (skipNumber text).2 = text.dropWhile isAsciiDigit :=
      skipNumber_snd fun rest hr => hstar rest hr
    split at h
    · split at h
      · rename_i hb
        cases h
        exact ⟨.refl s, hskip.trans (readBounded_eq hb).symm, fun _ => rfl⟩
      · cases h
    · rename_i hd
      cases h
      refine ⟨.refl s, ?_, fun _ => rfl⟩
      unfold skipNumber
      split
      · exact absurd rfl (hstar _)
      · rw [if_neg hd]

theorem readPrecision_ok {s s₁ : Supply} {text t₁ : List Char} {p : Option Nat}
    (h : readPrecision s text = .ok (p, s₁, t₁)) : s.Left s₁ ∧
      (skipPoint text).2.2 = t₁ ∧ ((skipPoint text).1 = false → s₁ = s) := by
  unfold readPrecision at h
  split at h
  · split at h
    · cases h
    · rename_i hs
      split at h
      · cases h
      · cases h
        exact ⟨starred_left hs, rfl, fun hn => by cases hn⟩
  · rename_i rest hstar
    have hskip : (skipNumber rest).2 = rest.dropWhile isAsciiDigit :=
      skipNumber_snd fun more hr => hstar more hr
    split at h
    · rename_i hb
      cases h
      exact ⟨.refl s, hskip.trans (readBounded_eq hb).symm, fun _ => rfl⟩
    · cases h
  · rename_i hpoint
    cases h
    refine ⟨.refl s, ?_, fun _ => rfl⟩
    rw [skipPoint_other hpoint]

theorem readBody_ok {s₁ s₂ s' : Supply} {t₁ t₃ t₄ rest : List Char} {w p : Option Nat} {left : Bool}
    {letter : Char} (hw : readWidth s₁ (t₁.dropWhile flagLetters.contains) = .ok (w, left, s₂, t₃))
    (hp : readPrecision s₂ t₃ = .ok (p, s', t₄)) (hl : skipLength t₄ = letter :: rest)
    (key : Option (List Char)) : ∃ c, Conversion.readBody key t₁ = some (c, rest) ∧ c.key = key ∧
      c.letter = letter ∧ s₁.Left s' ∧ (c.star = false → s' = s₁) := by
  obtain ⟨hm₂, ht₂, hs₂⟩ := readWidth_ok hw
  obtain ⟨hm₃, ht₃, hs₃⟩ := readPrecision_ok hp
  refine ⟨⟨key, (skipNumber (t₁.dropWhile flagLetters.contains)).1 == some true || (skipPoint t₃).1,
    (skipPoint t₃).2.1, letter⟩, ?_, rfl, rfl, hm₂.trans hm₃, fun hstar => ?_⟩
  · unfold Conversion.readBody
    dsimp only
    rw [ht₂, ht₃, hl]
  · rw [Bool.or_eq_false_iff, beq_eq_false_iff_ne] at hstar
    exact (hs₃ hstar.2).trans (hs₂ hstar.1)

/-- The supply changes just as the key and the stars have it. -/
theorem read_conversion {s s' : Supply} {text rest : List Char} {spec : Spec}
    (h : Spec.read s text = .ok (spec, s', rest)) : ∃ c, Conversion.read text = some (c, rest) ∧
      c.letter = spec.conversion ∧ s'.mapping = s.mapping ∧
      ((c.key = none ∧ s.Left s' ∧ (c.star = false → s' = s)) ∨
        ∃ key m v, c.key = some key ∧ s.mapping = some m ∧ lookUp m (String.ofList key) = .ok v ∧
          ({ s with items := [v] } : Supply).Left s' ∧
          (c.star = false → s' = { s with items := [v] })) := by
  unfold Spec.read at h
  split at h
  · cases h
  · rename_i s₁ t₁ hk
    have hf := readFlags_eq {} t₁
    generalize readFlags {} t₁ = flagged at h hf
    obtain ⟨flags, t₂⟩ := flagged
    dsimp only at h hf
    subst hf
    split at h
    · cases h
    · rename_i hw
      split at h
      · cases h
      · rename_i hp
        split at h
        · cases h
        · rename_i hl
          cases h
          rcases readKey_ok hk with ⟨hskip, rfl⟩ | ⟨key, m, v, hskip, hm, hv, rfl⟩
          · obtain ⟨c, hread, hkey, hletter, hleft, hs⟩ := readBody_ok hw hp hl none
            refine ⟨c, ?_, hletter, hleft.2, .inl ⟨hkey, hleft, hs⟩⟩
            rw [Conversion.read, hskip, Option.bind_some]
            exact hread
          · obtain ⟨c, hread, hkey, hletter, hleft, hs⟩ := readBody_ok hw hp hl (some key)
            refine ⟨c, ?_, hletter, hleft.2, .inr ⟨key, m, v, hkey, hm, hv, hleft, hs⟩⟩
            rw [Conversion.read, hskip, Option.bind_some]
            exact hread

end Printf

end Gelf
