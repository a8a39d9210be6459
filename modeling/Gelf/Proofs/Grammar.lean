import Gelf.Proofs.Degrading
import Gelf.Proofs.Percent

/-!
# Gelf.Proofs.Grammar

Percent formats that are well formed, with arguments of the language's own types.

* `Field`: a conversion as it is written out, with neither key nor star. `Segment`, `formatOf`: what
  a format is made of, and its text.
* `Field.read_body`: a field is read as the conversion it is, by the look as by the format.
* `read_fault_plain`: reading it fails only where one of its numbers is too great.
* `convert_suited`: an argument that suits its conversion can be converted, if it is in range.
* `refused_fails`: what the look refuses cannot be formatted. `accepted_suits`: what it lets pass
  fails neither for an argument's type nor for the number of arguments, where this is right.
* `precheck_agrees`: both together. `wide_percent_unmet`: a percent sign with a width counts as none
  of the fields that take an argument, but it takes one.
-/

namespace Gelf

open Gelf.Text

namespace Printf

open Script

/-! ## The grammar -/

/-- A conversion as it is written out. -/
structure Field where
  flags : List Char
  width : List Char
  precision : Option (List Char)
  size : Option Char
  letter : Char
  flagged : ∀ c ∈ flags, c ∈ flagLetters
  wide : ∀ c ∈ width, isAsciiDigit c = true
  precise : ∀ digits, precision = some digits →
    digits ≠ [] ∧ ∀ c ∈ digits, isAsciiDigit c = true
  sized : ∀ c, size = some c → c ∈ ['h', 'l', 'L']
  lettered : letter ∈ conversionLetters

namespace Field

variable (f : Field)

def point : List Char :=
  match f.precision with
  | some digits => '.' :: digits
  | none => []

/-- What follows the percent sign. -/
def body : List Char := f.flags ++ f.width ++ f.point ++ f.size.toList ++ [f.letter]

/-- Does the field have an argument of its own? -/
def takes : Bool := f.letter != '%'

/-- Is it a percent sign that is not written as two of them? -/
def dressed : Bool := f.letter == '%' && f.body != ['%']

end Field

/-- A part of a format: text without a percent sign, or a field. -/
inductive Segment where
  | plain (text : List Char) (h : '%' ∉ text)
  | field (f : Field)

def Segment.text : Segment → List Char
  | .plain text _ => text
  | .field f => '%' :: f.body

def formatOf (ss : List Segment) : String := String.ofList (ss.flatMap Segment.text)

/-- The number of arguments that the fields take. -/
def takers : List Segment → Nat
  | [] => 0
  | .plain _ _ :: rest => takers rest
  | .field f :: rest => if f.takes then takers rest + 1 else takers rest

/-- The first percent sign in a field of its own, if there is one, finds an argument left. -/
def Supplied : List Segment → Prop
  | [] => True
  | .plain _ _ :: rest => Supplied rest
  | .field f :: rest => if f.dressed then takers rest ≠ 0 else Supplied rest

def decideSupplied : (ss : List Segment) → Decidable (Supplied ss)
  | [] => .isTrue trivial
  | .plain _ _ :: rest => decideSupplied rest
  | .field f :: rest =>
    have := decideSupplied rest
    inferInstanceAs (Decidable (if f.dressed then takers rest ≠ 0 else Supplied rest))

instance (ss : List Segment) : Decidable (Supplied ss) := decideSupplied ss

/-! ## Characters of a field -/

/-- No part of a conversion before its length letter begins with this character. -/
def Closing (c : Char) : Prop :=
  flagLetters.contains c = false ∧ isAsciiDigit c = false ∧ c ≠ '*' ∧ c ≠ '.' ∧ c ≠ '('

instance (c : Char) : Decidable (Closing c) := inferInstanceAs (Decidable (_ ∧ _))

theorem closing_letter {c : Char} (h : c ∈ conversionLetters) : Closing c := by
  have hall : ∀ c ∈ conversionLetters, Closing c := List.all_iff_forall_prop.mp (by decide)
  exact hall c h

theorem closing_size {c : Char} (h : c ∈ ['h', 'l', 'L']) : Closing c := by
  have hall : ∀ c ∈ ['h', 'l', 'L'], Closing c := List.all_iff_forall_prop.mp (by decide)
  exact hall c h

theorem digit_ne {c d : Char} (h : isAsciiDigit c = true) (hd : isAsciiDigit d = false) :
    c ≠ d := by
  rintro rfl
  rw [hd] at h
  cases h

namespace Field

variable (f : Field) (rest : List Char)

/-- The length letter and the conversion letter, with what follows. -/
def ending : List Char := f.size.toList ++ f.letter :: rest

theorem body_append :
    f.body ++ rest = (f.flags ++ f.width) ++ (f.point ++ f.ending rest) := by
  simp [body, ending]

theorem ending_cons : ∃ c more, f.ending rest = c :: more ∧ Closing c := by
  unfold ending
  cases hs : f.size with
  | none => exact ⟨f.letter, rest, rfl, closing_letter f.lettered⟩
  | some c => exact ⟨c, f.letter :: rest, rfl, closing_size (f.sized c hs)⟩

theorem skipLength_ending : skipLength (f.ending rest) = f.letter :: rest := by
  unfold ending
  cases hs : f.size with
  | none =>
    have hall : ∀ c ∈ conversionLetters, c ≠ 'h' ∧ c ≠ 'l' ∧ c ≠ 'L' :=
      List.all_iff_forall_prop.mp (by decide)
    obtain ⟨hh, hl, hL⟩ := hall f.letter f.lettered
    show skipLength (f.letter :: rest) = f.letter :: rest
    unfold skipLength
    split
    · rename_i he
      exact absurd (List.cons.inj he).1 hh
    · rename_i he
      exact absurd (List.cons.inj he).1 hl
    · rename_i he
      exact absurd (List.cons.inj he).1 hL
    · rfl
  | some c =>
    have hc := f.sized c hs
    simp only [List.mem_cons, List.not_mem_nil, or_false] at hc
    rcases hc with rfl | rfl | rfl <;> rfl

end Field

theorem skipNumber_digits {digits text more : List Char} {c : Char}
    (hd : ∀ d ∈ digits, isAsciiDigit d = true) (ht : text = c :: more)
    (hc : isAsciiDigit c = false) (hstar : c ≠ '*') :
    skipNumber (digits ++ text) = (if digits.isEmpty then none else some false, text) := by
  subst ht
  have hother : ∀ rest, digits ++ c :: more ≠ '*' :: rest := by
    intro rest h
    cases digits with
    | nil => exact hstar (List.cons.inj h).1
    | cons d ds =>
      exact digit_ne (hd d List.mem_cons_self) (by decide) (List.cons.inj h).1
  have hrest : (skipNumber (digits ++ c :: more)).2 = c :: more := by
    rw [skipNumber_snd hother, List.dropWhile_append_of_pos hd, List.dropWhile_cons, hc,
      if_neg Bool.false_ne_true]
  refine Prod.ext ?_ hrest
  unfold skipNumber
  split
  · rename_i h
    exact absurd h (hother _)
  · cases digits with
    | nil => simp [startsWithDigit, hc]
    | cons d ds => simp [startsWithDigit, hd d List.mem_cons_self]

namespace Field

variable (f : Field) (rest : List Char)

theorem skipPoint_point : skipPoint (f.point ++ f.ending rest) = (false, false, f.ending rest) := by
  obtain ⟨c, more, hend, -, hdigit, hstar, hpoint, -⟩ := f.ending_cons rest
  unfold point
  cases hp : f.precision with
  | none =>
    refine skipPoint_other fun after h => ?_
    have h : f.ending rest = '.' :: after := h
    rw [hend] at h
    exact hpoint (List.cons.inj h).1
  | some digits =>
    obtain ⟨hne, hdigits⟩ := f.precise digits hp
    have hskip := skipNumber_digits hdigits hend hdigit hstar
    have hsome : digits.isEmpty = false := by simpa using hne
    rw [hsome, if_neg Bool.false_ne_true] at hskip
    show ((skipNumber (digits ++ f.ending rest)).1 == some true,
      (skipNumber (digits ++ f.ending rest)).1.isNone, (skipNumber (digits ++ f.ending rest)).2) = _
    rw [hskip]
    rfl

theorem point_cons : ∃ c more, f.point ++ f.ending rest = c :: more ∧
    flagLetters.contains c = false ∧ isAsciiDigit c = false ∧ c ≠ '*' := by
  unfold point
  cases f.precision with
  | some digits => exact ⟨'.', digits ++ f.ending rest, rfl, by decide, by decide, by decide⟩
  | none =>
    obtain ⟨c, more, hend, hflag, hdigit, hstar, -⟩ := f.ending_cons rest
    exact ⟨c, more, hend, hflag, hdigit, hstar⟩

/-- A field is a text of two percent signs, or begins with neither a percent sign nor a bracket. -/
theorem body_cases : (f.body = ['%'] ∧ f.letter = '%') ∨
    ∃ c more, f.body = c :: more ∧ c ≠ '%' ∧ c ≠ '(' := by
  have hflags : ∀ c ∈ flagLetters, c ≠ '%' ∧ c ≠ '(' := List.all_iff_forall_prop.mp (by decide)
  have hsizes : ∀ c ∈ ['h', 'l', 'L'], c ≠ '%' ∧ c ≠ '(' := List.all_iff_forall_prop.mp (by decide)
  unfold body point
  cases hf : f.flags with
  | cons c more =>
    obtain ⟨hp, hk⟩ := hflags c (f.flagged c (by simp [hf]))
    exact .inr ⟨c, _, rfl, hp, hk⟩
  | nil =>
    cases hw : f.width with
    | cons c more =>
      have hd := f.wide c (by simp [hw])
      exact .inr ⟨c, _, rfl, digit_ne hd (by decide), digit_ne hd (by decide)⟩
    | nil =>
      cases f.precision with
      | some digits => exact .inr ⟨'.', _, rfl, by decide, by decide⟩
      | none =>
        cases hs : f.size with
        | some c =>
          obtain ⟨hp, hk⟩ := hsizes c (f.sized c hs)
          exact .inr ⟨c, _, rfl, hp, hk⟩
        | none =>
          by_cases hl : f.letter = '%'
          · exact .inl ⟨by simp [hl], hl⟩
          · obtain ⟨-, -, -, -, hk⟩ := closing_letter f.lettered
            exact .inr ⟨f.letter, [], rfl, hl, hk⟩

theorem letter_of_body (hb : f.body = ['%']) : f.letter = '%' := by
  rcases f.body_cases with ⟨-, hl⟩ | ⟨c, more, hc, hp, -⟩
  · exact hl
  · rw [hb] at hc
    exact absurd (List.cons.inj hc).1.symm hp

theorem kinds : (f.body = ['%'] ∧ f.letter = '%') ∨ f.dressed = true ∨ f.takes = true := by
  by_cases hl : f.letter = '%'
  · by_cases hb : f.body = ['%']
    · exact .inl ⟨hb, hl⟩
    · exact .inr (.inl (by simp [dressed, hl, hb]))
  · exact .inr (.inr (by simpa [takes] using hl))

theorem read_body :
    Conversion.read (f.body ++ rest) = some (⟨none, false, false, f.letter⟩, rest) := by
  have hkey : skipKey (f.body ++ rest) = some (none, f.body ++ rest) := by
    unfold skipKey
    split
    · rename_i inner h
      rcases f.body_cases with ⟨hb, -⟩ | ⟨c, more, hb, -, hc⟩
      · rw [hb] at h
        cases h
      · rw [hb] at h
        exact absurd (List.cons.inj h).1 hc
    · rfl
  obtain ⟨c, more, hpoint, hflag, hdigit, hstar⟩ := f.point_cons rest
  -- flags also take the zeros that the width begins with
  have hwidth : (f.body ++ rest).dropWhile flagLetters.contains =
      f.width.dropWhile flagLetters.contains ++ (f.point ++ f.ending rest) := by
    rw [body_append, hpoint, dropWhile_append_of_neg hflag, List.dropWhile_append_of_pos]
    intro d hd
    exact List.contains_iff_mem.mpr (f.flagged d hd)
  have hdigits : ∀ d ∈ f.width.dropWhile flagLetters.contains, isAsciiDigit d = true := fun d hd =>
    f.wide d ((List.dropWhile_sublist _).subset hd)
  have hnumber := skipNumber_digits hdigits hpoint hdigit hstar
  unfold Conversion.read Conversion.readBody
  rw [hkey, Option.bind_some]
  dsimp only
  rw [hwidth, hnumber]
  dsimp only
  rw [skipPoint_point, skipLength_ending]
  cases (f.width.dropWhile flagLetters.contains).isEmpty <;> rfl

theorem body_ne_percent (hb : f.body ≠ ['%']) (more : List Char) :
    f.body ++ rest ≠ '%' :: more := by
  rcases f.body_cases with ⟨hm, -⟩ | ⟨c, tail, hc, hp, -⟩
  · exact absurd hm hb
  · rw [hc]
    exact fun h => hp (List.cons.inj h).1

theorem directives_body : directives ('%' :: f.body ++ rest) =
    ⟨none, false, f.letter⟩ :: directives rest := by
  have hl : conversionLetters.contains f.letter = true := List.contains_iff_mem.mpr f.lettered
  have hd := scanDirective_eq (f.read_body rest) hl nofun
  exact directives_some hd

end Field

theorem conversions_legible (ss : List Segment) :
    ∀ c ∈ conversions (ss.flatMap Segment.text), c.bare = false := by
  induction ss with
  | nil =>
    intro c hc
    rw [List.flatMap_nil, conversions] at hc
    cases hc
  | cons s rest ih =>
    rw [List.flatMap_cons]
    cases s with
    | plain text h =>
      show ∀ c ∈ conversions (text ++ _), _
      rw [conversions_append h]
      exact ih
    | field f =>
      show ∀ c ∈ conversions ('%' :: (f.body ++ _)), _
      by_cases hb : f.body = ['%']
      · rw [hb, List.singleton_append, conversions]
        exact ih
      · rw [conversions_some (f.body_ne_percent _ hb) (f.read_body _)]
        exact List.forall_mem_cons.mpr ⟨rfl, ih⟩

/-! ## Reading a field -/

theorem readWidth_digits {s : Supply} {text : List Char} {f : Fault}
    (hs : (skipNumber text).1 ≠ some true) (h : readWidth s text = .error f) : RangeFault f := by
  unfold readWidth at h
  split at h
  · exact absurd rfl hs
  · split at h
    · split at h
      · cases h
      · cases h
        decide
    · cases h

theorem readPrecision_digits {s : Supply} {text : List Char} {f : Fault}
    (hs : (skipPoint text).1 = false) (h : readPrecision s text = .error f) : RangeFault f := by
  unfold readPrecision at h
  split at h
  · cases hs
  · split at h
    · cases h
    · cases h
      decide
  · cases h

/-- A conversion without a key and without a star fails to be read only if a number in it is too
great. -/
theorem read_fault_plain {s : Supply} {text rest : List Char} {c : Conversion} {f : Fault}
    (hr : Conversion.read text = some (c, rest)) (hk : c.key = none) (hs : c.star = false)
    (h : Spec.read s text = .error f) : RangeFault f := by
  obtain ⟨⟨key, t₁⟩, hkey, hbody⟩ := Option.bind_eq_some_iff.mp hr
  unfold Conversion.readBody at hbody
  dsimp only at hbody
  split at hbody
  · rename_i letter after hlen
    cases hbody
    cases hk
    rw [Bool.or_eq_false_iff, beq_eq_false_iff_ne] at hs
    have hread : readKey s text = .ok (s, t₁) := by
      unfold skipKey at hkey
      split at hkey
      · obtain ⟨_, -, he⟩ := Option.map_eq_some_iff.mp hkey
        cases he
      · rename_i hplain
        cases hkey
        unfold readKey
        split
        · exact absurd rfl (hplain _)
        · rfl
    unfold Spec.read at h
    rw [hread] at h
    dsimp only at h
    have hf := readFlags_eq {} t₁
    generalize readFlags {} t₁ = flagged at h hf
    obtain ⟨flags, t₂⟩ := flagged
    dsimp only at h hf
    subst hf
    split at h
    · rename_i hw
      cases h
      exact readWidth_digits hs.1 hw
    · rename_i hw
      obtain ⟨-, ht₃, -⟩ := readWidth_ok hw
      rw [ht₃] at hs hlen
      split at h
      · rename_i hp
        cases h
        exact readPrecision_digits hs.2 hp
      · rename_i hp
        obtain ⟨-, ht₄, -⟩ := readPrecision_ok hp
        rw [ht₄] at hlen
        split at h
        · rename_i hend
          cases hlen.symm.trans hend
        · cases h
  · cases hbody

/-! ## Arguments that suit -/

theorem charArgument_suited {v : Value} {f : Fault} (hv : v.Standard) (hs : suits 'c' v = true)
    (h : charArgument v = .error f) : RangeFault f := by
  unfold suits at hs
  rw [if_neg (by decide), if_pos (by decide)] at hs
  unfold charArgument at h
  cases v with
  | str s =>
    dsimp only at h hs
    have hone : s.toList.length = 1 := by
      rw [String.length_toList]
      simpa using hs
    obtain ⟨c, hc⟩ := List.length_eq_one_iff.mp hone
    rw [hc] at h
    cases h
  | bool b => cases b <;> cases h
  | int n =>
    dsimp only [Value.index] at h
    split at h
    · cases h
      decide
    · cases h
  | object o | fault g | faultClass k | stack frames => cases hv
  | _ => cases hs

theorem suits_numeric {v : Value} {c : Char} (hc : c ∈ "diuoxXeEfFgG".toList) (hv : v.Standard)
    (hs : suits c v = true) : (∃ b, v = .bool b) ∨ (∃ n, v = .int n) ∨
      ∃ x, v = .float x ∧ c ∉ ['o', 'x', 'X'] := by
  have hall : ∀ c ∈ "diuoxXeEfFgG".toList,
      ['r', 's', 'a'].contains c = false ∧ (c == 'c') = false :=
    List.all_iff_forall_prop.mp (by decide)
  obtain ⟨h₁, h₂⟩ := hall c hc
  unfold suits at hs
  rw [h₁, h₂, if_neg Bool.false_ne_true, if_neg Bool.false_ne_true] at hs
  cases v with
  | bool b => exact .inl ⟨b, rfl⟩
  | int n => exact .inr (.inl ⟨n, rfl⟩)
  | float x =>
    refine .inr (.inr ⟨x, rfl, fun hw => ?_⟩)
    dsimp only at hs
    rw [if_pos (List.contains_iff_mem.mpr hw)] at hs
    cases hs
  | object o | fault g | faultClass k | stack frames => cases hv
  | str s | bytes b => cases hs
  | _ =>
    dsimp only at hs
    split at hs <;> cases hs

theorem decimalArgument_suited {v : Value} {c : Char} {f : Fault}
    (hc : c ∈ "diuoxXeEfFgG".toList) (hv : v.Standard) (hs : suits c v = true)
    (h : decimalArgument c v = .error f) : RangeFault f := by
  rcases suits_numeric hc hv hs with ⟨b, rfl⟩ | ⟨n, rfl⟩ | ⟨x, rfl, -⟩
  · cases h
  · cases h
  · unfold decimalArgument at h
    have hoffers : [NumberMethod.index, .int, .float].any (Value.float x).offers = true := rfl
    rw [if_pos hoffers] at h
    split at h
    · cases h
    · rename_i g hg
      have hrange := truncated_fault hg
      rw [hrange.not_type, if_neg Bool.false_ne_true] at h
      cases h
      exact hrange

theorem wholeArgument_suited {v : Value} {c : Char} {f : Fault}
    (hc : c ∈ "diuoxXeEfFgG".toList) (hw : c ∈ ['o', 'x', 'X']) (hv : v.Standard)
    (hs : suits c v = true) (h : wholeArgument c v = .error f) : RangeFault f := by
  rcases suits_numeric hc hv hs with ⟨b, rfl⟩ | ⟨n, rfl⟩ | ⟨x, -, hno⟩
  · cases h
  · cases h
  · exact absurd hw hno

theorem asReal_suited {v : Value} {c : Char} {f : Fault} (hc : c ∈ "diuoxXeEfFgG".toList)
    (hv : v.Standard) (hs : suits c v = true) (h : v.asReal = .error f) : RangeFault f := by
  rcases suits_numeric hc hv hs with ⟨b, rfl⟩ | ⟨n, rfl⟩ | ⟨x, rfl, -⟩
  · cases h
  · exact intToFloat_fault h
  · cases h

/-- One case for each group of letters. -/
theorem convert_suited {spec : Spec} {v : Value} (hv : v.Standard)
    (hs : suits spec.conversion v = true) (index : Nat) :
    (spec.convert index v).Settled RangeFault := by
  unfold Spec.convert
  dsimp only
  generalize spec.conversion = c at hs ⊢
  split
  case h_1 =>
    exact settled_bind ((text_settled hv).mono fun _ => rangeFault_of_value) fun _ => trivial
  case h_2 | h_3 =>
    refine settled_bind (settled_ofExcept fun f hf => ?_) fun _ => trivial
    exact rangeFault_of_value (quoted_fault v hf)
  case h_4 =>
    exact settled_bind (settled_ofExcept fun _ => charArgument_suited hv hs) fun _ => trivial
  case h_5 | h_6 | h_7 =>
    exact settled_bind (settled_ofExcept fun _ => decimalArgument_suited (by decide) hv hs) fun _ =>
      settled_ofExcept fun _ => integerPiece_fault
  case h_8 | h_9 | h_10 =>
    exact settled_bind (settled_ofExcept fun _ =>
      wholeArgument_suited (by decide) (by decide) hv hs) fun _ =>
        settled_ofExcept fun _ => integerPiece_fault
  case h_17 => exact rangeFault_of_value rfl
  all_goals
    exact settled_bind (settled_ofExcept fun _ => asReal_suited (by decide) hv hs) fun _ =>
      settled_ofExcept fun _ => realPiece_fault

/-- A percent sign with an argument is no conversion. -/
theorem convert_percent {spec : Spec} (hc : spec.conversion = '%') (index : Nat) (v : Value) :
    spec.convert index v = .fail (Defect.unsupportedCharacter '%' index).toFault := by
  unfold Spec.convert
  rw [hc]
  rfl

/-! ## The look and the format -/

section

variable {xs : List Value} {used size : Nat} {rest : List Char} {ds : List Directive}

theorem accepts_item_cases {c : Char} {v : Value} (hp : c ≠ '%') (hv : xs[used]? = some v)
    (h : acceptsFrom (.tuple xs) used (⟨none, false, c⟩ :: ds) = .ok true) :
    suits c v = true ∧ acceptsFrom (.tuple xs) (used + 1) ds = .ok true := by
  have hget : (Value.tuple xs).items[used]? = some v := hv
  rw [acceptsFrom.eq_def] at h
  dsimp only at h
  rw [if_neg (by simpa using hp), if_neg Bool.false_ne_true, hget] at h
  have h : (if suits c v then acceptsFrom (.tuple xs) (used + 1) ds else .ok false) = .ok true := h
  split at h
  · rename_i hs
    exact ⟨hs, h⟩
  · cases h

theorem formatFrom_unread {s : Supply} {text : List Char} {g : Fault}
    (hn : ∀ more, text ≠ '%' :: more) (hr : Spec.read s text = .error g) :
    formatFrom size s ('%' :: text) = .fail g := by
  rw [formatFrom]
  · split
    · rename_i h
      cases hr.symm.trans h
      rfl
    · rename_i h
      cases hr.symm.trans h
  · exact hn

theorem formatFrom_unsupplied {s s' : Supply} {text : List Char} {spec : Spec} {g : Fault}
    (hn : ∀ more, text ≠ '%' :: more) (hr : Spec.read s text = .ok (spec, s', rest))
    (hg : s'.next = .error g) : formatFrom size s ('%' :: text) = .fail g := by
  rw [formatFrom]
  · split
    · rename_i h
      cases hr.symm.trans h
    · rename_i h
      cases hr.symm.trans h
      rw [hg]
      rfl
  · exact hn

/-- What is done with a field while there is an argument: a number in it is too great, or the
argument is converted and the rest of the format follows. -/
theorem formatFrom_field (size : Nat) (f : Field) (hb : f.body ≠ ['%']) (v : Value)
    (vs : List Value) (rest : List Char) :
    (∃ g, RangeFault g ∧ formatFrom size ⟨v :: vs, none⟩ ('%' :: (f.body ++ rest)) = .fail g) ∨
    ∃ (spec : Spec) (index : Nat), spec.conversion = f.letter ∧
      formatFrom size ⟨v :: vs, none⟩ ('%' :: (f.body ++ rest)) =
        (spec.convert index v).bind fun piece =>
          (Script.ofExcept (spec.place piece)).bind fun out =>
            (formatFrom size ⟨vs, none⟩ rest).bind fun more => .done (out ++ more) := by
  have hbody := f.read_body rest
  have hn := f.body_ne_percent rest hb
  cases hr : Spec.read ⟨v :: vs, none⟩ (f.body ++ rest) with
  | error g => exact .inl ⟨g, read_fault_plain hbody rfl rfl hr, formatFrom_unread hn hr⟩
  | ok result =>
    obtain ⟨spec, s', after⟩ := result
    obtain ⟨c, hc, hletter, -, ⟨-, -, hsame⟩ | ⟨key, m, _, -, hm, -⟩⟩ := read_conversion hr
    · cases hbody.symm.trans hc
      cases hsame rfl
      exact .inr ⟨spec, _, hletter.symm, formatFrom_read hn hr⟩
    · cases hm

/-- A percent sign in a field of its own is refused, but not for want of an argument. -/
theorem formatFrom_dressed {f : Field} (hf : f.dressed = true) (v : Value) (vs : List Value)
    (rest : List Char) :
    (formatFrom size ⟨v :: vs, none⟩ ('%' :: (f.body ++ rest))).Settled RangeFault := by
  rw [Field.dressed, Bool.and_eq_true, beq_iff_eq, bne_iff_ne] at hf
  obtain ⟨hl, hb⟩ := hf
  rcases formatFrom_field size f hb v vs rest with ⟨g, hg, hfail⟩ | ⟨spec, index, hletter, hconvert⟩
  · rw [hfail]
    exact hg
  · rw [hconvert, convert_percent (hletter.trans hl)]
    exact rangeFault_of_value rfl

/-- A field whose argument suits it does not get in the way of the rest. -/
theorem formatFrom_taking {f : Field} (hf : f.takes = true) {v : Value} {vs : List Value}
    (hv : v.Standard) (hs : suits f.letter v = true)
    (hrest : (formatFrom size ⟨vs, none⟩ rest).Settled RangeFault) :
    (formatFrom size ⟨v :: vs, none⟩ ('%' :: (f.body ++ rest))).Settled RangeFault := by
  have hl : f.letter ≠ '%' := bne_iff_ne.mp hf
  have hb : f.body ≠ ['%'] := fun hb => hl (f.letter_of_body hb)
  rcases formatFrom_field size f hb v vs rest with ⟨g, hg, hfail⟩ | ⟨spec, index, hletter, hconvert⟩
  · rw [hfail]
    exact hg
  · rw [← hletter] at hs
    rw [hconvert]
    refine settled_bind (convert_suited hv hs index) fun piece => ?_
    refine settled_bind (settled_ofExcept fun _ => place_fault) fun out => ?_
    exact settled_bind hrest fun _ => trivial

/-- By induction along the format: the arguments suffice up to the end, or up to a field that is
refused for itself; and each of them suits its field. -/
theorem formatFrom_suited (hv : ∀ v ∈ xs, v.Standard) (ss : List Segment)
    (hcount : (xs.drop used).length = takers ss) (hsupplied : Supplied ss)
    (haccepts : acceptsFrom (.tuple xs) used (directives (ss.flatMap Segment.text)) = .ok true) :
    (formatFrom size ⟨xs.drop used, none⟩ (ss.flatMap Segment.text)).Settled RangeFault := by
  induction ss generalizing used with
  | nil =>
    have hnone : xs.drop used = [] := List.length_eq_zero_iff.mp hcount
    rw [List.flatMap_nil, hnone, formatFrom]
    trivial
  | cons s rest ih =>
    rw [List.flatMap_cons] at haccepts ⊢
    generalize rest.flatMap Segment.text = after at haccepts ih ⊢
    cases s with
    | plain text h =>
      simp only [Segment.text] at haccepts ⊢
      rw [directives_append h] at haccepts
      rw [formatFrom_append h]
      exact settled_bind (ih hcount hsupplied haccepts) fun _ => trivial
    | field f =>
      simp only [Segment.text] at haccepts ⊢
      rw [f.directives_body] at haccepts
      unfold takers at hcount
      unfold Supplied at hsupplied
      rw [List.cons_append]
      rcases f.kinds with ⟨hb, hl⟩ | hdressed | htakes
      · -- two percent signs stand for one and leave the arguments alone
        rw [Field.takes, hl, if_neg (by decide)] at hcount
        rw [Field.dressed, hl, hb, if_neg (by decide)] at hsupplied
        rw [accepts_percent hl] at haccepts
        rw [hb, List.singleton_append, formatFrom]
        exact settled_bind (ih hcount hsupplied haccepts) fun _ => trivial
      · rw [if_pos hdressed] at hsupplied
        obtain ⟨v, vs, hvs⟩ : ∃ v vs, xs.drop used = v :: vs := by
          apply List.exists_cons_of_length_pos
          split at hcount <;> omega
        rw [hvs]
        exact formatFrom_dressed hdressed v vs after
      · rw [if_pos htakes] at hcount
        have hl : f.letter ≠ '%' := bne_iff_ne.mp htakes
        have hdressed : f.dressed = false := by simp [Field.dressed, hl]
        rw [hdressed, if_neg Bool.false_ne_true] at hsupplied
        have hused : used < xs.length := by
          rw [List.length_drop] at hcount
          omega
        obtain ⟨hsuits, haccepts⟩ := accepts_item_cases hl (List.getElem?_eq_getElem hused) haccepts
        rw [List.drop_eq_getElem_cons hused, List.length_cons, Nat.succ_inj] at hcount
        rw [List.drop_eq_getElem_cons hused]
        exact formatFrom_taking htakes (hv _ (List.getElem_mem hused)) hsuits
          (ih hcount hsupplied haccepts)

/-- A well-formed format that can be formatted passes the look. -/
theorem refused_fails (hv : ∀ v ∈ xs, v.Standard) {ss : List Segment}
    (h : accepts (formatOf ss) (.tuple xs) = .ok false) :
    ∃ f, format (formatOf ss) (.tuple xs) = .fail f := by
  have hsettled := format_standard hv (formatOf ss)
  cases hform : format (formatOf ss) (.tuple xs) with
  | done t =>
    have hrun : (format (formatOf ss) (.tuple xs)).run undisturbed () = (.ok t, ()) := by
      rw [hform]
      rfl
    obtain ⟨out, _, hout, -⟩ := run_bind_ok hrun
    have hlegible : ∀ c ∈ conversions (formatOf ss).toList, Legible (.tuple xs) c := by
      rw [formatOf, String.toList_ofList]
      exact conversions_legible ss
    have hpasses : accepts (formatOf ss) (.tuple xs) = .ok true :=
      acceptsFrom_of_formatFrom (.items xs 0) hlegible hout
    cases h.symm.trans hpasses
  | fail f => exact ⟨f, rfl⟩
  | ask q next =>
    rw [hform] at hsettled
    exact hsettled.elim

/-- Enough arguments that suit do not fail for their types. -/
theorem accepted_suits (hv : ∀ v ∈ xs, v.Standard) {ss : List Segment}
    (h : accepts (formatOf ss) (.tuple xs) = .ok true) (hcount : xs.length = takers ss)
    (hsupplied : Supplied ss) : (format (formatOf ss) (.tuple xs)).Settled RangeFault := by
  have hall : (xs.drop 0).length = takers ss := hcount
  rw [accepts, formatOf, String.toList_ofList] at h
  unfold format
  rw [formatOf, String.toList_ofList]
  exact settled_bind (formatFrom_suited hv ss hall hsupplied h) fun _ => trivial

end

/-- A percent sign five characters wide. -/
def widePercent : Field where
  flags := []
  width := ['5']
  precision := none
  size := none
  letter := '%'
  flagged := nofun
  wide := List.all_iff_forall_prop.mp (by decide)
  precise := nofun
  sized := nofun
  lettered := by decide

/-- An integer with two flags, a width, a precision and a length. -/
def wideInteger : Field where
  flags := ['0', '+']
  width := ['0', '8']
  precision := some ['3']
  size := some 'l'
  letter := 'i'
  flagged := List.all_iff_forall_prop.mp (by decide)
  wide := List.all_iff_forall_prop.mp (by decide)
  precise := by
    rintro digits ⟨⟩
    exact ⟨nofun, List.all_iff_forall_prop.mp (by decide)⟩
  sized := by
    rintro c ⟨⟩
    decide
  lettered := by decide

def mixedSegments : List Segment :=
  [.field wideInteger, .plain " of ".toList (by decide), .field widePercent, .field wideInteger]

end Printf

end Gelf
