import Gelf.Proofs.JsonReader

/-!
# Gelf.Proofs.Numeral

The numbers that are written into a JSON text are numbers of JSON, and are read as what they were.

* `Digits`, `Whole`, `Numeral`: the parts of a number.
* `NumberEnds`: what may come after a number so that it ends where it ends.
* `tokens_numeral`: a number in front of such a rest is one token.
* `tokens_int`: an integer is read as its value. `tokens_float`: a finite float as its text.
-/

namespace Gelf.Json

open Gelf.Number

/-- One digit or more. -/
def Digits (s : List Char) : Prop := s ≠ [] ∧ ∀ c ∈ s, c.isDigit = true

theorem digits_zero : Digits ['0'] := by
  refine ⟨List.cons_ne_nil _ _, fun c hc => ?_⟩
  rw [List.mem_singleton.mp hc]
  rfl

/-- Digits with no zero in front, or a zero. -/
def Whole (s : List Char) : Prop := s = ['0'] ∨ Digits s ∧ s.head? ≠ some '0'

structure Numeral (sign whole fraction power : List Char) : Prop where
  sign : sign = [] ∨ sign = ['-']
  whole : Whole whole
  fraction : fraction = [] ∨ ∃ digits, Digits digits ∧ fraction = '.' :: digits
  power : power = [] ∨ ∃ c digits, (c = '+' ∨ c = '-') ∧ Digits digits ∧ power = 'e' :: c :: digits

/-- No number goes on here. -/
def NumberEnds (s : List Char) : Prop :=
  ∀ c ∈ s.head?, c.isDigit = false ∧ c ≠ '.' ∧ c ≠ 'e' ∧ c ≠ 'E'

/-! ## Reading -/

variable {s rest digits sign whole fraction power : List Char}

theorem readDigits_append (hd : Digits digits) (hr : ∀ c ∈ rest.head?, c.isDigit = false) :
    readDigits (digits ++ rest) = some (digits, rest) := by
  obtain ⟨hne, hd⟩ := hd
  have ht : rest.takeWhile Char.isDigit = [] := by
    cases rest with
    | nil => rfl
    | cons c rest => simp [hr c rfl]
  have hw : rest.dropWhile Char.isDigit = rest := by
    cases rest with
    | nil => rfl
    | cons c rest => simp [hr c rfl]
  unfold readDigits
  rw [List.takeWhile_append_of_pos hd, List.dropWhile_append_of_pos hd, ht, hw, List.append_nil]
  split
  · contradiction
  · rfl

theorem readWhole_append (hw : Whole whole) (hr : ∀ c ∈ rest.head?, c.isDigit = false) :
    readWhole (whole ++ rest) = some (whole, rest) := by
  obtain rfl | ⟨hd, hz⟩ := hw
  · rfl
  · unfold readWhole
    split
    · rename_i more he
      cases whole with
      | nil => exact absurd rfl hd.1
      | cons c whole =>
        rw [List.cons_append, List.cons.injEq] at he
        exact absurd (congrArg some he.1) hz
    · exact readDigits_append hd hr

theorem readFraction_append (hf : fraction = [] ∨ ∃ digits, Digits digits ∧ fraction = '.' :: digits)
    (hr : ∀ c ∈ rest.head?, c.isDigit = false ∧ c ≠ '.') :
    readFraction (fraction ++ rest) = some (fraction, rest) := by
  obtain rfl | ⟨digits, hd, rfl⟩ := hf
  · rw [List.nil_append]
    unfold readFraction
    split
    · exact absurd rfl (hr '.' rfl).2
    · rfl
  · simp [readFraction, readDigits_append hd fun c hc => (hr c hc).1]

theorem readPower_append
    (hp : power = [] ∨ ∃ c digits, (c = '+' ∨ c = '-') ∧ Digits digits ∧ power = 'e' :: c :: digits)
    (hr : NumberEnds rest) : readPower (power ++ rest) = some (power, rest) := by
  obtain rfl | ⟨c, digits, hc, hd, rfl⟩ := hp
  · cases rest with
    | nil => rfl
    | cons c rest =>
      obtain ⟨-, -, he, he'⟩ := hr c rfl
      simp [readPower, he, he']
  · have hs : readSign ['+', '-'] (c :: (digits ++ rest)) = ([c], digits ++ rest) := by
      obtain rfl | rfl := hc <;> rfl
    simp [readPower, hs, readDigits_append hd fun c hc => (hr c hc).1]

theorem digit_of_whole (hw : Whole whole) : ∃ c more, whole = c :: more ∧ c.isDigit = true := by
  obtain rfl | ⟨⟨hne, hd⟩, -⟩ := hw
  · exact ⟨'0', [], rfl, rfl⟩
  · cases whole with
    | nil => exact absurd rfl hne
    | cons c more => exact ⟨c, more, rfl, hd c List.mem_cons_self⟩

theorem readSign_append (hs : sign = [] ∨ sign = ['-']) (hw : Whole whole) (rest : List Char) :
    readSign ['-'] (sign ++ (whole ++ rest)) = (sign, whole ++ rest) := by
  obtain ⟨c, more, rfl, hc⟩ := digit_of_whole hw
  obtain rfl | rfl := hs
  · have hn : c ≠ '-' := by
      rintro rfl
      cases hc
    simp [readSign, hn]
  · simp [readSign]

/-- A fraction or an exponent is not what a digit can be taken for. -/
theorem head_of_parts (hn : Numeral sign whole fraction power) (hr : NumberEnds rest) :
    (∀ c ∈ (power ++ rest).head?, c.isDigit = false ∧ c ≠ '.') ∧
      ∀ c ∈ (fraction ++ (power ++ rest)).head?, c.isDigit = false := by
  have hp : ∀ c ∈ (power ++ rest).head?, c.isDigit = false ∧ c ≠ '.' := by
    obtain hp | ⟨c, digits, -, -, hp⟩ := hn.power
    · rw [hp]
      exact fun c hc => ⟨(hr c hc).1, (hr c hc).2.1⟩
    · rw [hp]
      rintro _ ⟨⟩
      decide
  refine ⟨hp, ?_⟩
  obtain hf | ⟨digits, -, hf⟩ := hn.fraction
  · rw [hf]
    exact fun c hc => (hp c hc).1
  · rw [hf]
    rintro _ ⟨⟩
    decide

theorem readNumber_numeral (hn : Numeral sign whole fraction power) (hr : NumberEnds rest) :
    readNumber (sign ++ whole ++ fraction ++ power ++ rest) =
      some (if fraction.isEmpty && power.isEmpty then .integer (integerOf sign whole)
        else .decimal (String.ofList (sign ++ whole ++ fraction ++ power)), rest) := by
  obtain ⟨hp, hf⟩ := head_of_parts hn hr
  simp [readNumber, readSign_append hn.sign hn.whole, readWhole_append hn.whole hf,
    readFraction_append hn.fraction hp, readPower_append hn.power hr]

/-- A number begins with a digit or a sign, and so does no other token. -/
theorem tokens_numeral (hn : Numeral sign whole fraction power) (hr : NumberEnds rest) :
    tokens (sign ++ whole ++ fraction ++ power ++ rest) = (tokens rest).map fun ts =>
      .scalar (if fraction.isEmpty && power.isEmpty then .integer (integerOf sign whole)
        else .decimal (String.ofList (sign ++ whole ++ fraction ++ power))) :: ts := by
  have hread := readNumber_numeral hn hr
  obtain ⟨c, more, hs, hc⟩ : ∃ c more, sign ++ whole ++ fraction ++ power ++ rest = c :: more ∧
      (c.isDigit = true ∨ c = '-') := by
    obtain ⟨c, more, rfl, hc⟩ := digit_of_whole hn.whole
    obtain rfl | rfl := hn.sign
    · exact ⟨c, _, rfl, .inl hc⟩
    · exact ⟨'-', _, rfl, .inr rfl⟩
  have hnot : ∀ d : Char, d.isDigit = false → d ≠ '-' → c ≠ d := by
    rintro d hd hm rfl
    obtain h | h := hc
    · rw [hd] at h
      cases h
    · exact hm h
  rw [hs] at hread ⊢
  refine tokens_cons ?_ ?_
  · simp [isGap, hnot ' ', hnot '\t', hnot '\n', hnot '\r']
  · unfold readToken
    split
    case h_11 =>
      rw [hread]
      rfl
    all_goals
      rename_i h
      cases h
      exact absurd rfl (hnot _ (by decide) (by decide))

/-! ## Integers -/

theorem digits_nat (n : Nat) : Digits (Nat.toDigits 10 n) :=
  ⟨Nat.toDigits_ne_nil, fun _ hc => Nat.isDigit_of_mem_toDigits (by decide) (by decide) hc⟩

/-- By induction on the count of digits: dropping the last one leaves the first in its place. -/
theorem head_nat (n : Nat) (hn : 0 < n) : (Nat.toDigits 10 n).head? ≠ some '0' := by
  induction n using Nat.strongRecOn with
  | ind n ih =>
    by_cases h : n < 10
    · have hall : ∀ n < 10, 0 < n → (Nat.toDigits 10 n).head? ≠ some '0' := by decide
      exact hall n h hn
    · rw [Nat.toDigits_of_base_le (by decide) (by omega), List.head?_append]
      have hd := ih (n / 10) (by omega) (by omega)
      cases hh : (Nat.toDigits 10 (n / 10)).head? with
      | none => exact absurd (List.head?_eq_none_iff.mp hh) Nat.toDigits_ne_nil
      | some c =>
        rw [hh] at hd
        exact hd

theorem whole_nat (n : Nat) : Whole (Nat.toDigits 10 n) := by
  by_cases h : n = 0
  · subst h
    exact .inl (Nat.toDigits_zero 10)
  · exact .inr ⟨digits_nat n, head_nat n (Nat.pos_of_ne_zero h)⟩

theorem tokens_digits (n : Nat) (hs : sign = [] ∨ sign = ['-']) (hr : NumberEnds rest) :
    tokens (sign ++ Nat.toDigits 10 n ++ rest) =
      (tokens rest).map fun ts => .scalar (.integer (if sign.isEmpty then n else -n)) :: ts := by
  have hn : Numeral sign (Nat.toDigits 10 n) [] [] := ⟨hs, whole_nat n, .inl rfl, .inl rfl⟩
  have h := tokens_numeral hn hr
  simpa [integerOf] using h

theorem tokens_int (n : Int) (hr : NumberEnds rest) :
    tokens ((toString n).toList ++ rest) =
      (tokens rest).map fun ts => .scalar (.integer n) :: ts := by
  rw [Int.toString_eq_repr, Int.repr_eq_if]
  split
  · have h := tokens_digits n.toNat (.inl rfl) hr
    have hn : ((n.toNat : Nat) : Int) = n := by omega
    simpa [hn] using h
  · have h := tokens_digits (-n).toNat (.inr rfl) hr
    have hn : -(((-n).toNat : Nat) : Int) = n := by omega
    simp only [List.isEmpty_cons, Bool.false_eq_true, if_false, hn] at h
    simpa using h

/-! ## Floats -/

theorem head_dropTrailingZeros {c : Char} (hc : c ≠ '0') (s : List Char) :
    ∃ more, dropTrailingZeros (c :: s) = c :: more ∧ more ⊆ s := by
  refine ⟨(s.reverse.dropWhile (· == '0')).reverse, ?_, fun d hd => ?_⟩
  · unfold dropTrailingZeros
    rw [List.reverse_cons, List.dropWhile_append]
    split
    · rename_i he
      rw [List.isEmpty_iff.mp he]
      simp [hc]
    · simp
  · rw [List.mem_reverse] at hd
    exact List.mem_reverse.mp ((List.dropWhile_sublist _).subset hd)

/-- The digits that a float is written with, or the ones that stand for zero. -/
def Significant (d : Decimal) : Prop :=
  (Digits d.digits ∧ d.digits.head? ≠ some '0') ∨ d = ⟨[], 1⟩

theorem significant_ofUnits (n : Nat) (exponent : Int) (h : 0 < n ∨ exponent = 0) :
    Significant (.ofUnits n exponent) := by
  by_cases hn : n = 0
  · subst hn
    obtain h | rfl := h
    · cases h
    · exact .inr rfl
  · have hh := head_nat n (Nat.pos_of_ne_zero hn)
    obtain ⟨hne, hd⟩ := digits_nat n
    unfold Decimal.ofUnits
    rw [Nat.toList_repr]
    cases hs : Nat.toDigits 10 n with
    | nil => exact absurd hs hne
    | cons c s =>
      rw [hs] at hh hd
      have hc : c ≠ '0' := fun hc => hh (congrArg some hc)
      obtain ⟨more, hm, hsub⟩ := head_dropTrailingZeros hc s
      dsimp only
      rw [hm]
      refine .inl ⟨⟨List.cons_ne_nil _ _, ?_⟩, ?_⟩
      · intro d hd'
        obtain rfl | hd' := List.mem_cons.mp hd'
        · exact hd d List.mem_cons_self
        · exact hd d (List.mem_cons_of_mem _ (hsub hd'))
      · simp [hc]

theorem readsBack_pos {m n : Nat} {e exponent : Int} (hm : 0 < m)
    (h : readsBack m e n exponent = true) : 0 < n := by
  refine Nat.pos_of_ne_zero fun hn => ?_
  subst hn
  have hlow : ∀ down ≤ 2, 0 < (ratioOf (4 * m - down) (e - 2)).1 := by
    intro down hd
    unfold ratioOf
    split
    · exact Nat.sub_pos_of_lt (by omega)
    · exact Nat.mul_pos (Nat.sub_pos_of_lt (by omega)) (Nat.pow_pos (by decide))
  have hten : ∀ k, 0 < tenTo k := fun k => Nat.pow_pos (by decide)
  unfold readsBack at h
  generalize hdown : (if m == twoTo 52 && e != -1074 then 1 else 2) = down at h
  have hl : 0 < (ratioOf (4 * m - down) (e - 2)).1 := by
    refine hlow down ?_
    split at hdown <;> omega
  by_cases hx : exponent < 0
  · have hp := Nat.mul_pos hl (hten (-exponent).toNat)
    simp only [hx, if_true] at h
    split at h
    · simp only [Bool.and_eq_true, decide_eq_true_eq] at h
      omega
    · simp only [Bool.and_eq_true, decide_eq_true_eq] at h
      omega
  · simp only [hx, if_false] at h
    split at h
    · simp only [Bool.and_eq_true, decide_eq_true_eq] at h
      omega
    · simp only [Bool.and_eq_true, decide_eq_true_eq] at h
      omega

theorem significant_shortest {m : Nat} (hm : 0 < m) (e : Int) : Significant (shortest m e) := by
  unfold shortest
  dsimp only
  split
  · rename_i d hd
    obtain ⟨k, -, hk⟩ := List.exists_of_findSome?_eq_some hd
    unfold withDigits? at hk
    dsimp only at hk
    split at hk
    · rename_i hok
      obtain ⟨hbelow, habove⟩ := Bool.and_eq_true_iff.mp hok
      cases hk
      split
      · exact significant_ofUnits _ _ (.inl (readsBack_pos hm habove))
      · exact significant_ofUnits _ _ (.inl (readsBack_pos hm hbelow))
    · split at hk
      · rename_i hbelow
        cases hk
        exact significant_ofUnits _ _ (.inl (readsBack_pos hm hbelow))
      · split at hk
        · rename_i habove
          cases hk
          exact significant_ofUnits _ _ (.inl (readsBack_pos hm habove))
        · cases hk
  · exact significant_ofUnits _ _ (.inr rfl)

theorem power_exponentText (x : Int) :
    ∃ c digits, (c = '+' ∨ c = '-') ∧ Digits digits ∧ 'e' :: exponentText x = 'e' :: c :: digits := by
  refine ⟨if x < 0 then '-' else '+', _, ?_, ⟨?_, ?_⟩, rfl⟩
  · split
    · exact .inr rfl
    · exact .inl rfl
  · rw [Nat.toList_repr]
    simp
  · intro c hc
    obtain hc | hc := List.mem_append.mp hc
    · rw [List.eq_of_mem_replicate hc]
      rfl
    · rw [Nat.toList_repr] at hc
      exact (digits_nat _).2 c hc

theorem digits_padded {digits : List Char} (hd : ∀ c ∈ digits, c.isDigit = true) (n : Nat) :
    ∀ c ∈ digits ++ List.replicate n '0', c.isDigit = true := by
  intro c hc
  obtain hc | hc := List.mem_append.mp hc
  · exact hd c hc
  · rw [List.eq_of_mem_replicate hc]
    rfl

/-- A text with a point in it: digits on both sides. -/
theorem fraction_part {part : List Char} (hp : ∀ c ∈ part, c.isDigit = true) :
    ∃ digits, Digits digits ∧ '.' :: (if part.isEmpty then ['0'] else part) = '.' :: digits := by
  refine ⟨_, ?_, rfl⟩
  split
  · exact digits_zero
  · rename_i he
    exact ⟨fun h => he (List.isEmpty_iff.mpr h), hp⟩

theorem withPoint_numeral {digits : List Char} (hd : Digits digits) (hz : digits.head? ≠ some '0')
    (point : Int) : Whole (withPoint digits point).1 ∧
      ∀ c ∈ (withPoint digits point).2, c.isDigit = true := by
  unfold withPoint
  split
  · refine ⟨.inl rfl, fun c hc => ?_⟩
    obtain hc | hc := List.mem_append.mp hc
    · rw [List.eq_of_mem_replicate hc]
      rfl
    · exact hd.2 c hc
  · rename_i hp
    have hall := digits_padded hd.2 (point.toNat - digits.length)
    obtain ⟨k, hk⟩ : ∃ k, point.toNat = k + 1 := ⟨point.toNat - 1, by omega⟩
    cases digits with
    | nil => exact absurd rfl hd.1
    | cons c more =>
      refine ⟨.inr ⟨⟨?_, fun d hc => hall d (List.mem_of_mem_take hc)⟩, ?_⟩,
        fun d hc => hall d (List.mem_of_mem_drop hc)⟩
      · simp [hk]
      · rw [hk]
        simpa using hz

theorem decimal_numeral {d : Decimal} (hd : Significant d) : ∃ whole fraction power,
    d.text = whole ++ fraction ++ power ∧ Numeral [] whole fraction power ∧
      (fraction.isEmpty && power.isEmpty) = false := by
  obtain ⟨hd, hz⟩ | rfl := hd
  · obtain ⟨hw, hp⟩ := withPoint_numeral hd hz d.point
    unfold Decimal.text
    split
    · refine ⟨_, _, [], (List.append_nil _).symm, ⟨.inl rfl, hw, .inr (fraction_part hp), .inl rfl⟩, rfl⟩
    · split
      · rename_i h
        exact absurd h hd.1
      · rename_i c h
        rw [h] at hd hz
        exact ⟨[c], [], _, rfl, ⟨.inl rfl, .inr ⟨hd, hz⟩, .inl rfl, .inr (power_exponentText _)⟩, rfl⟩
      · rename_i c rest hne h
        rw [h] at hd hz
        have hdigits := hd.2
        refine ⟨[c], '.' :: rest, 'e' :: exponentText (d.point - 1), rfl,
          ⟨.inl rfl, .inr ⟨⟨List.cons_ne_nil _ _, ?_⟩, hz⟩, .inr ⟨rest, ⟨hne, ?_⟩, rfl⟩,
            .inr (power_exponentText _)⟩, rfl⟩
        · intro x hx
          rw [List.mem_singleton.mp hx]
          exact hdigits c List.mem_cons_self
        · exact fun x hx => hdigits x (List.mem_cons_of_mem _ hx)
  · exact ⟨['0'], ['.', '0'], [], rfl,
      ⟨.inl rfl, .inl rfl, .inr ⟨['0'], digits_zero, rfl⟩, .inl rfl⟩, rfl⟩

theorem number_numeral {x : Float} {m : Nat} {e : Int} (hx : magnitude x = .finite m e) :
    ∃ sign whole fraction power, (number x).toList = sign ++ whole ++ fraction ++ power ∧
      Numeral sign whole fraction power ∧ (fraction.isEmpty && power.isEmpty) = false := by
  have hs : signText (isNegative x) = [] ∨ signText (isNegative x) = ['-'] := by
    cases isNegative x
    · exact .inl rfl
    · exact .inr rfl
  have ht : (number x).toList =
      signText (isNegative x) ++ if m == 0 then "0.0".toList else (shortest m e).text := by
    simp [number, floatText, hx]
  have hbody : ∃ whole fraction power,
      (if m == 0 then "0.0".toList else (shortest m e).text) = whole ++ fraction ++ power ∧
        Numeral [] whole fraction power ∧ (fraction.isEmpty && power.isEmpty) = false := by
    split
    · exact decimal_numeral (.inr rfl)
    · rename_i hm
      refine decimal_numeral (significant_shortest (Nat.pos_of_ne_zero fun h => hm ?_) e)
      rw [h]
      rfl
  obtain ⟨whole, fraction, power, hb, hn, hp⟩ := hbody
  refine ⟨_, whole, fraction, power, ?_, ⟨hs, hn.whole, hn.fraction, hn.power⟩, hp⟩
  rw [ht, hb]
  simp

theorem tokens_float {x : Float} {m : Nat} {e : Int} (hx : magnitude x = .finite m e)
    (hr : NumberEnds rest) :
    tokens ((number x).toList ++ rest) =
      (tokens rest).map fun ts => .scalar (.decimal (number x)) :: ts := by
  obtain ⟨sign, whole, fraction, power, ht, hn, hp⟩ := number_numeral hx
  rw [ht, tokens_numeral hn hr, hp, ← ht, String.ofList_toList]
  rfl

end Gelf.Json
