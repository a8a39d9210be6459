import Gelf.Number.Binary

/-!
# Gelf.Proofs.Finite

A time in milliseconds stays finite when it is made one in seconds.

* `Finite`: a float that is neither infinite nor a NaN. `finite_iff`: told by its exponent field.
* `Moderate`: an unpacked float that keeps finite when it is packed.
* `moderate_rounded`: rounding adds no more than one to the greatest exponent.
* `finite_neg`, `finite_div`: a negated float and a thousandth of a float are finite if the float is.
* `finite_ofInt`: so is an integer that can be made a float.
-/

namespace Gelf.Number

open Float.Model Float.Model.UnpackedFloat

def Finite (x : Float) : Prop := ∃ m e, magnitude x = .finite m e

/-- The exponent field of a float. -/
def exponentField (x : Float) : BitVec 11 := @unpackExponent .binary64 x.toModel.toBits.toBitVec

theorem exponentField_toNat (x : Float) :
    (exponentField x).toNat = x.toBits.toNat / twoTo 52 % twoTo 11 := by
  unfold exponentField unpackExponent
  rw [BitVec.toNat_cast, BitVec.extractLsb_toNat, Nat.shiftRight_eq_div_pow]
  rfl

theorem finite_iff (x : Float) : Finite x ↔ exponentField x ≠ -1#11 := by
  have hf : exponentField x = -1#11 ↔ x.toBits.toNat / twoTo 52 % twoTo 11 = 2047 := by
    rw [← exponentField_toNat, ← BitVec.toNat_inj]
    rfl
  unfold Finite magnitude
  rw [Ne, hf]
  dsimp only
  by_cases h : x.toBits.toNat / twoTo 52 % twoTo 11 = 2047
  · simp only [h, beq_self_eq_true, if_true, not_true, iff_false]
    rintro ⟨m, e, hm⟩
    split at hm <;> cases hm
  · rw [if_neg (by simpa using h)]
    refine iff_of_true ?_ h
    split
    · exact ⟨_, _, rfl⟩
    · exact ⟨_, _, rfl⟩

/-! ## Packing -/

/-- The exponent is not above that of the greatest float. -/
def Moderate : UnpackedFloat → Prop
  | .zero _ => True
  | .finite _ _ e _ => e ≤ 971
  | _ => False

theorem finite_pack {f : UnpackedFloat} (hf : Moderate f) : Finite (.ofModel (.pack f)) := by
  rw [finite_iff]
  show unpackExponent (UnpackedFloat.pack .binary64 f) ≠ -1#11
  cases f with
  | infinity s => cases hf
  | notANumber => cases hf
  | zero s =>
    change unpackExponent (packedZero .binary64 s) ≠ -1#11
    simp [packedZero]
  | finite s m e hm =>
    have he : e ≤ 971 := hf
    unfold UnpackedFloat.pack
    dsimp only
    split
    · rename_i hlarge
      simp only [Format.exponentBias] at hlarge
      omega
    · rename_i hlarge
      simp only [Format.exponentBias] at hlarge
      split
      · rw [unpackExponent_packComponents]
        intro hb
        have hn := congrArg BitVec.toNat hb
        simp only [Format.exponentBias, BitVec.toNat_ofNat] at hn
        rw [Nat.mod_eq_of_lt (by omega)] at hn
        simp at hn
        omega
      · simp

/-- What a finite float can be unpacked as. -/
def Small : UnpackedFloat → Prop
  | .zero _ => True
  | .finite _ m e _ => m < twoTo 53 ∧ e ≤ 971
  | _ => False

theorem small_unpack {x : Float} (hx : Finite x) : Small x.toModel.unpack := by
  have he : exponentField x ≠ -1#11 := (finite_iff x).mp hx
  have hlt : (exponentField x).toNat < 2047 := by
    have hn : (exponentField x).toNat ≠ 2047 := fun h => he (BitVec.toNat_inj.mp h)
    have hlt := (exponentField x).isLt
    omega
  change Small (if exponentField x = -1#11 then _ else if exponentField x = 0#11 then
    if h : @unpackMantissa .binary64 x.toModel.toBits.toBitVec = 0#52 then _ else _ else _)
  rw [if_neg he]
  by_cases hz : exponentField x = 0#11
  · rw [if_pos hz]
    by_cases hm : @unpackMantissa .binary64 x.toModel.toBits.toBitVec = 0#52
    · rw [dif_pos hm]
      trivial
    · rw [dif_neg hm]
      refine ⟨Nat.lt_trans (BitVec.isLt _) (by decide), ?_⟩
      change ((exponentField x).toNat : Int) - (1023 + 52) + 1 ≤ 971
      rw [hz]
      decide
  · rw [if_neg hz]
    refine ⟨BitVec.isLt _, ?_⟩
    change ((exponentField x).toNat : Int) - (1023 + 52) ≤ 971
    omega

theorem finite_neg {x : Float} (hx : Finite x) : Finite (-x) := by
  have hs := small_unpack hx
  refine finite_pack ?_
  cases hu : x.toModel.unpack with
  | zero s => trivial
  | finite s m e hm =>
    rw [hu] at hs
    exact hs.2
  | infinity s =>
    rw [hu] at hs
    cases hs
  | notANumber =>
    rw [hu] at hs
    cases hs

/-! ## Rounding -/

theorem shiftRight_mantissa (em : ExtendedMantissa) (n : Nat) :
    (em >>> n).mantissa = em.mantissa / twoTo n := by
  induction n with
  | zero => exact (Nat.div_one _).symm
  | succ n ih =>
    have hs : (em >>> (n + 1)).mantissa = (em >>> n).mantissa / 2 := rfl
    rw [hs, ih, Nat.div_div_eq_div_mul]
    rfl

theorem roundedMantissa_le (em : ExtendedMantissa) : em.roundedMantissa ≤ em.mantissa + 1 := by
  unfold ExtendedMantissa.roundedMantissa Accuracy.roundToNearestEven
  split <;> omega

theorem ofAccuracy_mantissa (m : Nat) (acc : Accuracy) :
    (ExtendedMantissa.ofMantissaAndAccuracy m acc).mantissa = m := by
  unfold ExtendedMantissa.ofMantissaAndAccuracy
  split <;> rfl

theorem log2_le {n k : Nat} (h : n < twoTo (k + 1)) : n.log2 ≤ k := by
  by_cases hn : n = 0
  · subst hn
    simp
  · have := (Nat.log2_lt hn).mpr h
    omega

/-- A mantissa that is shifted and rounded. -/
theorem log2_rounded (m k : Nat) (acc : Accuracy) :
    (ExtendedMantissa.ofMantissaAndAccuracy m acc >>> k).roundedMantissa.log2 ≤
      m.log2 + 1 - k := by
  have hr := roundedMantissa_le (ExtendedMantissa.ofMantissaAndAccuracy m acc >>> k)
  rw [shiftRight_mantissa, ofAccuracy_mantissa] at hr
  have hm : m < twoTo (m.log2 + 1) := Nat.lt_log2_self
  have hdiv : m / twoTo k < twoTo (m.log2 + 1 - k) := by
    refine Nat.div_lt_of_lt_mul (Nat.lt_of_lt_of_le hm ?_)
    rw [← twoTo_add]
    exact Nat.pow_le_pow_right (by decide) (by omega)
  refine log2_le ?_
  have hp : twoTo (m.log2 + 1 - k + 1) = twoTo (m.log2 + 1 - k) * 2 := twoTo_add _ 1
  have hpos := twoTo_pos (m.log2 + 1 - k)
  omega

theorem bits_double : Format.mantissaBits .binary64 = 53 := rfl

theorem moderate_made (s : Sign) (m : Nat) {e : Int} (he : e ≤ 971) :
    Moderate (if h : m = 0 then .zero s else .finite s m e (Nat.pos_of_ne_zero h)) := by
  by_cases h : m = 0
  · rw [dif_pos h]
    trivial
  · rw [dif_neg h]
    exact he

theorem moderate_rounded (s : Sign) {m : Nat} {e : Int} (acc : Accuracy) (he : e ≤ 971)
    (ht : totalExponent m e ≤ 1023) : Moderate (roundWithAccuracy .binary64 s m e acc) := by
  unfold roundWithAccuracy shiftToTargetExponent shiftToExponent
  dsimp only
  have hr := log2_rounded m (Format.binary64.targetExponent (totalExponent m e) - e).toNat acc
  refine moderate_made s _ ?_
  simp only [Format.targetExponent, totalExponent, Format.minExponent, bits_double] at *
  omega

/-! ## A thousandth -/

theorem thousand_unpack : ∃ hm, (1000.0 : Float).toModel.unpack =
    .finite .positive (1000 * twoTo 43) (-43) hm := ⟨by decide, rfl⟩

/-- The quotient is smaller than the dividend by as many places as the divisor has, but for one. -/
theorem log2_quotient (m k : Nat) :
    ((m <<< k) / (1000 * twoTo 43)).log2 ≤ m.log2 + 1 + k - 53 := by
  have hm : m < twoTo (m.log2 + 1) := Nat.lt_log2_self
  refine log2_le (Nat.div_lt_of_lt_mul ?_)
  have hs : m <<< k = m * twoTo k := Nat.shiftLeft_eq m k
  have hlt : m * twoTo k < twoTo (m.log2 + 1 + k) := by
    rw [twoTo_add]
    exact Nat.mul_lt_mul_of_pos_right hm (twoTo_pos k)
  have hle : twoTo (m.log2 + 1 + k) ≤ twoTo 52 * twoTo (m.log2 + 1 + k - 53 + 1) := by
    rw [← twoTo_add]
    exact Nat.pow_le_pow_right (by decide) (by omega)
  have hden : twoTo 52 * twoTo (m.log2 + 1 + k - 53 + 1) ≤
      1000 * twoTo 43 * twoTo (m.log2 + 1 + k - 53 + 1) := Nat.mul_le_mul_right _ (by decide)
  omega

theorem finite_div {x : Float} (hx : Finite x) : Finite (x / 1000.0) := by
  have hs := small_unpack hx
  obtain ⟨hpos, ht⟩ := thousand_unpack
  have hd : Moderate (UnpackedFloat.div .binary64 x.toModel.unpack (1000.0 : Float).toModel.unpack) := by
    rw [ht]
    cases hu : x.toModel.unpack with
    | zero s => trivial
    | infinity s =>
      rw [hu] at hs
      cases hs
    | notANumber =>
      rw [hu] at hs
      cases hs
    | finite s m e hm =>
      rw [hu] at hs
      obtain ⟨hlt, he⟩ := hs
      have hlog : m.log2 ≤ 52 := log2_le hlt
      have h₂ : (1000 * twoTo 43).log2 = 52 := by decide +kernel
      unfold UnpackedFloat.div divCore
      dsimp only
      have hq := log2_quotient m (e - -43 - min (e - -43)
        (Format.binary64.targetExponent (totalExponent m e - totalExponent (1000 * twoTo 43) (-43)))).toNat
      refine moderate_rounded _ _ ?_ ?_
      · simp only [Format.targetExponent, totalExponent, Format.minExponent, bits_double, h₂]
        omega
      · simp only [Format.targetExponent, totalExponent, Format.minExponent, bits_double, h₂]
          at hq ⊢
        omega
  exact finite_pack hd

theorem finite_ofInt {n : Int} {x : Float} (h : ofInt? n = some x) : Finite x := by
  have hnat : ∀ {k : Nat} {y : Float}, ofNat? k = some y → Finite y := by
    intro k y hy
    unfold ofNat? at hy
    dsimp only at hy
    split at hy
    · rename_i hm
      cases hy
      exact ⟨_, _, hm⟩
    · cases hy
  unfold ofInt? at h
  split at h
  · obtain ⟨y, hy, rfl⟩ := Option.map_eq_some_iff.mp h
    exact finite_neg (hnat hy)
  · exact hnat h

end Gelf.Number
