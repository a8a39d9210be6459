import Gelf.Chunk
import Mathlib.Tactic.Ring
import Mathlib.Data.List.Forall2
import Mathlib.Data.List.Nodup

/-!
# Gelf.Proofs.Reassembly

Chunks of several payloads, in whatever order they arrive.

* `Number.ceilQuotient_eq`: below `2 ^ 53` the count of chunks does not suffer from the rounding of
  floats.
* `Parcel.cut`: the chunks of a payload. `Parcel.cut_bodies`: they tile it, for every length and size.
* `inOrder_of_perm`: a collector can put the chunks of one payload in order again.
* `reassemble_of_perm`: so it gets back every payload, however the chunks of all of them were mixed.
-/

namespace Gelf

open Number

namespace Number

variable {num den : Nat}

theorem roundDiv_le {k : Nat} (hd : 0 < den) (h : num ≤ k * den) : roundDiv num den ≤ k := by
  have hq : num / den ≤ k := Nat.div_le_of_le_mul (by rwa [Nat.mul_comm] at h)
  have hr := Nat.div_add_mod num den
  unfold roundDiv
  dsimp only
  split
  · rename_i hup
    -- something is left over, so the quotient has not reached `k`
    have hpos : 0 < num % den := by
      simp only [Bool.or_eq_true, Bool.and_eq_true, decide_eq_true_eq, beq_iff_eq] at hup
      omega
    refine Nat.lt_of_le_of_ne hq fun he => ?_
    rw [he, Nat.mul_comm] at hr
    omega
  · exact hq

theorem le_roundDiv {k : Nat} (hd : 0 < den) (h : k * den ≤ num) : k ≤ roundDiv num den := by
  have hq : k ≤ num / den := (Nat.le_div_iff_mul_le hd).mpr h
  unfold roundDiv
  dsimp only
  split <;> omega

theorem lt_roundDiv {k : Nat} (hd : 0 < den) (h : (2 * k + 1) * den < 2 * num) :
    k < roundDiv num den := by
  have hr := Nat.div_add_mod num den
  have hm : (2 * k + 1) * den = 2 * (den * k) + den := by
    rw [Nat.add_mul, Nat.one_mul, Nat.mul_assoc, Nat.mul_comm k den]
  have hk : k ≤ num / den := by
    rw [Nat.le_div_iff_mul_le hd, Nat.mul_comm]
    omega
  unfold roundDiv
  dsimp only
  by_cases he : num / den = k
  · rw [he] at hr
    have hup : den < 2 * (num % den) := by omega
    simp only [hup, decide_true, Bool.true_or, if_true]
    omega
  · split <;> omega

/-- With all its binary places before the point, a quotient that is not below its last place has at
least 53 of them. -/
theorem lastPlace_below (hn : 0 < num) (h : lastPlace num den < 0) :
    twoTo 52 * den ≤ num * twoTo (-lastPlace num den).toNat := by
  have hnum : twoTo num.log2 ≤ num := Nat.log2_self_le (Nat.ne_of_gt hn)
  have hden : den < twoTo (den.log2 + 1) := Nat.lt_log2_self
  have hwide : ∀ k, num.log2 + k = den.log2 + 53 → twoTo 52 * den ≤ num * twoTo k := by
    intro k hk
    calc twoTo 52 * den ≤ twoTo 52 * twoTo (den.log2 + 1) := Nat.mul_le_mul_left _ (Nat.le_of_lt hden)
      _ = twoTo num.log2 * twoTo k := by
        rw [← twoTo_add, ← twoTo_add]
        congr 1
        omega
      _ ≤ num * twoTo k := Nat.mul_le_mul_right _ hnum
  unfold lastPlace at h ⊢
  dsimp only at h ⊢
  generalize hg : (num.log2 : Int) - (den.log2 : Int) - 52 = guess at h ⊢
  by_cases h0 : guess < 0
  · simp only [if_pos h0] at h ⊢
    split
    · exact hwide _ (by omega)
    · omega
  · simp only [if_neg h0] at h ⊢
    split
    · exact hwide _ (by omega)
    · rename_i hb
      rw [if_neg hb] at h
      exact absurd h h0

theorem lastPlace_above (hn : 0 < num) (h : 0 ≤ lastPlace num den) :
    twoTo 52 * den * twoTo (lastPlace num den).toNat ≤ num := by
  have hnum : twoTo num.log2 ≤ num := Nat.log2_self_le (Nat.ne_of_gt hn)
  have hden : den < twoTo (den.log2 + 1) := Nat.lt_log2_self
  have hwide : ∀ k, den.log2 + 53 + k = num.log2 → twoTo 52 * den * twoTo k ≤ num := by
    intro k hk
    calc twoTo 52 * den * twoTo k ≤ twoTo 52 * twoTo (den.log2 + 1) * twoTo k :=
          Nat.mul_le_mul_right _ (Nat.mul_le_mul_left _ (Nat.le_of_lt hden))
      _ = twoTo num.log2 := by
        rw [← twoTo_add, ← twoTo_add]
        congr 1
        omega
      _ ≤ num := hnum
  unfold lastPlace at h ⊢
  dsimp only at h ⊢
  generalize hg : (num.log2 : Int) - (den.log2 : Int) - 52 = guess at h ⊢
  by_cases h0 : guess < 0
  · simp only [if_pos h0] at h
    split at h <;> omega
  · simp only [if_neg h0] at h ⊢
    split
    · rename_i hb
      rw [if_pos hb] at h
      exact hwide _ (by omega)
    · rename_i hb
      exact Nat.le_of_not_lt hb

/-- Where the places after the point are fine enough, rounding to them moves no quotient past an
integer. -/
theorem ceil_roundDiv {scale : Nat} (hd : 0 < den) (hn : 0 < num) (hfine : den < 2 * scale) :
    (roundDiv (num * scale) den + scale - 1) / scale = (num + den - 1) / den := by
  obtain ⟨k, hk⟩ : ∃ k, (num + den - 1) / den = k + 1 :=
    ⟨_, (Nat.succ_pred (Nat.ne_of_gt (Nat.div_pos (by omega) hd))).symm⟩
  have hdiv := Nat.div_add_mod (num + den - 1) den
  have hmod := Nat.mod_lt (num + den - 1) hd
  rw [hk, Nat.mul_add, Nat.mul_one] at hdiv
  have hup : roundDiv (num * scale) den ≤ (k + 1) * scale := by
    refine roundDiv_le hd ?_
    calc num * scale ≤ (den * k + den) * scale := Nat.mul_le_mul_right _ (by omega)
      _ = (k + 1) * scale * den := by ring
  have hlow : k * scale < roundDiv (num * scale) den := by
    refine lt_roundDiv hd ?_
    calc (2 * (k * scale) + 1) * den = 2 * ((den * k) * scale) + den := by ring
      _ < 2 * ((den * k) * scale) + 2 * scale := by omega
      _ = 2 * ((den * k + 1) * scale) := by ring
      _ ≤ 2 * (num * scale) := Nat.mul_le_mul_left _ (Nat.mul_le_mul_right _ (by omega))
  have h₁ : (k + 1) * scale = k * scale + scale := by ring
  have h₂ : (k + 1 + 1) * scale = k * scale + scale + scale := by ring
  rw [hk]
  refine Nat.div_eq_of_lt_le ?_ ?_ <;> omega

/-- The quotient of integers that a float can tell apart is rounded up as if it were exact. -/
theorem ceilQuotient_eq (hd : 0 < den) (hn : num < twoTo 53) :
    ceilQuotient num den = (num + den - 1) / den := by
  rcases Nat.eq_zero_or_pos num with rfl | hpos
  · have hr : ∀ d, roundDiv 0 d = 0 := fun d => by simp [roundDiv]
    unfold ceilQuotient
    simp only [Nat.zero_mul, hr, Nat.zero_add]
    rw [Nat.div_eq_of_lt (Nat.sub_lt hd Nat.one_pos),
      Nat.div_eq_of_lt (Nat.sub_lt (twoTo_pos _) Nat.one_pos), ite_self]
  have h53 : twoTo 53 = twoTo 52 * 2 := rfl
  unfold ceilQuotient
  dsimp only
  split
  · rename_i hneg
    have hwide : twoTo 52 * den ≤ num * twoTo (-lastPlace num den).toNat :=
      lastPlace_below hpos hneg
    have hscale := twoTo_pos (-lastPlace num den).toNat
    generalize twoTo (-lastPlace num den).toNat = scale at hwide hscale ⊢
    refine ceil_roundDiv hd hpos (Nat.lt_of_mul_lt_mul_left (a := twoTo 52) ?_)
    calc twoTo 52 * den ≤ num * scale := hwide
      _ < twoTo 53 * scale := Nat.mul_lt_mul_of_pos_right hn hscale
      _ = twoTo 52 * (2 * scale) := by rw [h53, Nat.mul_assoc]
  · rename_i hneg
    -- so large a quotient of such small numbers has nothing after the point
    have habove : twoTo 52 * den * twoTo (lastPlace num den).toNat ≤ num :=
      lastPlace_above hpos (Int.not_lt.mp hneg)
    have hunit := twoTo_pos (lastPlace num den).toNat
    generalize twoTo (lastPlace num den).toNat = unit at habove hunit ⊢
    have hone : den * unit < 2 := by
      refine Nat.lt_of_mul_lt_mul_left (a := twoTo 52) ?_
      rw [← Nat.mul_assoc, ← h53]
      exact Nat.lt_of_le_of_lt habove hn
    have hprod : den * unit = 1 := Nat.le_antisymm (by omega) (Nat.mul_pos hd hunit)
    rw [hprod, Nat.eq_one_of_mul_eq_one_right hprod, Nat.eq_one_of_mul_eq_one_left hprod]
    simpa using roundDiv_mul num 1 Nat.one_pos

/-- Rounding up passes an integer that the quotient is above, if the integer has so few places that
the quotient keeps one after the point. -/
theorem lt_ceilQuotient {k : Nat} (hd : 0 < den) (hk : k < twoTo 52) (hfew : k * den < twoTo 53)
    (h : k * den < num) : k < ceilQuotient num den := by
  have hpos : 0 < num := Nat.lt_of_le_of_lt (Nat.zero_le _) h
  have h53 : twoTo 53 = 2 * twoTo 52 := rfl
  unfold ceilQuotient
  dsimp only
  split
  · rename_i hneg
    have hwide : twoTo 52 * den ≤ num * twoTo (-lastPlace num den).toNat :=
      lastPlace_below hpos hneg
    have hscale := twoTo_pos (-lastPlace num den).toNat
    generalize twoTo (-lastPlace num den).toNat = scale at hwide hscale ⊢
    have hlow : k * scale < roundDiv (num * scale) den := by
      by_cases hfine : den < 2 * scale
      · refine lt_roundDiv hd ?_
        calc (2 * (k * scale) + 1) * den = 2 * (k * den * scale) + den := by ring
          _ < 2 * (k * den * scale) + 2 * scale := by omega
          _ = 2 * ((k * den + 1) * scale) := by ring
          _ ≤ 2 * (num * scale) := Nat.mul_le_mul_left _ (Nat.mul_le_mul_right _ h)
      · have hcoarse : k * (2 * scale) ≤ k * den := Nat.mul_le_mul_left _ (Nat.le_of_not_lt hfine)
        have htwice : k * (2 * scale) = 2 * (k * scale) := by ring
        have hmany := le_roundDiv hd hwide
        omega
    rw [← Nat.succ_le_iff, Nat.le_div_iff_mul_le hscale, Nat.succ_mul]
    omega
  · rename_i hneg
    have habove : twoTo 52 * den * twoTo (lastPlace num den).toNat ≤ num :=
      lastPlace_above hpos (Int.not_lt.mp hneg)
    have hunit := twoTo_pos (lastPlace num den).toNat
    generalize twoTo (lastPlace num den).toNat = unit at habove hunit ⊢
    rw [Nat.mul_assoc] at habove
    have hmany := le_roundDiv (Nat.mul_pos hd hunit) habove
    exact Nat.lt_of_lt_of_le (Nat.lt_of_lt_of_le hk hmany) (Nat.le_mul_of_pos_right _ hunit)

end Number

/-! ## How many chunks -/

theorem chunkCount_eq {length : Nat} {size : Int} (hs : 1 ≤ size) (hl : length < twoTo 53) :
    chunkCount length size = max 1 ((length + size.toNat - 1) / size.toNat) := by
  unfold chunkCount
  rw [if_neg (by omega), ceilQuotient_eq (by omega) hl]

theorem chunkCount_le_iff {length n : Nat} {size : Int} (hs : 1 ≤ size) (hl : length < twoTo 53)
    (hn : 1 ≤ n) : chunkCount length size ≤ n ↔ (length : Int) ≤ n * size := by
  obtain ⟨s, rfl⟩ : ∃ s : Nat, size = s := ⟨size.toNat, by omega⟩
  have hpos : 0 < s := by omega
  rw [chunkCount_eq hs hl, Int.toNat_natCast, Nat.max_le]
  have hdiv : (length + s - 1) / s ≤ n ↔ length ≤ n * s := by
    rw [← Nat.lt_succ_iff, Nat.div_lt_iff_lt_mul hpos, Nat.succ_mul]
    omega
  rw [hdiv]
  constructor
  · rintro ⟨-, h⟩
    exact_mod_cast h
  · intro h
    exact ⟨hn, by exact_mod_cast h⟩

/-- A payload that is longer than all chunks can be together needs too many, whatever its length, if
a float can tell apart the sizes of so many chunks. -/
theorem maxChunks_lt_chunkCount {length : Nat} {size : Int} (hs : 1 ≤ size) (hsmall : size < twoTo 46)
    (hl : maxChunks * size < length) : maxChunks < chunkCount length size := by
  obtain ⟨s, rfl⟩ : ∃ s : Nat, size = s := ⟨size.toNat, by omega⟩
  have hmany : maxChunks < ceilQuotient length s := by
    refine lt_ceilQuotient (by omega) (by decide) ?_ (by exact_mod_cast hl)
    have hs46 : s < twoTo 46 := by exact_mod_cast hsmall
    calc maxChunks * s < maxChunks * twoTo 46 := Nat.mul_lt_mul_of_pos_left hs46 (by decide)
      _ = twoTo 53 := by decide
  unfold chunkCount
  rw [if_neg (by omega), Int.toNat_natCast]
  omega

/-- Beyond that the quotient loses what is left over, and the last byte finds no chunk. -/
example : chunkCount (twoTo 53 + 1) (twoTo 46) = maxChunks := by decide +kernel

/-! ## The chunks of one payload -/

/-- A payload and the id of the message it belongs to. -/
structure Parcel where
  payload : Bytes
  id : Bytes

namespace Parcel

variable {p : Parcel} {size : Int}

def count (p : Parcel) (size : Int) : Nat := chunkCount p.payload.length size

def chunkAt (p : Parcel) (size : Int) (place : Nat) : Chunk :=
  ⟨p.id, UInt8.ofNat place, UInt8.ofNat (p.count size), chunkBody p.payload size place⟩

/-- The chunks of the payload, in order. -/
def cut (p : Parcel) (size : Int) : List Chunk := (List.range (p.count size)).map (p.chunkAt size)

/-- The id has the right length, and the payload's length is one that floats can tell apart. -/
structure Fit (p : Parcel) : Prop where
  id : p.id.length = 8
  payload : p.payload.length < twoTo 53

theorem split_eq (hp : p.Fit) (hs : 1 ≤ size) : split p.payload size p.id =
    if maxChunks < p.count size then raise (.tooManyChunks (p.count size))
    else .ok ((p.cut size).map Chunk.toBytes) := by
  have hid : ¬ p.id.length ≠ 8 := not_not.mpr hp.id
  have hsize : ¬ size = 0 := by omega
  unfold split chunks
  rw [if_neg hid, if_neg hsize]
  unfold count
  dsimp only
  split <;> rfl

theorem count_pos (hp : p.Fit) (hs : 1 ≤ size) : 1 ≤ p.count size := by
  unfold count
  rw [chunkCount_eq hs hp.payload]
  exact Nat.le_max_left _ _

theorem count_le_iff (hp : p.Fit) (hs : 1 ≤ size) :
    p.count size ≤ maxChunks ↔ (p.payload.length : Int) ≤ maxChunks * size :=
  chunkCount_le_iff hs hp.payload (by decide)

theorem split_ok (hp : p.Fit) (hs : 1 ≤ size) {ds : List Bytes}
    (h : split p.payload size p.id = .ok ds) :
    p.count size ≤ maxChunks ∧ ds = (p.cut size).map Chunk.toBytes := by
  rw [split_eq hp hs] at h
  split at h
  · cases h
  · cases h
    exact ⟨by omega, rfl⟩

theorem flatMap_slices (xs : Bytes) (width n : Nat) :
    (List.range n).flatMap (fun k => (xs.drop (k * width)).take width) = xs.take (n * width) := by
  induction n with
  | zero => simp
  | succ n ih =>
    rw [List.range_succ, List.flatMap_append, ih, Nat.succ_mul, List.take_add]
    simp

theorem chunkBody_eq (hs : 1 ≤ size) (payload : Bytes) (k : Nat) : chunkBody payload size k =
    (payload.drop (k * size.toNat)).take size.toNat := by
  unfold chunkBody
  rw [if_neg (by omega)]

theorem cut_bodies (hp : p.Fit) (hs : 1 ≤ size) : (p.cut size).flatMap (·.body) = p.payload := by
  have hlen : p.payload.length ≤ p.count size * size.toNat := by
    have h := (chunkCount_le_iff hs hp.payload (count_pos hp hs)).mp (Nat.le_refl _)
    obtain ⟨s, rfl⟩ : ∃ s : Nat, size = s := ⟨size.toNat, by omega⟩
    exact_mod_cast h
  unfold cut
  rw [List.flatMap_map]
  simp only [chunkAt, chunkBody_eq hs]
  rw [flatMap_slices, List.take_of_length_le hlen]

theorem cut_places (hc : p.count size ≤ maxChunks) :
    (p.cut size).map (·.place.toNat) = List.range (p.count size) := by
  unfold cut
  rw [List.map_map]
  refine (List.map_congr_left fun k hk => ?_).trans (List.map_id _)
  have hlt := List.mem_range.mp hk
  have hmax : maxChunks < 256 := by decide
  simp only [Function.comp_apply, chunkAt, UInt8.toNat_ofNat']
  exact Nat.mod_eq_of_lt (by omega)

/-- What every chunk of a payload looks like. -/
structure Piece (p : Parcel) (size : Int) (c : Chunk) : Prop where
  id : c.id = p.id
  count : c.count.toNat = p.count size
  place : c.place < c.count
  body : (c.body.length : Int) ≤ size

theorem piece_of_mem (hs : 1 ≤ size) (hc : p.count size ≤ maxChunks) {c : Chunk}
    (h : c ∈ p.cut size) : p.Piece size c := by
  obtain ⟨k, hk, rfl⟩ := List.mem_map.mp h
  have hlt := List.mem_range.mp hk
  have hmax : maxChunks < 256 := by decide
  have hcount : (p.chunkAt size k).count.toNat = p.count size := by
    simp only [chunkAt, UInt8.toNat_ofNat']
    exact Nat.mod_eq_of_lt (by omega)
  refine ⟨rfl, hcount, ?_, ?_⟩
  · rw [UInt8.lt_iff_toNat_lt, hcount]
    simp only [chunkAt, UInt8.toNat_ofNat']
    rwa [Nat.mod_eq_of_lt (by omega)]
  · simp only [chunkAt, chunkBody_eq hs, List.length_take]
    omega

end Parcel

/-! ## Putting chunks in order -/

theorem insertChunk_perm (c : Chunk) (cs : List Chunk) : (insertChunk c cs).Perm (c :: cs) := by
  induction cs with
  | nil => exact .refl _
  | cons d rest ih =>
    unfold insertChunk
    split
    · exact .refl _
    · exact (ih.cons d).trans (.swap c d rest)

theorem inOrder_perm (cs : List Chunk) : (inOrder cs).Perm cs := by
  induction cs with
  | nil => exact .refl _
  | cons c rest ih => exact (insertChunk_perm c _).trans (ih.cons c)

theorem insertChunk_sorted {c : Chunk} {cs : List Chunk} (h : cs.Pairwise (·.place ≤ ·.place)) :
    (insertChunk c cs).Pairwise (·.place ≤ ·.place) := by
  induction cs with
  | nil => exact List.pairwise_singleton _ _
  | cons d rest ih =>
    obtain ⟨hd, hrest⟩ := List.pairwise_cons.mp h
    unfold insertChunk
    split
    · rename_i hle
      refine List.pairwise_cons.mpr ⟨fun e he => ?_, h⟩
      rcases List.mem_cons.mp he with rfl | he
      · exact hle
      · exact UInt8.le_trans hle (hd e he)
    · rename_i hle
      refine List.pairwise_cons.mpr ⟨fun e he => ?_, ih hrest⟩
      rcases List.mem_cons.mp ((insertChunk_perm c rest).mem_iff.mp he) with rfl | he
      · exact (UInt8.le_total d.place e.place).resolve_right hle
      · exact hd e he

theorem inOrder_sorted (cs : List Chunk) : (inOrder cs).Pairwise (·.place ≤ ·.place) := by
  induction cs with
  | nil => exact .nil
  | cons c rest ih => exact insertChunk_sorted ih

namespace Parcel

variable {p : Parcel} {size : Int}

theorem cut_sorted (hc : p.count size ≤ maxChunks) :
    (p.cut size).Pairwise fun c d => c.place.toNat < d.place.toNat := by
  rw [← List.pairwise_map (f := fun c : Chunk => c.place.toNat) (R := (· < ·)), cut_places hc]
  exact List.pairwise_lt_range

/-- However the chunks of a payload are mixed, their places say how to put them in order. -/
theorem inOrder_of_perm (hc : p.count size ≤ maxChunks) {cs : List Chunk}
    (h : cs.Perm (p.cut size)) : inOrder cs = p.cut size := by
  have hperm := (inOrder_perm cs).trans h
  have hplaces : ((p.cut size).map fun c => c.place.toNat).Nodup := by
    rw [cut_places hc]
    exact List.nodup_range
  refine hperm.eq_of_pairwise (fun c d hc' hd hcd hdc => ?_) (inOrder_sorted cs)
    ((cut_sorted hc).imp fun hlt => UInt8.le_iff_toNat_le.mpr (Nat.le_of_lt hlt))
  exact List.inj_on_of_nodup_map hplaces (hperm.mem_iff.mp hc') hd
    (congrArg UInt8.toNat (UInt8.le_antisymm hcd hdc))

end Parcel

/-! ## Chunks of several payloads -/

/-- The chunks with this id among the datagrams that arrived. -/
def received (id : Bytes) (arrived : List Bytes) : List Chunk :=
  (arrived.filterMap Chunk.ofBytes?).filter (·.id = id)

variable {size : Int} {ps : List Parcel}

theorem filter_cuts (hn : (ps.map Parcel.id).Nodup) {p : Parcel} (hp : p ∈ ps) :
    (ps.flatMap (·.cut size)).filter (·.id = p.id) = p.cut size := by
  have hid : ∀ q : Parcel, ∀ c ∈ q.cut size, c.id = q.id := by
    intro q c hc
    obtain ⟨k, -, rfl⟩ := List.mem_map.mp hc
    rfl
  have hsame : ∀ q : Parcel, q.id = p.id → (q.cut size).filter (·.id = p.id) = q.cut size := by
    intro q hq
    rw [List.filter_eq_self]
    intro c hc
    rw [decide_eq_true_eq, hid q c hc, hq]
  have hother : ∀ q : Parcel, q.id ≠ p.id → (q.cut size).filter (·.id = p.id) = [] := by
    intro q hq
    rw [List.filter_eq_nil_iff]
    intro c hc
    rwa [decide_eq_true_eq, hid q c hc]
  induction ps with
  | nil => cases hp
  | cons q rest ih =>
    rw [List.map_cons, List.nodup_cons] at hn
    rw [List.flatMap_cons, List.filter_append]
    rcases List.mem_cons.mp hp with rfl | hp
    · have hnone : (rest.flatMap (·.cut size)).filter (·.id = p.id) = [] := by
        rw [List.filter_flatMap, List.flatMap_eq_nil_iff]
        exact fun q hq => hother q fun he => hn.1 (he ▸ List.mem_map_of_mem hq)
      rw [hsame p rfl, hnone, List.append_nil]
    · rw [hother q fun he => hn.1 (he ▸ List.mem_map_of_mem hp), ih hn.2 hp, List.nil_append]

/-- Each payload was cut into chunks, and these were sent. -/
def Sent (size : Int) (ps : List Parcel) (sent : List (List Bytes)) : Prop :=
  List.Forall₂ (fun p ds => split p.payload size p.id = .ok ds) ps sent

theorem Sent.flatten {sent : List (List Bytes)} (h : Sent size ps sent) (hs : 1 ≤ size)
    (hp : ∀ p ∈ ps, p.Fit) : (∀ p ∈ ps, p.count size ≤ maxChunks) ∧
      sent.flatten = (ps.flatMap (·.cut size)).map Chunk.toBytes := by
  induction h with
  | nil => exact ⟨nofun, rfl⟩
  | @cons p ds ps sent hd _ ih =>
    obtain ⟨hp₁, hp₂⟩ := List.forall_mem_cons.mp hp
    obtain ⟨hc, rfl⟩ := Parcel.split_ok hp₁ hs hd
    obtain ⟨hcs, hrest⟩ := ih hp₂
    refine ⟨List.forall_mem_cons.mpr ⟨hc, hcs⟩, ?_⟩
    rw [List.flatten_cons, hrest, List.flatMap_cons, List.map_append]

theorem filterMap_ofBytes? {cs : List Chunk} (h : ∀ c ∈ cs, c.id.length = 8) :
    (cs.map Chunk.toBytes).filterMap Chunk.ofBytes? = cs := by
  rw [List.filterMap_map]
  exact (List.filterMap_congr fun c hc => Chunk.ofBytes?_toBytes c (h c hc)).trans
    List.filterMap_some

/-- A collector has exactly the chunks of each payload in the group of its id. -/
theorem received_perm {sent : List (List Bytes)} {arrived : List Bytes} (hs : 1 ≤ size)
    (hp : ∀ p ∈ ps, p.Fit) (hn : (ps.map Parcel.id).Nodup) (h : Sent size ps sent)
    (ha : arrived.Perm sent.flatten) {p : Parcel} (hm : p ∈ ps) :
    (received p.id arrived).Perm (p.cut size) := by
  obtain ⟨hcs, hflat⟩ := h.flatten hs hp
  have hid : ∀ c ∈ ps.flatMap (·.cut size), c.id.length = 8 := by
    intro c hc
    obtain ⟨q, hq, hc⟩ := List.mem_flatMap.mp hc
    rw [(Parcel.piece_of_mem hs (hcs q hq) hc).id]
    exact (hp q hq).id
  have hperm := (ha.filterMap Chunk.ofBytes?).filter (·.id = p.id)
  rw [hflat, filterMap_ofBytes? hid, filter_cuts hn hm] at hperm
  exact hperm

/-- For payloads with different ids, each cut into chunks, and for these chunks all arriving in any
order: every chunk has its form and its bounds, and a collector has the chunks of each payload in one
group, every place once, and gets the payload back. A payload is refused just if it is longer than the
chunks can be together. -/
theorem reassemble_of_perm (hs : 1 ≤ size) (hp : ∀ p ∈ ps, p.Fit) (hn : (ps.map Parcel.id).Nodup)
    {sent : List (List Bytes)} (h : Sent size ps sent) {arrived : List Bytes}
    (ha : arrived.Perm sent.flatten) :
    (∀ d ∈ arrived, ∃ c : Chunk, d = c.toBytes ∧ c.id.length = 8 ∧ c.place < c.count ∧
      c.count.toNat ≤ maxChunks ∧ (c.body.length : Int) ≤ size) ∧
    (∀ p ∈ ps, reassemble p.id arrived = p.payload ∧ ∃ n,
      (∀ c ∈ received p.id arrived, c.count.toNat = n) ∧
      ((received p.id arrived).map fun c => c.place.toNat).Perm (List.range n)) ∧
    ∀ p : Parcel, p.Fit →
      ((∃ f, split p.payload size p.id = .error f ∧ f.isA "ValueError" = true) ↔
        maxChunks * size < p.payload.length) ∧
      ((∃ ds, split p.payload size p.id = .ok ds) ↔ (p.payload.length : Int) ≤ maxChunks * size) := by
  obtain ⟨hcs, hflat⟩ := h.flatten hs hp
  refine ⟨fun d hd => ?_, fun p hm => ?_, fun p hfit => ?_⟩
  · rw [ha.mem_iff, hflat] at hd
    obtain ⟨c, hc, rfl⟩ := List.mem_map.mp hd
    obtain ⟨p, hm, hc⟩ := List.mem_flatMap.mp hc
    have hpiece := Parcel.piece_of_mem hs (hcs p hm) hc
    exact ⟨c, rfl, by rw [hpiece.id, (hp p hm).id], hpiece.place, hpiece.count ▸ hcs p hm,
      hpiece.body⟩
  · have hperm := received_perm hs hp hn h ha hm
    refine ⟨?_, p.count size, fun c hc => ?_, ?_⟩
    · show (inOrder (received p.id arrived)).flatMap (·.body) = p.payload
      rw [Parcel.inOrder_of_perm (hcs p hm) hperm, Parcel.cut_bodies (hp p hm) hs]
    · exact (Parcel.piece_of_mem hs (hcs p hm) (hperm.mem_iff.mp hc)).count
    · rw [← Parcel.cut_places (hcs p hm)]
      exact hperm.map _
  · have hle := Parcel.count_le_iff hfit hs
    rw [← Int.not_le, ← hle, Parcel.split_eq hfit hs]
    split
    · rename_i hlt
      exact ⟨⟨fun _ => by omega, fun _ => ⟨_, rfl, rfl⟩⟩, nofun, fun hc => by omega⟩
    · rename_i hlt
      refine ⟨⟨nofun, fun hc => by omega⟩, fun _ => by omega, fun _ => ⟨_, rfl⟩⟩

def twoParcels : List Parcel :=
  [⟨[1, 2, 3, 4, 5, 6, 7], [0, 0, 0, 0, 0, 0, 0, 1]⟩, ⟨[], [0, 0, 0, 0, 0, 0, 0, 2]⟩]

def twoSent : List (List Bytes) := twoParcels.map fun p => (p.cut 3).map Chunk.toBytes

/-- One payload in three chunks and one that is empty, and all chunks arrive backwards. -/
theorem reassemble_of_perm_two : (∀ p ∈ twoParcels, p.Fit) ∧ (twoParcels.map Parcel.id).Nodup ∧
    Sent 3 twoParcels twoSent ∧ twoSent.flatten.length = 4 ∧
    ∀ p ∈ twoParcels, reassemble p.id twoSent.flatten.reverse = p.payload := by
  have hp : ∀ p ∈ twoParcels, p.Fit := by
    intro p hp
    rcases List.mem_cons.mp hp with rfl | hp
    · exact ⟨rfl, by decide⟩
    · rw [List.mem_singleton.mp hp]
      exact ⟨rfl, by decide⟩
  have hn : (twoParcels.map Parcel.id).Nodup := by decide
  have hsent : Sent 3 twoParcels twoSent := .cons rfl (.cons rfl .nil)
  refine ⟨hp, hn, hsent, rfl, fun p hm => ?_⟩
  exact ((reassemble_of_perm (by decide) hp hn hsent (List.reverse_perm _)).2.1 p hm).1

end Gelf
