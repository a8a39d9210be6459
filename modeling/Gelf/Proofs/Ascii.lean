import Gelf.Message
import Gelf.Proofs.Passage

/-!
# Gelf.Proofs.Ascii

JSON texts are printable ASCII, whatever they say.

* `Ascii`, `AsciiText`: a character, and a text, that a terminal shows as it is.
* `ascii_float`, `ascii_string`: the texts of numbers and of quoted texts are of this kind.
* `ascii_write`, `ascii_encode`: so is every JSON text, by recursion over the value, and so is every
  message.
* `ascii_toUTF8`, `ascii_bytes`: each character of such a text is one byte, and none is null.
-/

namespace Gelf

open Gelf.Text Gelf.Number

/-- A character from the space to the tilde. -/
def Ascii (c : Char) : Prop := 0x20 ≤ c.toNat ∧ c.toNat ≤ 0x7e

instance (c : Char) : Decidable (Ascii c) := inferInstanceAs (Decidable (_ ∧ _))

def AsciiText (s : List Char) : Prop := ∀ c ∈ s, Ascii c

instance (s : List Char) : Decidable (AsciiText s) := List.decidableBAll Ascii s

namespace AsciiText

variable {s t : List Char} {c : Char}

theorem nil : AsciiText [] := nofun

theorem cons (hc : Ascii c) (hs : AsciiText s) : AsciiText (c :: s) :=
  List.forall_mem_cons.mpr ⟨hc, hs⟩

theorem append (hs : AsciiText s) (ht : AsciiText t) : AsciiText (s ++ t) :=
  List.forall_mem_append.mpr ⟨hs, ht⟩

theorem subset (ht : AsciiText t) (h : s ⊆ t) : AsciiText s := fun c hc => ht c (h hc)

theorem replicate (hc : Ascii c) (n : Nat) : AsciiText (List.replicate n c) := by
  intro d hd
  rw [(List.mem_replicate.mp hd).2]
  exact hc

end AsciiText

/-! ## Numbers -/

theorem ascii_digit {c : Char} (h : c.isDigit = true) : Ascii c := by
  rw [Char.isDigit, Bool.and_eq_true, decide_eq_true_eq, decide_eq_true_eq] at h
  have h₁ : 48 ≤ c.toNat := h.1
  have h₂ : c.toNat ≤ 57 := h.2
  exact ⟨by omega, by omega⟩

theorem ascii_nat (n : Nat) : AsciiText (Nat.repr n).toList := by
  intro c hc
  rw [Nat.toList_repr] at hc
  exact ascii_digit (Nat.isDigit_of_mem_toDigits (by decide) (by decide) hc)

theorem ascii_int (n : Int) : AsciiText (toString n).toList := by
  rw [Int.toString_eq_repr, Int.repr_eq_if]
  split
  · exact ascii_nat _
  · rw [String.toList_append]
    exact .append (by decide) (ascii_nat _)

theorem ascii_exponent (x : Int) : AsciiText (exponentText x) := by
  unfold exponentText
  refine .cons ?_ (.append (.replicate (by decide) _) (ascii_nat _))
  split <;> decide

theorem ascii_ofUnits (n : Nat) (exponent : Int) : AsciiText (Decimal.ofUnits n exponent).digits := by
  refine (ascii_nat n).subset ?_
  unfold Decimal.ofUnits dropTrailingZeros
  refine fun c hc => List.mem_reverse.mp ?_
  exact (List.dropWhile_sublist _).subset (List.mem_reverse.mp hc)

theorem ascii_shortest (m : Nat) (e : Int) : AsciiText (shortest m e).digits := by
  unfold shortest
  dsimp only
  split
  · rename_i d hd
    obtain ⟨k, -, hk⟩ := List.exists_of_findSome?_eq_some hd
    unfold withDigits? at hk
    dsimp only at hk
    split at hk
    · cases hk
      split <;> exact ascii_ofUnits _ _
    · split at hk
      · cases hk
        exact ascii_ofUnits _ _
      · split at hk
        · cases hk
          exact ascii_ofUnits _ _
        · cases hk
  · exact ascii_ofUnits _ _

theorem ascii_withPoint {digits : List Char} (hd : AsciiText digits) (whole : Int) :
    AsciiText (withPoint digits whole).1 ∧ AsciiText (withPoint digits whole).2 := by
  unfold withPoint
  split
  · exact ⟨.cons (by decide) .nil, .append (.replicate (by decide) _) hd⟩
  · have hp : AsciiText (digits ++ List.replicate (whole.toNat - digits.length) '0') :=
      .append hd (.replicate (by decide) _)
    exact ⟨hp.subset (List.take_subset _ _), hp.subset (List.drop_subset _ _)⟩

theorem ascii_decimal {d : Decimal} (hd : AsciiText d.digits) : AsciiText d.text := by
  unfold Decimal.text
  split
  · obtain ⟨hw, hp⟩ := ascii_withPoint hd d.point
    dsimp only
    refine .append hw (.cons (by decide) ?_)
    split
    · decide
    · exact hp
  · split
    · exact .nil
    · rename_i c h
      rw [h] at hd
      exact .cons (hd c List.mem_cons_self) (.cons (by decide) (ascii_exponent _))
    · rename_i c rest _ h
      rw [h] at hd
      obtain ⟨hc, hr⟩ := List.forall_mem_cons.mp hd
      exact .cons hc (.cons (by decide) (.append hr (.cons (by decide) (ascii_exponent _))))

theorem ascii_sign (negative : Bool) : AsciiText (signText negative) := by
  cases negative <;> decide

theorem ascii_float (x : Float) : AsciiText (Json.number x).toList := by
  unfold Json.number
  split
  · decide
  · split <;> decide
  · rename_i m e h
    rw [String.toList_ofList, floatText, h]
    dsimp only
    refine .append (ascii_sign _) ?_
    split
    · decide
    · exact ascii_decimal (ascii_shortest m e)

/-! ## Quoted texts -/

theorem ascii_hexDigit {n : Nat} (h : n < 16) : Ascii (hexDigit n) := by
  have hall : ∀ n < 16, Ascii (hexDigit n) := by decide
  exact hall n h

theorem ascii_hex (width n : Nat) : AsciiText (hex width n) := by
  induction width generalizing n with
  | zero => exact .nil
  | succ width ih => exact .append (ih _) (.cons (ascii_hexDigit (Nat.mod_lt _ (by decide))) .nil)

theorem ascii_unit (n : Nat) : AsciiText (Json.unit n) :=
  .cons (by decide) (.cons (by decide) (ascii_hex 4 n))

theorem ascii_units (n : Nat) : AsciiText (Json.units n) := by
  unfold Json.units
  split
  · exact ascii_unit n
  · exact .append (ascii_unit _) (ascii_unit _)

/-- Every class of characters has an escape of its own, and what has none is shown as it is. -/
theorem ascii_escaped (c : Char) : AsciiText (Json.escaped c) := by
  unfold Json.escaped
  split
  · rename_i h
    simp only [Bool.or_eq_true, beq_iff_eq] at h
    rcases h with rfl | rfl <;> decide
  split
  · decide
  split
  · decide
  split
  · decide
  split
  · decide
  split
  · decide
  split
  · rename_i h
    simp only [Bool.and_eq_true, decide_eq_true_eq] at h
    exact .cons ⟨h.1, by omega⟩ .nil
  · exact ascii_units _

theorem ascii_string (s : String) : AsciiText (Json.string s).toList := by
  unfold Json.string
  rw [String.toList_ofList]
  refine .cons (by decide) (.append (fun c hc => ?_) (by decide))
  obtain ⟨d, -, hd⟩ := List.mem_flatMap.mp hc
  exact ascii_escaped d c hd

/-! ## Values -/

theorem ascii_joined {items : List String} (h : ∀ s ∈ items, AsciiText s.toList) :
    AsciiText (joined "," items).toList := by
  have hcomma : AsciiText ",".toList := by decide
  intro c hc
  obtain hc | ⟨s, hs, hc⟩ := mem_joined hc
  · exact hcomma c hc
  · exact h s hs c hc

theorem ascii_enclosed {items : List String} (h : ∀ s ∈ items, AsciiText s.toList)
    {left right : String} (hl : AsciiText left.toList) (hr : AsciiText right.toList) :
    AsciiText (left ++ joined "," items ++ right).toList := by
  simp only [String.toList_append]
  exact .append (.append hl (ascii_joined h)) hr

open Script

theorem ascii_intText {n : Int} {s : String} (h : intText n = .ok s) : AsciiText s.toList := by
  unfold intText at h
  split at h
  · cases h
    exact ascii_int n
  · cases h

mutual

theorem ascii_write (v : Value) : (Json.write v).Yields (AsciiText ·.toList) := by
  cases v with
  | null =>
    simp only [Json.write]
    show AsciiText "null".toList
    decide
  | bool b =>
    simp only [Json.write]
    show AsciiText (if b then "true" else "false").toList
    cases b <;> decide
  | int n =>
    simp only [Json.write]
    generalize hx : intText n = x
    exact yields_ofExcept fun s hs => ascii_intText (hx.trans hs)
  | float x =>
    simp only [Json.write]
    exact ascii_float x
  | str s =>
    simp only [Json.write]
    exact ascii_string s
  | list xs =>
    simp only [Json.write]
    exact yields_bind (ascii_writeItems xs) fun items hi =>
      ascii_enclosed hi (by decide) (by decide)
  | tuple xs =>
    simp only [Json.write]
    exact yields_bind (ascii_writeItems xs) fun items hi =>
      ascii_enclosed hi (by decide) (by decide)
  | dict es =>
    simp only [Json.write]
    exact yields_bind (ascii_writeMembers es) fun ms hm =>
      ascii_enclosed hm (by decide) (by decide)
  | _ =>
    simp only [Json.write]
    exact yields_bind (yields_any _) fun s _ => ascii_string s

theorem ascii_writeItems (xs : List Value) :
    (Json.writeItems xs).Yields fun items => ∀ s ∈ items, AsciiText s.toList := by
  cases xs with
  | nil =>
    simp only [Json.writeItems]
    exact nofun
  | cons v rest =>
    simp only [Json.writeItems]
    refine yields_bind (ascii_write v) fun item hi => ?_
    exact yields_bind (ascii_writeItems rest) fun items hr => List.forall_mem_cons.mpr ⟨hi, hr⟩

theorem ascii_writeMembers (es : List (Value × Value)) :
    (Json.writeMembers es).Yields fun ms => ∀ s ∈ ms, AsciiText s.toList := by
  cases es with
  | nil =>
    simp only [Json.writeMembers]
    exact nofun
  | cons e rest =>
    simp only [Json.writeMembers]
    refine yields_bind (ascii_writeMember e) fun m hm => ?_
    exact yields_bind (ascii_writeMembers rest) fun ms hr => List.forall_mem_cons.mpr ⟨hm, hr⟩

theorem ascii_writeMember (e : Value × Value) :
    (Json.writeMember e).Yields (AsciiText ·.toList) := by
  cases e with
  | mk k v =>
    simp only [Json.writeMember]
    refine yields_bind (yields_any _) fun name _ => yields_bind (ascii_write v) fun text ht => ?_
    simp only [Yields, String.toList_append]
    exact .append (.append (ascii_string name) (by decide)) ht

end

theorem ascii_encode (m : Message) : m.encode.Yields (AsciiText ·.toList) :=
  yields_bind (yields_any _) fun members _ => ascii_write members.toValue

/-! ## Bytes -/

theorem toList_loop (b : ByteArray) (i : Nat) (r : List UInt8) :
    ByteArray.toList.loop b i r = r.reverse ++ b.data.toList.drop i := by
  fun_induction ByteArray.toList.loop b i r with
  | case1 i r h ih =>
    have hi : i < b.data.toList.length := h
    have hget : b.get! i = b.data.toList[i] := getElem!_pos b.data i h
    rw [ih, List.reverse_cons, List.append_assoc, hget, List.drop_eq_getElem_cons hi]
    rfl
  | case2 i r h =>
    have hi : b.data.toList.length ≤ i := Nat.le_of_not_lt h
    rw [List.drop_eq_nil_of_le hi, List.append_nil]

theorem toUTF8_toList (s : String) : s.toUTF8.toList = s.toList.flatMap String.utf8EncodeChar := by
  rw [ByteArray.toList, toList_loop, String.toUTF8_eq_toByteArray, ← String.utf8Encode_toList,
    List.utf8Encode, List.toList_data_toByteArray]
  simp only [List.reverse_nil, List.nil_append, List.drop_zero]

/-- Each character of such a text is one byte, which is its number. -/
theorem ascii_toUTF8 {s : String} (h : AsciiText s.toList) :
    s.toUTF8.toList = s.toList.map fun c => c.val.toUInt8 := by
  rw [toUTF8_toList, List.map_eq_flatMap, List.flatMap_def, List.flatMap_def]
  refine congrArg List.flatten (List.map_congr_left fun c hc => ?_)
  refine String.utf8EncodeChar_eq_singleton ?_
  refine Char.utf8Size_eq_one_iff.mpr ?_
  rw [UInt32.le_iff_toNat_le]
  exact Nat.le_trans (h c hc).2 (by decide)

theorem ascii_bytes {s : String} (h : AsciiText s.toList) {b : UInt8} (hb : b ∈ s.toUTF8.toList) :
    0x20 ≤ b.toNat ∧ b.toNat ≤ 0x7e := by
  rw [ascii_toUTF8 h] at hb
  obtain ⟨c, hc, rfl⟩ := List.mem_map.mp hb
  obtain ⟨hlow, hhigh⟩ := h c hc
  have hval : c.val.toUInt8.toNat = c.toNat := by
    have hlt : c.val.toNat < 256 := Nat.lt_of_le_of_lt hhigh (by decide)
    exact Nat.mod_eq_of_lt hlt
  omega

end Gelf
