import Gelf.Message
import Gelf.Proofs.Finite
import Gelf.Proofs.Numeral
import Gelf.Proofs.Strict
import Mathlib.Data.List.Forall2

/-!
# Gelf.Proofs.RoundTrip

Whoever reads the JSON text of a message gets the message's members.

* `Value.datum?`: what a value of plain data is in JSON.
* `readText_string`: a text in quotes is read as the text, whatever characters it has.
* `Says`: a text that stands for some tokens. `says_write`: the text of a value stands for the tokens of
  its datum, by recursion over the value.
* `Message.Plain`: a message of plain data, with integers for its level and its time.
* `encode_round_trip`: when its text is made, and what is read from it.
-/

namespace Gelf

open Number Text Json

/-! ## Plain data -/

mutual

/-- Integers up to the greatest length that is written, and finite floats as their texts. The names of
members are texts. -/
def Value.datum? : Value → Option Datum
  | .null => some (.scalar .null)
  | .bool b => some (.scalar (.bool b))
  | .int n => if n.natAbs < intLimit then some (.scalar (.integer n)) else none
  | .float x =>
    match magnitude x with
    | .finite _ _ => some (.scalar (.decimal (Json.number x)))
    | _ => none
  | .str s => some (.scalar (.text s))
  | .list xs => (itemData? xs).map .array
  | .dict es => (memberData? es).map .object
  | _ => none

def itemData? : List Value → Option (List Datum)
  | [] => some []
  | v :: rest => v.datum?.bind fun d => (itemData? rest).map fun ds => d :: ds

def memberData? : List (Value × Value) → Option (List (String × Datum))
  | [] => some []
  | e :: rest => (memberDatum? e).bind fun d => (memberData? rest).map fun ds => d :: ds

def memberDatum? : Value × Value → Option (String × Datum)
  | (.str name, v) => v.datum?.map fun d => (name, d)
  | _ => none

end

/-! ## Texts in quotes -/

theorem hexValue?_hexDigit {n : Nat} (h : n < 16) : hexValue? (hexDigit n) = some n := by
  have hall : ∀ n < 16, hexValue? (hexDigit n) = some n := by decide
  exact hall n h

theorem readUnit_hex {n : Nat} (h : n < 0x10000) (rest : List Char) :
    readUnit (hex 4 n ++ rest) = some (n, rest) := by
  have hd : ∀ k, hexValue? (hexDigit (k % 16)) = some (k % 16) := fun k =>
    hexValue?_hexDigit (Nat.mod_lt k (by decide))
  simp only [hex, List.nil_append, List.cons_append, readUnit, hd,
    Option.bind_eq_bind, Option.bind_some, Option.some.injEq, Prod.mk.injEq, and_true]
  omega

/-- A character of the basic plane is no surrogate, so its code unit stands for it alone. -/
theorem readUnits_unit {c : Char} (hc : c.toNat < 0x10000) (rest : List Char) :
    readUnits (hex 4 c.toNat ++ rest) = some (c, rest) := by
  have hv : c.toNat < 0xd800 ∨ 0xdfff < c.toNat ∧ c.toNat < 0x110000 := c.valid
  have hb : (c.toNat < 0xd800 || 0xe000 ≤ c.toNat) = true := by
    simp only [Bool.or_eq_true, decide_eq_true_eq]
    omega
  unfold readUnits
  rw [readUnit_hex hc]
  simp only [Option.bind_eq_bind, Option.bind_some, hb, if_true, Char.ofNat_toNat]

theorem readUnits_two {high low : Nat} (hh : 0xd800 ≤ high ∧ high < 0xdc00)
    (hl : 0xdc00 ≤ low ∧ low < 0xe000) (rest : List Char) :
    readUnits (hex 4 high ++ (unit low ++ rest)) =
      some (Char.ofNat (0x10000 + (high - 0xd800) * 0x400 + (low - 0xdc00)), rest) := by
  have h₁ : (high < 0xd800 || 0xe000 ≤ high) = false := by
    simp only [Bool.or_eq_false_iff, decide_eq_false_iff_not]
    omega
  have h₂ : (0xdc00 ≤ low && low < 0xe000) = true := by
    simp only [Bool.and_eq_true, decide_eq_true_eq]
    omega
  unfold readUnits
  rw [readUnit_hex (by omega)]
  simp only [Option.bind_eq_bind, Option.bind_some, h₁, Bool.false_eq_true, if_false, hh.2, if_true,
    unit, List.cons_append]
  rw [readUnit_hex (by omega)]
  simp only [Option.bind_some, h₂, if_true]

/-- Two surrogates carry ten bits each. -/
theorem readUnits_pair {c : Char} (hc : 0x10000 ≤ c.toNat) (rest : List Char) :
    readUnits (hex 4 (0xd800 + (c.toNat - 0x10000) / 0x400) ++
      (unit (0xdc00 + (c.toNat - 0x10000) % 0x400) ++ rest)) = some (c, rest) := by
  have hv : c.toNat < 0xd800 ∨ 0xdfff < c.toNat ∧ c.toNat < 0x110000 := c.valid
  have hsum : 0x10000 + (0xd800 + (c.toNat - 0x10000) / 0x400 - 0xd800) * 0x400 +
      (0xdc00 + (c.toNat - 0x10000) % 0x400 - 0xdc00) = c.toNat := by omega
  rw [readUnits_two (by omega) (by omega), hsum, Char.ofNat_toNat]

theorem readText_units (c : Char) (rest : List Char) :
    readText (units c.toNat ++ rest) = (readText rest).map fun (s, left) => (c :: s, left) := by
  unfold units
  split
  · rename_i h
    exact readText_escape (readUnits_unit h rest)
  · rename_i h
    rw [List.append_assoc]
    exact readText_escape (readUnits_pair (Nat.le_of_not_lt h) rest)

theorem readText_escaped (c : Char) (rest : List Char) :
    readText (escaped c ++ rest) = (readText rest).map fun (s, left) => (c :: s, left) := by
  have hofNat : ∀ n, c.toNat = n → Char.ofNat n = c := fun n h => h ▸ Char.ofNat_toNat c
  unfold escaped
  split
  · rename_i h
    simp only [Bool.or_eq_true, beq_iff_eq] at h
    obtain rfl | rfl := h
    · exact readText_escape rfl
    · exact readText_escape rfl
  split
  · rename_i h
    rw [beq_iff_eq.mp h]
    exact readText_escape rfl
  split
  · rename_i h
    rw [beq_iff_eq.mp h]
    exact readText_escape rfl
  split
  · rename_i h
    rw [beq_iff_eq.mp h]
    exact readText_escape rfl
  split
  · rename_i h
    rw [← hofNat 8 (beq_iff_eq.mp h)]
    exact readText_escape rfl
  split
  · rename_i h
    rw [← hofNat 12 (beq_iff_eq.mp h)]
    exact readText_escape rfl
  split
  · rename_i hq _ _ _ _ _ h
    simp only [Bool.or_eq_true, beq_iff_eq, not_or] at hq
    simp only [Bool.and_eq_true, decide_eq_true_eq] at h
    exact readText_plain hq.1 hq.2 h.1 rest
  · exact readText_units c rest

/-- By induction on the text: each of its characters is read as it was, up to the quote at the end. -/
theorem readText_string (s rest : List Char) :
    readText (s.flatMap escaped ++ '"' :: rest) = some (s, rest) := by
  induction s with
  | nil => exact readText_quote rest
  | cons c s ih =>
    rw [List.flatMap_cons, List.append_assoc, readText_escaped, ih]
    rfl

/-! ## Texts of values -/

/-- The text stands for these tokens, wherever no number goes on after it. -/
def Says (text : String) (ts : List Token) : Prop :=
  ∀ rest, NumberEnds rest → Json.tokens (text.toList ++ rest) =
    (Json.tokens rest).map fun more => ts ++ more

theorem says_int (n : Int) : Says (toString n) [.scalar (.integer n)] :=
  fun _ hr => tokens_int n hr

theorem says_float {x : Float} {m : Nat} {e : Int} (hx : magnitude x = .finite m e) :
    Says (Json.number x) [.scalar (.decimal (Json.number x))] := fun _ hr => tokens_float hx hr

theorem says_string (s : String) : Says (Json.string s) [.scalar (.text s)] := by
  intro rest _
  have ht : (Json.string s).toList ++ rest = '"' :: (s.toList.flatMap escaped ++ '"' :: rest) := by
    simp [Json.string]
  rw [ht]
  refine tokens_cons rfl ?_
  simp [readToken, readText_string]

theorem says_comma (rest : List Char) :
    Json.tokens (',' :: rest) = (Json.tokens rest).map fun ts => .comma :: ts :=
  tokens_cons rfl rfl

theorem says_joined {s : String} {ts : List Token} {items : List String} {tss : List (List Token)}
    (hs : Says s ts) (h : List.Forall₂ Says items tss) :
    Says (joined "," (s :: items)) (ts ++ followed tss) := by
  induction h generalizing s ts with
  | nil => simpa [joined, followed] using hs
  | @cons t us items tss ht _ ih =>
    intro rest hr
    have hcomma : NumberEnds (',' :: ((joined "," (t :: items)).toList ++ rest)) := by
      rintro _ ⟨⟩
      decide
    have hsplit : (joined "," (s :: t :: items)).toList ++ rest =
        s.toList ++ ',' :: ((joined "," (t :: items)).toList ++ rest) := by
      simp [joined]
    rw [hsplit, hs _ hcomma, says_comma, ih ht rest hr]
    simp [followed, Function.comp_def]

theorem says_enclosed {items : List String} {tss : List (List Token)}
    (h : List.Forall₂ Says items tss) {left right : String} {l r : Char} {a b : Token}
    (hl : left.toList = [l]) (hr : right.toList = [r])
    (ha : ∀ rest, Json.tokens (l :: rest) = (Json.tokens rest).map fun ts => a :: ts)
    (hb : ∀ rest, Json.tokens (r :: rest) = (Json.tokens rest).map fun ts => b :: ts)
    (hends : ∀ rest, NumberEnds (r :: rest)) :
    Says (left ++ joined "," items ++ right) (a :: separated tss ++ [b]) := by
  intro rest _
  have ht : (left ++ joined "," items ++ right).toList ++ rest =
      l :: ((joined "," items).toList ++ r :: rest) := by
    simp [hl, hr]
  rw [ht, ha]
  cases h with
  | nil => simp [joined, separated, hb, Function.comp_def]
  | cons hs h =>
    rw [says_joined hs h _ (hends rest), hb]
    simp [separated, Function.comp_def]

mutual

theorem says_write (v : Value) {d : Datum} (hd : v.datum? = some d) :
    ∃ text, Json.write v = .done text ∧ Says text d.tokens := by
  cases v with
  | null =>
    simp only [Value.datum?, Option.some.injEq] at hd
    subst hd
    refine ⟨"null", by simp only [Json.write], fun rest _ => ?_⟩
    exact tokens_cons rfl rfl
  | bool b =>
    simp only [Value.datum?, Option.some.injEq] at hd
    subst hd
    refine ⟨if b then "true" else "false", by simp only [Json.write], fun rest _ => ?_⟩
    cases b
    · exact tokens_cons rfl rfl
    · exact tokens_cons rfl rfl
  | int n =>
    simp only [Value.datum?] at hd
    split at hd
    · rename_i hn
      cases hd
      refine ⟨toString n, ?_, says_int n⟩
      simp only [Json.write, intText, if_pos hn, Script.ofExcept]
    · cases hd
  | float x =>
    simp only [Value.datum?] at hd
    split at hd
    · rename_i hx
      cases hd
      exact ⟨_, by simp only [Json.write], says_float hx⟩
    · cases hd
  | str s =>
    simp only [Value.datum?, Option.some.injEq] at hd
    subst hd
    exact ⟨_, by simp only [Json.write], says_string s⟩
  | list xs =>
    simp only [Value.datum?] at hd
    obtain ⟨ds, hds, rfl⟩ := Option.map_eq_some_iff.mp hd
    obtain ⟨items, hi, hsays⟩ := says_items xs hds
    refine ⟨"[" ++ joined "," items ++ "]", by simp only [Json.write, hi, Script.bind], ?_⟩
    exact says_enclosed hsays rfl rfl (fun _ => tokens_cons rfl rfl) (fun _ => tokens_cons rfl rfl)
      (by rintro _ _ ⟨⟩; decide)
  | dict es =>
    simp only [Value.datum?] at hd
    obtain ⟨ds, hds, rfl⟩ := Option.map_eq_some_iff.mp hd
    obtain ⟨members, hm, hsays⟩ := says_members es hds
    refine ⟨"\x7b" ++ joined "," members ++ "\x7d", by simp only [Json.write, hm, Script.bind], ?_⟩
    exact says_enclosed hsays rfl rfl (fun _ => tokens_cons rfl rfl) (fun _ => tokens_cons rfl rfl)
      (by rintro _ _ ⟨⟩; decide)
  | _ =>
    simp only [Value.datum?] at hd
    cases hd

theorem says_items (xs : List Value) {ds : List Datum} (hd : itemData? xs = some ds) :
    ∃ items, Json.writeItems xs = .done items ∧ List.Forall₂ Says items (itemTokens ds) := by
  cases xs with
  | nil =>
    simp only [itemData?, Option.some.injEq] at hd
    subst hd
    exact ⟨[], by simp only [Json.writeItems], .nil⟩
  | cons v rest =>
    simp only [itemData?] at hd
    obtain ⟨d, hv, hd⟩ := Option.bind_eq_some_iff.mp hd
    obtain ⟨more, hr, rfl⟩ := Option.map_eq_some_iff.mp hd
    obtain ⟨item, hi, hs⟩ := says_write v hv
    obtain ⟨items, his, hss⟩ := says_items rest hr
    refine ⟨item :: items, by simp only [Json.writeItems, hi, his, Script.bind], ?_⟩
    simp only [itemTokens]
    exact .cons hs hss

theorem says_members (es : List (Value × Value)) {ds : List (String × Datum)}
    (hd : memberData? es = some ds) :
    ∃ members, Json.writeMembers es = .done members ∧
      List.Forall₂ Says members (membersTokens ds) := by
  cases es with
  | nil =>
    simp only [memberData?, Option.some.injEq] at hd
    subst hd
    exact ⟨[], by simp only [Json.writeMembers], .nil⟩
  | cons e rest =>
    simp only [memberData?] at hd
    obtain ⟨d, he, hd⟩ := Option.bind_eq_some_iff.mp hd
    obtain ⟨more, hr, rfl⟩ := Option.map_eq_some_iff.mp hd
    obtain ⟨member, hm, hs⟩ := says_member e he
    obtain ⟨members, hms, hss⟩ := says_members rest hr
    refine ⟨member :: members, by simp only [Json.writeMembers, hm, hms, Script.bind], ?_⟩
    simp only [membersTokens]
    exact .cons hs hss

theorem says_member (e : Value × Value) {m : String × Datum} (hd : memberDatum? e = some m) :
    ∃ text, Json.writeMember e = .done text ∧ Says text (memberTokens m) := by
  obtain ⟨k, v⟩ := e
  cases k with
  | str name =>
    simp only [memberDatum?] at hd
    obtain ⟨d, hv, rfl⟩ := Option.map_eq_some_iff.mp hd
    obtain ⟨text, ht, hs⟩ := says_write v hv
    refine ⟨Json.string name ++ ":" ++ text,
      by simp only [Json.writeMember, Json.memberName, Script.ofExcept, ht, Script.bind], ?_⟩
    intro rest hr
    have hsplit : (Json.string name ++ ":" ++ text).toList ++ rest =
        (Json.string name).toList ++ ':' :: (text.toList ++ rest) := by simp
    have hcolon : NumberEnds (':' :: (text.toList ++ rest)) := by
      rintro _ ⟨⟩
      decide
    rw [hsplit, says_string name _ hcolon, tokens_cons rfl rfl, hs rest hr]
    simp [memberTokens, Function.comp_def]
  | _ =>
    simp only [memberDatum?] at hd
    cases hd

end

/-- A plain value is read as its datum from its text. -/
theorem read_write {v : Value} {d : Datum} (hd : v.datum? = some d) :
    ∃ text, Json.write v = .done text ∧ Json.read text = some d := by
  obtain ⟨text, ht, hs⟩ := says_write v hd
  refine ⟨text, ht, ?_⟩
  have htokens := hs [] nofun
  rw [List.append_nil] at htokens
  unfold Json.read
  rw [htokens]
  have hv := value_tokens d [] []
  simpa [Json.tokens, settle] using hv

/-! ## Messages -/

/-- A message of plain data, with these integers for its level and its time. -/
structure Message.Plain (m : Message) (level time : Int) : Prop where
  short : m.short.datum?.isSome
  full : m.full.datum?.isSome
  host : m.host.datum?.isSome
  facility : m.facility.datum?.isSome
  fields : ∃ es, m.fields = .dict es ∧ (memberData? es).isSome
  level : m.level.asInt? = some level
  time : m.milliseconds.asInt? = some time

theorem Named.forall_put {α : Type} {P : α → Prop} {ns : Named α} {k : String} {v : α}
    (h : ∀ n ∈ ns, P n.2) (hv : P v) : ∀ n ∈ ns.put k v, P n.2 := by
  intro n hn
  cases mem_put hn with
  | inl hn =>
    rw [hn]
    exact hv
  | inr hn => exact h n hn

/-- The members of a message's fields. No field can take the place of the level. -/
theorem addMembers_plain (P : Value → Prop) (hP : ∀ v : Value, v.datum?.isSome → P v)
    {es : List (Value × Value)} (hes : (memberData? es).isSome) {members : Named Value}
    (hm : ∀ n ∈ members, P n.2) : ∃ all, Message.addMembers members es = .done all ∧
      (∀ n ∈ all, P n.2) ∧ all.get? "level" = members.get? "level" := by
  induction es generalizing members with
  | nil => exact ⟨members, rfl, hm, rfl⟩
  | cons e rest ih =>
    obtain ⟨ds, hds⟩ := Option.isSome_iff_exists.mp hes
    simp only [memberData?] at hds
    obtain ⟨d, he, hds⟩ := Option.bind_eq_some_iff.mp hds
    obtain ⟨more, hr, -⟩ := Option.map_eq_some_iff.mp hds
    obtain ⟨k, v⟩ := e
    cases k with
    | str key =>
      simp only [memberDatum?] at he
      obtain ⟨x, hv, -⟩ := Option.map_eq_some_iff.mp he
      have hname : ∃ name, Message.memberName (.str key) = .done name ∧ name ≠ "level" := by
        unfold Message.memberName
        split
        · exact ⟨"__id", rfl, by decide⟩
        · refine ⟨"_" ++ key, rfl, fun h => ?_⟩
          have hl := congrArg String.toList h
          simp at hl
      obtain ⟨name, hn, hne⟩ := hname
      obtain ⟨all, ha, hall, hlevel⟩ := ih (Option.isSome_iff_exists.mpr ⟨more, hr⟩)
        (Named.forall_put hm (hP v (Option.isSome_iff_exists.mpr ⟨x, hv⟩)) (k := name))
      refine ⟨all, ?_, hall, hlevel.trans (Named.get?_put_of_ne _ _ (Ne.symm hne))⟩
      rw [Message.addMembers, hn]
      exact ha
    | _ =>
      simp only [memberDatum?] at he
      cases he

/-! ## Writing that can fail -/

open Script

theorem writeMembers_ok_iff (es : List (Value × Value)) :
    (∃ ms, (Json.writeMembers es).quiet = .ok ms) ↔
      ∀ e ∈ es, ∃ t, (Json.writeMember e).quiet = .ok t := by
  induction es with
  | nil =>
    simp only [Json.writeMembers]
    exact iff_of_true ⟨[], rfl⟩ nofun
  | cons e rest ih =>
    simp only [Json.writeMembers]
    rw [quiet_bind_ok_iff, List.forall_mem_cons]
    constructor
    · rintro ⟨t, ht, hr⟩
      exact ⟨⟨t, ht⟩, ih.mp (quiet_bind_done_iff.mp hr)⟩
    · rintro ⟨⟨t, ht⟩, hr⟩
      exact ⟨t, ht, quiet_bind_done_iff.mpr (ih.mpr hr)⟩

theorem writeMember_ok_iff (name : String) (v : Value) :
    (∃ t, (Json.writeMember (.str name, v)).quiet = .ok t) ↔
      ∃ t, (Json.write v).quiet = .ok t := by
  simp only [Json.writeMember, Json.memberName, Script.ofExcept]
  exact quiet_bind_done_iff

theorem write_toValue_ok_iff (members : Named Value) :
    (∃ t, (Json.write members.toValue).quiet = .ok t) ↔
      ∀ n ∈ members, ∃ t, (Json.write n.2).quiet = .ok t := by
  unfold Named.toValue
  simp only [Json.write]
  rw [quiet_bind_done_iff, writeMembers_ok_iff]
  simp only [List.forall_mem_map, writeMember_ok_iff]

theorem settled_writeMembers {es : List (Value × Value)}
    (h : ∀ e ∈ es, (Json.writeMember e).Settled fun _ => True) :
    (Json.writeMembers es).Settled fun _ => True := by
  induction es with
  | nil => simp only [Json.writeMembers, Settled]
  | cons e rest ih =>
    obtain ⟨he, hr⟩ := List.forall_mem_cons.mp h
    simp only [Json.writeMembers]
    exact settled_bind he fun _ => settled_bind (ih hr) fun _ => trivial

theorem settled_toValue {members : Named Value}
    (h : ∀ n ∈ members, (Json.write n.2).Settled fun _ => True) :
    (Json.write members.toValue).Settled fun _ => True := by
  unfold Named.toValue
  simp only [Json.write]
  refine settled_bind (settled_writeMembers fun e he => ?_) fun _ => trivial
  obtain ⟨n, hn, rfl⟩ := List.mem_map.mp he
  simp only [Json.writeMember, Json.memberName]
  exact settled_bind trivial fun _ => settled_bind (h n hn) fun _ => trivial

theorem ten_le_intLimit : 10 ≤ intLimit := by
  have h : ∀ k, k ≠ 0 → 10 ≤ tenTo k := fun k hk => Nat.le_self_pow hk 10
  unfold intLimit
  exact h maxDigits (by decide)

theorem datum?_of_asInt {v : Value} {n : Int} (hv : v.asInt? = some n) (hn : n.natAbs < intLimit) :
    v.datum?.isSome := by
  cases v with
  | bool b => simp only [Value.datum?, Option.isSome_some]
  | int k =>
    cases hv
    simp only [Value.datum?, if_pos hn, Option.isSome_some]
  | _ => cases hv

theorem write_ok_of_asInt {v : Value} {n : Int} (hv : v.asInt? = some n) :
    (∃ t, (Json.write v).quiet = .ok t) ↔ n.natAbs < intLimit := by
  cases v with
  | bool b =>
    refine iff_of_true ⟨_, by simp only [Json.write]; rfl⟩ ?_
    refine Nat.lt_of_lt_of_le ?_ ten_le_intLimit
    cases b <;> cases hv
    · decide
    · decide
  | int k =>
    cases hv
    simp only [Json.write, quiet_ofExcept]
    exact intText_ok_iff n
  | _ => cases hv

theorem settled_write_of_asInt {v : Value} {n : Int} (hv : v.asInt? = some n) :
    (Json.write v).Settled fun _ => True := by
  cases v with
  | bool b => simp only [Json.write, Settled]
  | int k =>
    simp only [Json.write]
    generalize intText k = x
    exact settled_ofExcept fun _ _ => trivial
  | _ => cases hv

/-! ## Whole messages -/

theorem seconds_of_asInt {v : Value} {n : Int} (hv : v.asInt? = some n) :
    Message.seconds v = (Value.intToFloat n).map fun x => .float (x / 1000.0) := by
  cases v with
  | bool b =>
    cases hv
    rfl
  | int k =>
    cases hv
    rfl
  | _ => cases hv

theorem datum?_seconds {n : Int} {x : Float} (h : Value.intToFloat n = .ok x) :
    (Value.float (x / 1000.0)).datum?.isSome := by
  unfold Value.intToFloat at h
  split at h
  · rename_i hx
    cases h
    obtain ⟨m, e, hm⟩ := finite_div (finite_ofInt hx)
    simp only [Value.datum?, hm, Option.isSome_some]
  · cases h

/-- All members of a message are of plain data, but for the level, which may be too long. -/
theorem document_plain {m : Message} {level time : Int} (hm : m.Plain level time) {x : Float}
    (hx : Value.intToFloat time = .ok x) : ∃ members, m.document = .done members ∧
      ("level", m.level) ∈ members ∧ ∀ n ∈ members, n.2.datum?.isSome ∨ n.2 = m.level := by
  obtain ⟨es, hf, hes⟩ := hm.fields
  have hoptional : ∀ (name : String) (v : Value), v.datum?.isSome →
      ∀ n ∈ Message.optionalMember name v, n.2.datum?.isSome ∨ n.2 = m.level := by
    intro name v hv n hn
    unfold Message.optionalMember at hn
    split at hn
    · cases hn
    · rw [List.mem_singleton.mp hn]
      exact .inl hv
  have hstr : ∀ s : String, (Value.str s).datum?.isSome := fun s => by
    simp only [Value.datum?, Option.isSome_some]
  have hbase : ∀ n ∈ ([("version", .str Message.version), ("short_message", m.short),
      ("full_message", m.full), ("timestamp", .float (x / 1000.0)), ("level", m.level)] ++
        Message.optionalMember "host" m.host ++
        Message.optionalMember "facility" m.facility : Named Value),
      n.2.datum?.isSome ∨ n.2 = m.level := by
    refine List.forall_mem_append.mpr ⟨List.forall_mem_append.mpr ⟨?_, hoptional _ _ hm.host⟩,
      hoptional _ _ hm.facility⟩
    rw [List.forall_mem_cons, List.forall_mem_cons, List.forall_mem_cons, List.forall_mem_cons,
      List.forall_mem_cons]
    exact ⟨.inl (hstr _), .inl hm.short, .inl hm.full, .inl (datum?_seconds hx), .inr rfl, nofun⟩
  obtain ⟨members, ha, hall, hlevel⟩ := addMembers_plain
    (fun v => v.datum?.isSome ∨ v = m.level) (fun _ h => .inl h) hes hbase
  refine ⟨members, ?_, Named.mem_of_get? (hlevel.trans rfl), hall⟩
  unfold Message.document
  rw [seconds_of_asInt hm.time, hx, hf]
  exact ha

theorem data_of_plain {members : Named Value} (h : ∀ n ∈ members, n.2.datum?.isSome) :
    ∃ data, memberData? (members.map fun n => (.str n.1, n.2)) = some data ∧
      List.Forall₂ (fun n d => d.1 = n.1 ∧ n.2.datum? = some d.2) members data := by
  induction members with
  | nil => exact ⟨[], by simp only [List.map_nil, memberData?], .nil⟩
  | cons n rest ih =>
    obtain ⟨hn, hr⟩ := List.forall_mem_cons.mp h
    obtain ⟨d, hd⟩ := Option.isSome_iff_exists.mp hn
    obtain ⟨data, hdata, hall⟩ := ih hr
    refine ⟨(n.1, d) :: data, ?_, .cons ⟨rfl, hd⟩ hall⟩
    simp only [List.map_cons, memberData?, memberDatum?, hd, hdata, Option.map_some,
      Option.bind_some]

section Levelled

variable {members : Named Value} {name : String} {v : Value} {level : Int}

/-- The text of members whose values are plain data, but for an integer that may be too long. -/
theorem write_levelled (hv : v.asInt? = some level) (hmem : (name, v) ∈ members)
    (hall : ∀ n ∈ members, n.2.datum?.isSome ∨ n.2 = v) :
    Json.write members.toValue = .ofExcept (Json.write members.toValue).quiet ∧
      ((∃ text, (Json.write members.toValue).quiet = .ok text) ↔ level.natAbs < intLimit) := by
  have hplain : ∀ u : Value, u.datum?.isSome → ∃ t, Json.write u = .done t := by
    intro u hu
    obtain ⟨d, hu⟩ := Option.isSome_iff_exists.mp hu
    obtain ⟨t, ht, -⟩ := says_write u hu
    exact ⟨t, ht⟩
  constructor
  · refine (settled_toValue fun n hn => ?_).eq
    obtain hp | hp := hall n hn
    · obtain ⟨t, ht⟩ := hplain _ hp
      rw [ht]
      trivial
    · rw [hp]
      exact settled_write_of_asInt hv
  · rw [write_toValue_ok_iff, ← write_ok_of_asInt hv]
    constructor
    · exact fun h => h _ hmem
    · intro h n hn
      obtain hp | hp := hall n hn
      · obtain ⟨t, ht⟩ := hplain _ hp
        exact ⟨t, by rw [ht]; rfl⟩
      · rw [hp]
        exact h

theorem read_levelled (hv : v.asInt? = some level) (hlt : level.natAbs < intLimit)
    (hall : ∀ n ∈ members, n.2.datum?.isSome ∨ n.2 = v) {text : String}
    (ht : (Json.write members.toValue).quiet = .ok text) :
    ∃ data, Json.read text = some (.object data) ∧
      List.Forall₂ (fun n d => d.1 = n.1 ∧ n.2.datum? = some d.2) members data := by
  obtain ⟨data, hdata, hmatch⟩ := data_of_plain fun n hn =>
    (hall n hn).elim id fun h => h ▸ datum?_of_asInt hv hlt
  have hvalue : members.toValue.datum? = some (.object data) := by
    unfold Named.toValue
    simp only [Value.datum?, hdata, Option.map_some]
  obtain ⟨written, hw, hr⟩ := read_write hvalue
  rw [hw] at ht
  cases ht
  exact ⟨data, hr, hmatch⟩

end Levelled

/-- A message of plain data asks for nothing on its way to JSON. Its text is made just if the level is
not too long and the time can be made a float, and then what is read from it is an object with the
members of the message: the same names in the same order, each with the datum of its value. -/
theorem encode_round_trip {m : Message} {level time : Int} (hm : m.Plain level time) :
    m.encode = .ofExcept m.encode.quiet ∧
      ((∃ text, m.encode.quiet = .ok text) ↔
        level.natAbs < intLimit ∧ ∃ x, Value.intToFloat time = .ok x) ∧
      ∀ text, m.encode.quiet = .ok text → ∃ members data, m.document = .done members ∧
        Json.read text = some (.object data) ∧
        List.Forall₂ (fun n d => d.1 = n.1 ∧ n.2.datum? = some d.2) members data := by
  cases hx : Value.intToFloat time with
  | error f =>
    have he : m.encode = .fail f := by
      unfold Message.encode Message.document
      rw [seconds_of_asInt hm.time, hx]
      rfl
    rw [he]
    refine ⟨rfl, iff_of_false nofun ?_, nofun⟩
    rintro ⟨-, _, ⟨⟩⟩
  | ok x =>
    obtain ⟨members, hd, hlevel, hall⟩ := document_plain hm hx
    have he : m.encode = Json.write members.toValue := by
      rw [Message.encode, hd]
      rfl
    rw [he]
    obtain ⟨hquiet, hok⟩ := write_levelled hm.level hlevel hall
    refine ⟨hquiet, hok.trans ⟨fun h => ⟨h, x, rfl⟩, fun h => h.1⟩, fun text ht => ?_⟩
    obtain ⟨data, hr, hmatch⟩ := read_levelled hm.level (hok.mp ⟨text, ht⟩) hall ht
    exact ⟨members, data, hd, hr, hmatch⟩

/-- A message with a quote, a line break, a character of two code units, and values inside values. -/
def Message.nested : Message :=
  ⟨.str "say \"𝄞\"\n", .null, .int 1500, .int 6, .str "h", .null,
    .dict [(.str "id", .list [.int (-3), .bool true, .dict [(.str "ключ", .null)]])]⟩

theorem encode_round_trip_nested : Message.nested.Plain 6 1500 ∧
    ∃ text members data, Message.nested.encode.quiet = .ok text ∧
      Message.nested.document = .done members ∧ Json.read text = some (.object data) ∧
        List.Forall₂ (fun n d => d.1 = n.1 ∧ n.2.datum? = some d.2) members data := by
  have hm : Message.nested.Plain 6 1500 := by
    refine ⟨?_, ?_, ?_, ?_, ⟨_, rfl, ?_⟩, rfl, rfl⟩
    all_goals decide +kernel
  have hx : ∃ x, Value.intToFloat 1500 = .ok x := by
    have hs : (Value.intToFloat 1500).toOption.isSome = true := by decide +kernel
    cases h : Value.intToFloat 1500 with
    | ok x => exact ⟨x, rfl⟩
    | error f =>
      rw [h] at hs
      cases hs
  obtain ⟨-, hok, hread⟩ := encode_round_trip hm
  obtain ⟨text, ht⟩ := hok.mpr ⟨Nat.lt_of_lt_of_le (by decide) ten_le_intLimit, hx⟩
  obtain ⟨members, data, h⟩ := hread text ht
  exact ⟨hm, text, members, data, ht, h⟩

end Gelf
