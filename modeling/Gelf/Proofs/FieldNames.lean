import Gelf.Message
import Mathlib.Data.List.Nodup

/-!
# Gelf.Proofs.FieldNames

The members that the fields of a message become.

* `Message.payloadName`: the name of a field's member. `payloadName_eq_iff`: two fields share it
  only where they are called `id` and `_id`.
* `document_eq`: a message has its standard members, and after them those of its fields.
* `members_kept_iff`: every field has a member of its own just if those two names do not meet, and
  no member is ever called `_id`. `id_fields_meet`: where they meet, a field is lost.
-/

namespace Gelf

/-! ## Members by name -/

namespace Named

variable {α : Type} {ns ms more : Named α} {k : String} {v : α}

/-- The names of members, in order. -/
def names (ns : Named α) : List String := ns.map Prod.fst

theorem names_put (ns : Named α) (k : String) (v : α) :
    (ns.put k v).names = if k ∈ ns.names then ns.names else ns.names ++ [k] := by
  induction ns with
  | nil => rfl
  | cons n rest ih =>
    obtain ⟨l, u⟩ := n
    unfold names at ih ⊢
    by_cases hl : l = k
    · subst hl
      simp [put]
    · have hk : k ≠ l := fun h => hl h.symm
      by_cases hm : k ∈ rest.map Prod.fst
      · simp [put, hl, hk, hm, ih]
      · simp [put, hl, hk, hm, ih]

theorem put_fresh (h : k ∉ ns.names) : ns.put k v = ns ++ [(k, v)] := by
  induction ns with
  | nil => rfl
  | cons n rest ih =>
    rw [names, List.map_cons, List.mem_cons, not_or] at h
    have hn : (n.1 == k) = false := beq_false_of_ne (Ne.symm h.1)
    rw [put, hn, if_neg Bool.false_ne_true, ih h.2]
    rfl

theorem put_append (h : k ∉ ms.names) : (ms ++ ns : Named α).put k v = ms ++ ns.put k v := by
  induction ms with
  | nil => rfl
  | cons n rest ih =>
    rw [names, List.map_cons, List.mem_cons, not_or] at h
    have hn : (n.1 == k) = false := beq_false_of_ne (Ne.symm h.1)
    rw [List.cons_append, put, hn, if_neg Bool.false_ne_true, ih h.2]
    rfl

theorem update_append (h : ∀ n ∈ more, n.1 ∉ ms.names) :
    (ms ++ ns : Named α).update more = ms ++ ns.update more := by
  induction more generalizing ns with
  | nil => rfl
  | cons n rest ih =>
    obtain ⟨hn, hrest⟩ := List.forall_mem_cons.mp h
    show ((ms ++ ns : Named α).put n.1 n.2).update rest = ms ++ (ns.put n.1 n.2).update rest
    rw [put_append hn]
    exact ih hrest

theorem nodup_update (h : ns.names.Nodup) : (ns.update more).names.Nodup := by
  induction more generalizing ns with
  | nil => exact h
  | cons n rest ih =>
    show ((ns.put n.1 n.2).update rest).names.Nodup
    apply ih
    rw [names_put]
    split
    · exact h
    · rename_i hn
      exact List.nodup_append.mpr ⟨h, List.nodup_singleton _, by
        intro a ha b hb
        rw [List.mem_singleton.mp hb]
        rintro rfl
        exact hn ha⟩

theorem update_fresh (h : (ns.names ++ more.names).Nodup) : ns.update more = ns ++ more := by
  induction more generalizing ns with
  | nil => exact (List.append_nil _).symm
  | cons n rest ih =>
    have hn : n.1 ∉ ns.names := by
      intro hm
      exact (List.nodup_append.mp h).2.2 _ hm _ List.mem_cons_self rfl
    show (ns.put n.1 n.2).update rest = ns ++ n :: rest
    rw [put_fresh hn, ih, List.append_assoc]
    · rfl
    · unfold names at h ⊢
      simpa using h

theorem ofList_fresh (h : more.names.Nodup) : ofList more = more :=
  @update_fresh _ [] more (by simpa [names] using h)

theorem mem_ofList {n : String × α} (h : n ∈ ofList more) : n ∈ more := by
  rcases mem_update h with hm | hm
  · exact hm
  · cases hm

theorem get?_of_mem (hn : ns.names.Nodup) (h : (k, v) ∈ ns) : ns.get? k = some v := by
  induction ns with
  | nil => cases h
  | cons n rest ih =>
    obtain ⟨hfirst, hrest⟩ := List.nodup_cons.mp hn
    cases List.mem_cons.mp h with
    | inl h =>
      subst h
      simp [get?]
    | inr h =>
      have hk : (n.1 == k) = false := by
        refine beq_false_of_ne fun he => hfirst ?_
        rw [he]
        exact List.mem_map_of_mem h
      rw [get?, hk, if_neg Bool.false_ne_true]
      exact ih hrest h

end Named

/-! ## Names of fields -/

namespace Message

/-- The name of the member that a field becomes. -/
def payloadName (name : String) : String := if name = "id" then "__id" else "_" ++ name

theorem memberName_str (name : String) : memberName (.str name) = .done (payloadName name) := by
  unfold memberName payloadName
  split
  · rename_i h
    cases h
    rfl
  · rename_i h
    have hne : name ≠ "id" := by
      rintro rfl
      exact h rfl
    rw [if_neg hne]
    simp only [Value.text, Script.bind]

theorem underscore_cancel {a b : String} (h : "_" ++ a = "_" ++ b) : a = b := by
  have hl := congrArg String.toList h
  rw [String.toList_append, String.toList_append] at hl
  exact String.toList_injective (List.append_cancel_left hl)

/-- Two fields share a member only where one is called `id` and the other one `_id`. -/
theorem payloadName_eq_iff {a b : String} : payloadName a = payloadName b ↔
    a = b ∨ (a = "id" ∧ b = "_id") ∨ (a = "_id" ∧ b = "id") := by
  have hid : "__id" = "_" ++ "_id" := by decide
  unfold payloadName
  by_cases ha : a = "id"
  · by_cases hb : b = "id"
    · simp [ha, hb]
    · rw [if_pos ha, if_neg hb, hid]
      constructor
      · intro h
        exact .inr (.inl ⟨ha, (underscore_cancel h).symm⟩)
      · rintro (rfl | ⟨-, rfl⟩ | ⟨-, h⟩)
        · exact absurd ha hb
        · rfl
        · exact absurd h hb
  · by_cases hb : b = "id"
    · rw [if_neg ha, if_pos hb, hid]
      constructor
      · intro h
        exact .inr (.inr ⟨underscore_cancel h, hb⟩)
      · rintro (rfl | ⟨h, -⟩ | ⟨rfl, -⟩)
        · exact absurd hb ha
        · exact absurd h ha
        · rfl
    · rw [if_neg ha, if_neg hb]
      constructor
      · intro h
        exact .inl (underscore_cancel h)
      · rintro (rfl | ⟨h, -⟩ | ⟨-, h⟩)
        · rfl
        · exact absurd h ha
        · exact absurd h hb

theorem payloadName_ne_id (name : String) : payloadName name ≠ "_id" := by
  unfold payloadName
  split
  · decide
  · rename_i h
    intro he
    exact h (underscore_cancel (he.trans (by decide : "_id" = "_" ++ "id")))

theorem payloadName_toList (name : String) : (payloadName name).toList.head? = some '_' := by
  unfold payloadName
  split
  · rfl
  · rw [String.toList_append]
    rfl

/-! ## Documents -/

/-- The members that do not come from fields. -/
def standard (m : Message) (time : Value) : Named Value :=
  [("version", .str version), ("short_message", m.short), ("full_message", m.full),
    ("timestamp", time), ("level", m.level)] ++
    optionalMember "host" m.host ++ optionalMember "facility" m.facility

/-- The fields under the names of their members. -/
def renamed (fields : Named Value) : Named Value := fields.map fun f => (payloadName f.1, f.2)

theorem addMembers_named (members fields : Named Value) :
    addMembers members (fields.map fun f => (.str f.1, f.2)) =
      .done (members.update (renamed fields)) := by
  induction fields generalizing members with
  | nil => rfl
  | cons f rest ih =>
    rw [List.map_cons, addMembers, memberName_str]
    exact ih _

theorem names_optionalMember (name : String) (v : Value) :
    (optionalMember name v).names = [] ∨ (optionalMember name v).names = [name] := by
  unfold optionalMember
  split
  · exact .inl rfl
  · exact .inr rfl

/-- All standard names differ, and none begins like a field's. -/
theorem standard_names (m : Message) (time : Value) : (m.standard time).names.Nodup ∧
    ∀ name ∈ (m.standard time).names, name.toList.head? ≠ some '_' := by
  have hnames : (m.standard time).names = ["version", "short_message", "full_message", "timestamp",
      "level"] ++ (optionalMember "host" m.host).names ++
        (optionalMember "facility" m.facility).names := by
    simp [standard, Named.names]
  rw [hnames]
  rcases names_optionalMember "host" m.host with hh | hh <;>
    rcases names_optionalMember "facility" m.facility with hf | hf <;>
      rw [hh, hf] <;> decide

variable {m : Message} {fields : Named Value}

theorem document_eq (hf : m.fields = fields.toValue) :
    m.document = match seconds m.milliseconds with
    | .ok time => .done (m.standard time ++ Named.ofList (renamed fields))
    | .error f => .fail f := by
  unfold document
  rw [hf]
  cases seconds m.milliseconds with
  | error f => rfl
  | ok time =>
    show addMembers (m.standard time) (fields.map fun f => (.str f.1, f.2)) = _
    rw [addMembers_named]
    have hapart : ∀ n ∈ renamed fields, n.1 ∉ (m.standard time).names := by
      intro n hn hm
      obtain ⟨f, -, rfl⟩ := List.mem_map.mp hn
      exact (standard_names m time).2 _ hm (payloadName_toList f.1)
    have h : (m.standard time ++ [] : Named Value).update (renamed fields) =
        m.standard time ++ Named.ofList (renamed fields) := Named.update_append hapart
    rw [List.append_nil] at h
    rw [h]

/-- Both names that lead to the same member are there. -/
def Clash (fields : Named Value) : Prop := "id" ∈ fields.names ∧ "_id" ∈ fields.names

instance (fields : Named Value) : Decidable (Clash fields) := inferInstanceAs (Decidable (_ ∧ _))

theorem nodup_renamed (hn : fields.names.Nodup) (hc : ¬ Clash fields) :
    (renamed fields).names.Nodup := by
  have hmap : (renamed fields).names = fields.names.map payloadName := by
    simp [renamed, Named.names, Function.comp_def]
  rw [hmap]
  refine List.Nodup.map_on (fun a ha b hb h => ?_) hn
  rcases payloadName_eq_iff.mp h with h | ⟨rfl, rfl⟩ | ⟨rfl, rfl⟩
  · exact h
  · exact absurd ⟨ha, hb⟩ hc
  · exact absurd ⟨hb, ha⟩ hc

theorem length_of_taken {before after : Named Value} {f g : String × Value} (hg : g ∈ before)
    (hsame : payloadName g.1 = payloadName f.1)
    (hn : (before ++ f :: after : Named Value).names.Nodup) :
    (Named.ofList (renamed (before ++ f :: after))).length + 1 =
      (before ++ f :: after : Named Value).length := by
  have hnames : (before ++ f :: after : Named Value).names =
      before.names ++ f.1 :: Named.names after := by
    simp [Named.names]
  rw [hnames] at hn
  obtain ⟨hrest, hf⟩ : (before ++ after : Named Value).names.Nodup ∧
      f.1 ∉ (before ++ after : Named Value).names := by
    have hperm := (@List.perm_middle _ f.1 before.names (Named.names after)).nodup_iff.mp hn
    simpa [Named.names, and_comm] using hperm
  have hmem : g.1 ∈ (before ++ after : Named Value).names :=
    List.mem_map_of_mem (List.mem_append_left _ hg)
  -- without it no two of the others share a member
  have hclear : ¬ Clash (before ++ after) := by
    rintro ⟨hid, hid'⟩
    rcases payloadName_eq_iff.mp hsame with h | ⟨-, h⟩ | ⟨-, h⟩
    · exact hf (h ▸ hmem)
    · exact hf (h ▸ hid')
    · exact hf (h ▸ hid)
  have hfresh : ((renamed before).names ++ (renamed after).names).Nodup := by
    have h := nodup_renamed hrest hclear
    simpa [renamed, Named.names] using h
  have hbefore : Named.ofList (renamed before) = renamed before :=
    Named.ofList_fresh (List.nodup_append.mp hfresh).1
  have htaken : payloadName f.1 ∈ (renamed before).names := by
    rw [← hsame]
    exact List.mem_map_of_mem (List.mem_map_of_mem hg)
  have hput : ((renamed before).put (payloadName f.1) f.2).names = (renamed before).names := by
    rw [Named.names_put, if_pos htaken]
  have hall : Named.ofList (renamed (before ++ f :: after)) =
      (renamed before).put (payloadName f.1) f.2 ++ renamed after := by
    have hsplit : renamed (before ++ f :: after) =
        renamed before ++ (payloadName f.1, f.2) :: renamed after := by
      simp [renamed]
    have hparts : Named.ofList (renamed before ++ (payloadName f.1, f.2) :: renamed after) =
        ((Named.ofList (renamed before)).put (payloadName f.1) f.2).update (renamed after) := by
      simp [Named.ofList, Named.update]
    rw [hsplit, hparts, hbefore]
    exact Named.update_fresh (hput ▸ hfresh)
  have hlength : ∀ ns : Named Value, ns.length = ns.names.length := fun ns => by
    simp [Named.names]
  rw [hall, List.length_append, hlength ((renamed before).put _ _), hput]
  simp [renamed, Named.names]
  omega

theorem length_of_clash (hn : fields.names.Nodup) (hc : Clash fields) :
    (Named.ofList (renamed fields)).length + 1 = fields.length := by
  obtain ⟨hid, hid'⟩ := hc
  obtain ⟨g, hg, hgid⟩ := List.mem_map.mp hid
  obtain ⟨f, hf, hfid⟩ := List.mem_map.mp hid'
  have hsame : payloadName g.1 = payloadName f.1 :=
    payloadName_eq_iff.mpr (.inr (.inl ⟨hgid, hfid⟩))
  obtain ⟨before, after, rfl⟩ := List.append_of_mem hf
  rcases List.mem_append.mp hg with hb | ha
  · exact length_of_taken hb hsame hn
  · rcases List.mem_cons.mp ha with rfl | ha
    · exact absurd (hgid.symm.trans hfid) (by decide)
    · obtain ⟨between, rest, rfl⟩ := List.append_of_mem ha
      have hlater : f ∈ before ++ f :: between := List.mem_append_right _ List.mem_cons_self
      have h := @length_of_taken _ rest _ _ hlater hsame.symm
      simp only [List.append_assoc, List.cons_append] at h
      exact h hn

/-- After the standard members there is one for each field, under its name and with its value. -/
structure Kept (standard fields members : Named Value) : Prop where
  whole : members = standard ++ renamed fields
  found : ∀ f ∈ fields, members.get? (payloadName f.1) = some f.2

/-- No two members of a message have one name, and each that is not standard has a field's name. -/
theorem members_names (m : Message) (time : Value) (fields : Named Value) :
    (m.standard time ++ Named.ofList (renamed fields) : Named Value).names.Nodup ∧
      ∀ name ∈ (Named.ofList (renamed fields)).names, ∃ f ∈ fields, name = payloadName f.1 := by
  have hown : ∀ name ∈ (Named.ofList (renamed fields)).names, ∃ f ∈ fields,
      name = payloadName f.1 := by
    intro name hm
    obtain ⟨n, hn, rfl⟩ := List.mem_map.mp hm
    obtain ⟨f, hf, rfl⟩ := List.mem_map.mp (Named.mem_ofList hn)
    exact ⟨f, hf, rfl⟩
  refine ⟨?_, hown⟩
  obtain ⟨hstandard, hfirst⟩ := standard_names m time
  rw [Named.names, List.map_append, List.nodup_append]
  refine ⟨hstandard, Named.nodup_update List.nodup_nil, ?_⟩
  intro a ha b hb heq
  obtain ⟨f, -, rfl⟩ := hown b hb
  exact hfirst a ha (heq ▸ payloadName_toList f.1)

theorem kept_iff (hn : fields.names.Nodup) (m : Message) (time : Value) :
    Kept (m.standard time) fields (m.standard time ++ Named.ofList (renamed fields)) ↔
      ¬ Clash fields := by
  constructor
  · intro hk hc
    have hshort := length_of_clash hn hc
    have hall := congrArg List.length (List.append_cancel_left hk.whole)
    rw [renamed, List.length_map, ← renamed] at hall
    omega
  · intro hc
    have hown : Named.ofList (renamed fields) = renamed fields :=
      Named.ofList_fresh (nodup_renamed hn hc)
    have hnames := (members_names m time fields).1
    rw [hown] at hnames ⊢
    refine ⟨rfl, fun f hf => Named.get?_of_mem hnames ?_⟩
    exact List.mem_append_right _ (List.mem_map_of_mem hf)

/-- A message whose fields have names of their own has a document just if its time can be told in
seconds. No two members have one name, and none is called `_id`. Each field has a member of its own
just if the fields are not called `id` and `_id` both; else one of them is lost. -/
theorem members_kept_iff (hf : m.fields = fields.toValue) (hn : fields.names.Nodup) :
    (∀ f, seconds m.milliseconds = .error f → m.document = .fail f) ∧
    ∀ time, seconds m.milliseconds = .ok time → ∃ members, m.document = .done members ∧
      members.names.Nodup ∧ "_id" ∉ members.names ∧
      (Kept (m.standard time) fields members ↔ ¬ Clash fields) ∧
      (Clash fields → members.length + 1 = (m.standard time).length + fields.length) := by
  have hdoc := document_eq hf
  refine ⟨fun f hs => ?_, fun time hs => ?_⟩
  · rw [hs] at hdoc
    exact hdoc
  · rw [hs] at hdoc
    obtain ⟨hnodup, hown⟩ := members_names m time fields
    refine ⟨_, hdoc, hnodup, ?_, kept_iff hn m time, fun hc => ?_⟩
    · rw [Named.names, List.map_append, List.mem_append]
      rintro (hm | hm)
      · exact (standard_names m time).2 _ hm (by decide)
      · obtain ⟨f, -, he⟩ := hown _ hm
        exact payloadName_ne_id f.1 he.symm
    · rw [List.length_append, Nat.add_assoc, length_of_clash hn hc]

/-- Fields with odd names: none at all, one low line and two, and the name of a standard member. -/
def oddlyNamed : Named Value :=
  [("", .int 1), ("id", .int 2), ("__id", .int 3), ("_", .int 4), ("version", .int 5)]

def withFields (fields : Named Value) : Message :=
  ⟨.str "s", .str "f", .int 1500, .int 6, .str "h", .null, fields.toValue⟩

theorem seconds_withFields (fields : Named Value) :
    ∃ time, seconds (withFields fields).milliseconds = .ok time := by
  have hs : (seconds (.int 1500)).toOption.isSome = true := by decide +kernel
  show ∃ time, seconds (.int 1500) = .ok time
  cases h : seconds (.int 1500) with
  | ok time => exact ⟨time, rfl⟩
  | error f =>
    rw [h] at hs
    cases hs

theorem members_kept_iff_odd : (withFields oddlyNamed).fields = oddlyNamed.toValue ∧
    oddlyNamed.names.Nodup ∧
    ∃ members, (withFields oddlyNamed).document = .done members ∧ "_id" ∉ members.names ∧
      members.get? "__id" = some (.int 2) ∧ members.get? "___id" = some (.int 3) := by
  have hn : oddlyNamed.names.Nodup := by decide
  obtain ⟨-, hdone⟩ := members_kept_iff (m := withFields oddlyNamed) rfl hn
  obtain ⟨time, ht⟩ := seconds_withFields oddlyNamed
  obtain ⟨members, hdoc, -, hid, hkept, -⟩ := hdone time ht
  have hk := hkept.mpr (by decide)
  refine ⟨rfl, hn, members, hdoc, hid, ?_, ?_⟩
  · exact hk.found ("id", .int 2) (by simp [oddlyNamed])
  · exact hk.found ("__id", .int 3) (by simp [oddlyNamed])

/-- The fields `id` and `_id` have one member between them, with the value of the later one. -/
theorem id_fields_meet : ∃ time members,
    (withFields [("id", .str "a"), ("_id", .str "b")]).document = .done members ∧
      members = (withFields []).standard time ++ [("__id", .str "b")] ∧
      ¬ Kept ((withFields []).standard time) [("id", .str "a"), ("_id", .str "b")] members := by
  obtain ⟨time, ht⟩ := seconds_withFields [("id", .str "a"), ("_id", .str "b")]
  have hdoc := document_eq (m := withFields [("id", .str "a"), ("_id", .str "b")]) rfl
  rw [ht] at hdoc
  refine ⟨time, _, hdoc, rfl, fun hk => ?_⟩
  have hlast : some (Value.str "b") = some (Value.str "a") := hk.found ("id", .str "a") (by simp)
  exact absurd (Value.str.inj (Option.some.inj hlast)) (by decide)

end Message

end Gelf
