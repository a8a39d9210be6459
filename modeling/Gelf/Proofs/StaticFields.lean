import Gelf.Proofs.Precedence
import Mathlib.Data.List.Induction

/-!
# Gelf.Proofs.StaticFields

Static fields that are given as texts with a key, an equals sign and a value.

* `fieldText`, `cutField?`: a field as one text, and that text cut at its first equals sign.
* `Named.update_ofList`: what was collected from a row, written over members, is the row itself written
  over them.
* `fieldsOf`: the fields in a list of texts. `LastWith`, `get?_fieldsOf_iff`: the text that has the
  value of a key.
* `fields_parsed`: each key stands once, where it first came, with its last value. Two lists in a row
  are the second one written over the first, and fields that are put down as texts come back.
-/

namespace Gelf

open Script

/-! ## Texts of fields -/

/-- A field as one text. -/
def fieldText (key value : String) : String := key ++ "=" ++ value

/-- What stands before the first equals sign of a text, and what stands after it. -/
def cutField? (entry : String) : Option (String × String) :=
  (Text.splitFirst '=' entry.toList).map fun cut => (String.ofList cut.1, String.ofList cut.2)

theorem fieldText_toList (key value : String) :
    (fieldText key value).toList = key.toList ++ '=' :: value.toList := by
  simp [fieldText]

theorem cutField?_eq_some_iff {entry key value : String} :
    cutField? entry = some (key, value) ↔ entry = fieldText key value ∧ '=' ∉ key.toList := by
  rw [← String.toList_inj, fieldText_toList, ← Text.splitFirst_eq_some_iff, cutField?,
    Option.map_eq_some_iff]
  constructor
  · rintro ⟨⟨before, after⟩, hcut, he⟩
    cases he
    simpa using hcut
  · intro hcut
    exact ⟨_, hcut, by simp⟩

/-- The key of a field's text can be read off it, and then the value too. -/
theorem fieldText_inj {key value key' value' : String} (hk : '=' ∉ key.toList)
    (hk' : '=' ∉ key'.toList) (h : fieldText key value = fieldText key' value') :
    key = key' ∧ value = value' := by
  have hcut := cutField?_eq_some_iff.mpr ⟨h, hk'⟩
  rw [cutField?_eq_some_iff.mpr ⟨rfl, hk⟩] at hcut
  simpa using hcut

/-! ## Members that are written again -/

namespace Named

variable {α : Type} {ns ms more : Named α} {k : String} {v u : α}

theorem put_update_put (hk : k ∉ more.names) (ns : Named α) (v u : α) :
    ((ns.put k v).update more).put k u = (ns.put k u).update more := by
  induction more generalizing ns with
  | nil => exact put_put ns k v u
  | cons n rest ih =>
    rw [names, List.map_cons, List.mem_cons, not_or] at hk
    show (((ns.put k v).put n.1 n.2).update rest).put k u = ((ns.put k u).put n.1 n.2).update rest
    -- the first value may be written once more, after the one that follows it
    rw [← put_put_of_ne ns hk.1 v v n.2, ih hk.2, put_put_of_ne ns hk.1 v u n.2]

/-- By induction on the members that are there already: where the name is among them, its value is
written over in its place. -/
theorem update_put (hn : ms.names.Nodup) (ns : Named α) (k : String) (v : α) :
    ns.update (ms.put k v) = (ns.update ms).put k v := by
  induction ms generalizing ns with
  | nil => rfl
  | cons n rest ih =>
    obtain ⟨hfirst, hrest⟩ := List.nodup_cons.mp hn
    by_cases hk : n.1 = k
    · subst hk
      have hput : Named.put (n :: rest) n.1 v = (n.1, v) :: rest := by simp [put]
      rw [hput]
      exact (put_update_put hfirst ns n.2 v).symm
    · have hput : Named.put (n :: rest) k v = n :: Named.put rest k v := by simp [put, hk]
      rw [hput]
      exact ih hrest (ns.put n.1 n.2)

theorem nodup_ofList (more : Named α) : (ofList more).names.Nodup :=
  nodup_update List.nodup_nil

/-- By induction on the row from its end: what is collected from it says all that it says. -/
theorem update_ofList (ns more : Named α) : ns.update (ofList more) = ns.update more := by
  induction more using List.reverseRecOn with
  | nil => rfl
  | append_singleton rest n ih =>
    have hof : ofList (rest ++ [n]) = (ofList rest).put n.1 n.2 := List.foldl_append
    have hup : ns.update (rest ++ [n]) = (ns.update rest).put n.1 n.2 := List.foldl_append
    rw [hof, hup, update_put (nodup_ofList rest), ih]

end Named

/-! ## Fields in texts -/

/-- The fields that a list of texts gives. -/
def fieldsOf (entries : List String) : Named String := entries.foldl addFieldText []

theorem addFieldText_eq (fields : Named String) (entry : String) : addFieldText fields entry =
    (cutField? entry).elim fields fun n => fields.put n.1 n.2 := by
  unfold addFieldText cutField?
  cases Text.splitFirst '=' entry.toList <;> rfl

/-- Texts without an equals sign give nothing; the others are written in their turn. -/
theorem foldl_addFieldText_eq (fields : Named String) (entries : List String) :
    entries.foldl addFieldText fields = fields.update (entries.filterMap cutField?) := by
  induction entries generalizing fields with
  | nil => rfl
  | cons entry rest ih =>
    rw [List.foldl_cons, ih, addFieldText_eq]
    cases hcut : cutField? entry with
    | none => rw [List.filterMap_cons_none hcut]; rfl
    | some n => rw [List.filterMap_cons_some hcut]; rfl

theorem fieldsOf_eq (entries : List String) :
    fieldsOf entries = Named.ofList (entries.filterMap cutField?) := foldl_addFieldText_eq [] entries

theorem parseFieldList_texts (entries : List String) (fields : Named String) :
    parseFieldList fields (entries.map .str) = .done (entries.foldl addFieldText fields) := by
  induction entries generalizing fields with
  | nil => rfl
  | cons entry rest ih =>
    rw [List.map_cons, parseFieldList, Value.text]
    exact ih _

theorem parseFieldMap_texts (more fields : Named String) :
    parseFieldMap fields (more.map fun n => (.str n.1, .str n.2)) = .done (fields.update more) := by
  induction more generalizing fields with
  | nil => rfl
  | cons n rest ih =>
    rw [List.map_cons, parseFieldMap, Value.text, Value.text]
    exact ih _

/-- Of the texts with this key the last one has this value. -/
def LastWith (key value : String) (entries : List String) : Prop :=
  ∃ before after, entries = before ++ fieldText key value :: after ∧
    ∀ other, fieldText key other ∉ after

section

variable {key value other entry : String} {rest : List String}

/-- A text that does not have the key can be taken off the end. -/
theorem lastWith_concat_of_ne (hne : ∀ other, entry ≠ fieldText key other) :
    LastWith key value (rest ++ [entry]) ↔ LastWith key value rest := by
  constructor
  · rintro ⟨before, after, he, hafter⟩
    cases after using List.reverseRecOn with
    | nil =>
      have hlast : entry = fieldText key value := by simpa using congrArg List.getLast? he
      exact absurd hlast (hne value)
    | append_singleton after last =>
      rw [← List.cons_append, ← List.append_assoc] at he
      obtain ⟨rfl, -⟩ := List.append_inj' he rfl
      exact ⟨before, after, rfl, fun other hmem => hafter other (List.mem_append_left _ hmem)⟩
  · rintro ⟨before, after, rfl, hafter⟩
    refine ⟨before, after ++ [entry], by simp, fun other hmem => ?_⟩
    obtain hmem | hmem := List.mem_append.mp hmem
    · exact hafter other hmem
    · exact hne other (List.mem_singleton.mp hmem).symm

theorem lastWith_concat_self (hk : '=' ∉ key.toList) :
    LastWith key value (rest ++ [fieldText key other]) ↔ value = other := by
  constructor
  · rintro ⟨before, after, he, hafter⟩
    cases after using List.reverseRecOn with
    | nil =>
      have hlast : fieldText key other = fieldText key value := by
        simpa using congrArg List.getLast? he
      exact (fieldText_inj hk hk hlast).2.symm
    | append_singleton after last =>
      rw [← List.cons_append, ← List.append_assoc] at he
      obtain ⟨-, hlast⟩ := List.append_inj' he rfl
      cases hlast
      exact absurd (List.mem_append_right after List.mem_cons_self) (hafter other)
  · rintro rfl
    exact ⟨rest, [], rfl, fun _ => List.not_mem_nil⟩

end

/-- By induction on the texts from their end: the last one with the key has its value. -/
theorem get?_fieldsOf_iff {entries : List String} {key value : String} :
    (fieldsOf entries).get? key = some value ↔ '=' ∉ key.toList ∧ LastWith key value entries := by
  induction entries using List.reverseRecOn with
  | nil => simp [fieldsOf, Named.get?, LastWith]
  | append_singleton rest entry ih =>
    have hstep : fieldsOf (rest ++ [entry]) = addFieldText (fieldsOf rest) entry := List.foldl_append
    rw [hstep, addFieldText_eq]
    cases hcut : cutField? entry with
    | none =>
      rw [Option.elim_none, ih]
      refine and_congr_right fun hk => (lastWith_concat_of_ne fun other he => ?_).symm
      rw [cutField?_eq_some_iff.mpr ⟨he, hk⟩] at hcut
      cases hcut
    | some n =>
      obtain ⟨rfl, hn⟩ := cutField?_eq_some_iff.mp hcut
      rw [Option.elim_some]
      by_cases hk : key = n.1
      · subst hk
        rw [Named.get?_put_self, Option.some.injEq, lastWith_concat_self hn]
        exact ⟨fun h => ⟨hn, h.symm⟩, fun h => h.2.symm⟩
      · rw [Named.get?_put_of_ne _ _ hk, ih]
        refine and_congr_right fun hkey => (lastWith_concat_of_ne fun other he => hk ?_).symm
        exact (fieldText_inj hn hkey he).1.symm

/-- Fields put down as texts are cut where they were joined. -/
theorem cut_fieldTexts {fields : Named String} (hk : ∀ k ∈ fields.names, '=' ∉ k.toList) :
    (fields.map fun n => fieldText n.1 n.2).filterMap cutField? = fields := by
  induction fields with
  | nil => rfl
  | cons n rest ih =>
    rw [Named.names, List.map_cons, List.forall_mem_cons] at hk
    rw [List.map_cons, List.filterMap_cons_some (cutField?_eq_some_iff.mpr ⟨rfl, hk.1⟩), ih hk.2]

/-- Texts are cut at their first equals sign, and those without one give nothing. The keys stand in
the order in which they first came, each once, and the value of a key is that of the last text with
it. Two lists in a row give what the second one gives, written over what the first one gives. Fields
with different keys come back from a dictionary, and from their texts if no key has an equals sign. -/
theorem fields_parsed (entries : List String) :
    parseFields (.list (entries.map .str)) = .done (fieldsOf entries) ∧
    (fieldsOf entries).names = ((entries.filterMap cutField?).map Prod.fst).eraseDups ∧
    (fieldsOf entries).names.Nodup ∧
    (∀ key value, (fieldsOf entries).get? key = some value ↔
      '=' ∉ key.toList ∧ LastWith key value entries) ∧
    (∀ more, fieldsOf (entries ++ more) = (fieldsOf entries).update (fieldsOf more)) ∧
    ∀ fields : Named String, fields.names.Nodup →
      parseFields (fieldsValue fields) = .done fields ∧
      ((∀ k ∈ fields.names, '=' ∉ k.toList) →
        parseFields (.list (fields.map fun n => .str (fieldText n.1 n.2))) = .done fields) := by
  have hlist : ∀ texts : List String, parseFields (.list (texts.map .str)) =
      .done (fieldsOf texts) := fun texts => parseFieldList_texts texts []
  refine ⟨hlist entries, ?_, ?_, fun _ _ => get?_fieldsOf_iff, fun more => ?_, fun fields hn => ?_⟩
  · rw [fieldsOf_eq]
    show Named.names (Named.update [] _) = _
    rw [Named.names_update]
    simp [Named.names, List.removeAll]
  · rw [fieldsOf_eq]
    exact Named.nodup_ofList _
  · rw [fieldsOf_eq, fieldsOf_eq more, Named.update_ofList, fieldsOf_eq, List.filterMap_append]
    exact (Named.update_update [] _ _).symm
  · have hfresh : Named.ofList fields = fields := Named.ofList_fresh hn
    refine ⟨(parseFieldMap_texts fields []).trans (congrArg Script.done hfresh), fun hk => ?_⟩
    have htexts : (fields.map fun n => Value.str (fieldText n.1 n.2)) =
        (fields.map fun n => fieldText n.1 n.2).map .str := (List.map_map ..).symm
    rw [htexts, hlist, fieldsOf_eq, cut_fieldTexts hk, hfresh]

/-- A key that comes twice, a text without an equals sign, a value with one, and an empty key. -/
def mixedTexts : List String := ["zone=a", "note", "=", "zone=b=c"]

theorem fields_parsed_mixed :
    fieldsOf mixedTexts = [("zone", "b=c"), ("", "")] ∧
    LastWith "zone" "b=c" mixedTexts ∧
    parseFields (.list (mixedTexts.map .str)) = .done [("zone", "b=c"), ("", "")] ∧
    Named.names [("zone", "b=c"), ("", "")] = ["zone", ""] ∧
    parseFields (.list [.str "zone=b=c", .str "="]) = .done [("zone", "b=c"), ("", "")] := by
  have hfields : fieldsOf mixedTexts = [("zone", "b=c"), ("", "")] := by decide
  obtain ⟨hparse, -, hnodup, hget, -, hback⟩ := fields_parsed mixedTexts
  rw [hfields] at hparse hnodup hget
  refine ⟨hfields, ((hget "zone" "b=c").mp rfl).2, hparse, rfl, ?_⟩
  exact (hback _ hnodup).2 (by decide)

end Gelf
