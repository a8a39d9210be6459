import Gelf.Proofs.FieldNames
import Gelf.Proofs.Strict
import Gelf.Proofs.WellFormed

/-!
# Gelf.Proofs.Precedence

Which of its sources a field of a message has its value from, and in which order fields stand.

* `Named.names_update`, `Named.get?_update`: names stand as they first came, and the last value counts.
* `Diagnosed`: what a record or else the diagnostic context says under a name.
* `ownFields`, `fieldOf`, `textFields`: what is written into a message, source by source.
  `fields_written`: a message has just that.
* `field_precedence`: whatever names the sources share, a static field goes before the diagnostic
  value, that before the instance, and that before what the record says itself.
-/

namespace Gelf

open Script

/-! ## Names that are written again -/

namespace Named

variable {α : Type} {ns more : Named α} {k : String}

/-- By induction on what is written: each name stays where it first came. -/
theorem names_update (ns more : Named α) : (ns.update more).names =
    ns.names ++ (more.names.removeAll ns.names).eraseDups := by
  induction more generalizing ns with
  | nil => simp [update, names, List.removeAll]
  | cons n rest ih =>
    show ((ns.put n.1 n.2).update rest).names =
      ns.names ++ ((n.1 :: names rest).removeAll ns.names).eraseDups
    rw [ih, names_put]
    by_cases hn : n.1 ∈ ns.names
    · have hk : (n.1 :: names rest).removeAll ns.names = (names rest).removeAll ns.names := by
        simp [List.removeAll, hn]
      rw [if_pos hn, hk]
    · have hk : (n.1 :: names rest).removeAll ns.names =
          n.1 :: (names rest).removeAll ns.names := by
        simp [List.removeAll, hn]
      have hr : (names rest).removeAll (ns.names ++ [n.1]) =
          ((names rest).removeAll ns.names).filter fun l => !l == n.1 := by
        simp [List.removeAll, List.filter_filter, Bool.and_comm, beq_eq_decide]
      rw [if_neg hn, hk, List.eraseDups_cons, hr, List.append_assoc]
      rfl

theorem update_update (ns more later : Named α) :
    (ns.update more).update later = ns.update (more ++ later) := List.foldl_append.symm

theorem names_append (ns more : Named α) : names (ns ++ more) = ns.names ++ more.names :=
  List.map_append

theorem get?_cons (n : String × α) (ns : Named α) (k : String) :
    Named.get? (n :: ns) k = if k = n.1 then some n.2 else ns.get? k := by
  rw [get?]
  by_cases hk : k = n.1
  · rw [if_pos hk, if_pos (beq_iff_eq.mpr hk.symm)]
  · rw [if_neg hk, if_neg (mt beq_iff_eq.mp (Ne.symm hk))]

theorem get?_fresh (h : k ∉ ns.names) : ns.get? k = none := by
  cases hg : ns.get? k with
  | none => rfl
  | some v => exact absurd (List.mem_map_of_mem (mem_of_get? hg)) h

/-- By induction on what is written: it goes before what is there already. -/
theorem get?_update (hn : more.names.Nodup) (ns : Named α) (k : String) :
    (ns.update more).get? k = (more.get? k).or (ns.get? k) := by
  induction more generalizing ns with
  | nil => rfl
  | cons n rest ih =>
    obtain ⟨hfirst, hrest⟩ := List.nodup_cons.mp hn
    show ((ns.put n.1 n.2).update rest).get? k = _
    rw [ih hrest, get?_cons]
    by_cases hk : k = n.1
    · subst hk
      rw [get?_fresh hfirst, get?_put_self, if_pos rfl]
      rfl
    · rw [get?_put_of_ne _ _ hk, if_neg hk]

end Named

/-! ## Fields that are added -/

theorem put_named (ns : Named Value) (k : String) (v : Value) :
    Entries.put (ns.map fun n => (.str n.1, n.2)) (.str k) v =
      (ns.put k v).map fun n => (.str n.1, n.2) := by
  induction ns with
  | nil => rfl
  | cons n rest ih =>
    have hs : (Value.str n.1).sameKey (.str k) = (n.1 == k) := by simp only [Value.sameKey]
    rw [List.map_cons, Entries.put, Named.put, hs, ih]
    split <;> rfl

namespace Message

variable {m : Message} {ns : Named Value}

theorem with_fields (h : m.fields = ns.toValue) : { m with fields := ns.toValue } = m := by
  rw [← h]

theorem addField_text (h : m.fields = ns.toValue) (k s : String) :
    m.addField (.str k) (.str s) = .done { m with fields := (ns.put k (.str s)).toValue } := by
  unfold addField
  rw [h]
  simp only [Value.text, Script.bind, Named.toValue, putField, Value.checkKey, put_named,
    Script.ofExcept]

end Message

/-- By induction on the fields: each is put in its turn. -/
theorem addFields_texts {m : Message} {ns : Named Value} (h : m.fields = ns.toValue)
    (more : Named String) : addFields m (more.map fun n => (.str n.1, .str n.2)) =
      .done { m with fields := (ns.update (more.map fun n => (n.1, .str n.2))).toValue } := by
  induction more generalizing m ns with
  | nil => exact congrArg Script.done (Message.with_fields h).symm
  | cons n rest ih =>
    show (m.addField (.str n.1) (.str n.2)).bind _ = _
    rw [Message.addField_text h]
    exact ih rfl

/-! ## What is said under a name -/

/-- What every record has by its class: operations, and what the language keeps for itself. -/
def Record.classAttributes : List String :=
  ["__class__", "__delattr__", "__dict__", "__dir__", "__doc__", "__eq__", "__format__", "__ge__",
    "__getattribute__", "__getstate__", "__gt__", "__hash__", "__init__", "__init_subclass__",
    "__le__", "__lt__", "__module__", "__ne__", "__new__", "__reduce__", "__reduce_ex__",
    "__repr__", "__setattr__", "__sizeof__", "__str__", "__subclasshook__", "__weakref__",
    "getMessage"]

theorem inherited_none {key : String} (hk : key ∉ Record.classAttributes) (r : Record) :
    r.inherited key = .done none := by
  unfold Record.inherited
  split
  case h_7 => rfl
  all_goals exact absurd (by decide) hk

/-- The record's own attribute as a text, if it has one that is not empty, else what the context
says. -/
inductive Diagnosed (context : Context) (r : Record) (key : String) : Option String → Prop where
  | own {v : Value} {s : String} (h : r.attributes.get? key = some v) (hv : v ≠ .null)
      (hs : v.text.quiet = .ok s) : Diagnosed context r key (some s)
  | context (h : ∀ v, r.attributes.get? key = some v → v = .null) :
      Diagnosed context r key (context.get? key)

section

variable {σ : Type} {answer : (q : Request) → σ → Except Fault q.Answer × σ} {w w' : σ}
  {context : Context} {r : Record} {key : String}

theorem diagnosed_of_run (hk : key ∉ Record.classAttributes) {said : Option String}
    (h : (diagnosticValue context r (.str key)).run answer w = (.ok said, w')) :
    Diagnosed context r key said := by
  obtain ⟨own, w₁, hown, h⟩ := run_bind_ok h
  unfold Record.saying at hown
  split at hown
  · rename_i hn
    cases hown
    cases h
    refine .context fun v hv => ?_
    rw [hn] at hv
    cases hv
    rfl
  · rename_i v hnull hv
    obtain ⟨s, w₂, htext, hown⟩ := run_bind_ok hown
    cases hown
    cases h
    exact .own hv hnull ((verbal_text v).quiet htext)
  · rename_i hn
    rw [inherited_none hk] at hown
    cases hown
    cases h
    refine .context fun v hv => ?_
    rw [hn] at hv
    cases hv

end

/-! ## Fields in the order in which they are written -/

/-- What a record says of itself. -/
def ownFields (logger function : Value) : Named Value :=
  [(loggerField, logger.orElse (.str "")), (functionField, function.orElse (.str ""))]

/-- A field for a text, if there is one. -/
def fieldOf (name : String) (text : Option String) : Named Value :=
  (text.map fun s => (name, .str s)).toList

def textFields (texts : Named String) : Named Value := texts.map fun n => (n.1, .str n.2)

theorem names_fieldOf (name : String) (text : Option String) :
    (fieldOf name text).names = (text.map fun _ => name).toList := by
  cases text <;> rfl

theorem mem_nameOf {name k : String} {text : Option String} :
    k ∈ (text.map fun _ => name).toList ↔ k = name ∧ text.isSome := by
  cases text <;> simp

theorem nodup_fieldOf (name : String) (text : Option String) :
    (fieldOf name text).names.Nodup := by
  cases text with
  | none => exact List.nodup_nil
  | some s => exact List.nodup_singleton _

theorem get?_fieldOf (name : String) (text : Option String) (k : String) :
    (fieldOf name text).get? k = if k = name then text.map Value.str else none := by
  cases text with
  | none => exact (ite_self _).symm
  | some s => exact Named.get?_cons _ _ k

theorem names_textFields (texts : Named String) : (textFields texts).names = texts.names := by
  simp [textFields, Named.names]

theorem get?_textFields (texts : Named String) (k : String) :
    (textFields texts).get? k = (texts.get? k).map Value.str := by
  induction texts with
  | nil => rfl
  | cons n rest ih =>
    show Named.get? ((n.1, .str n.2) :: textFields rest) k = _
    rw [Named.get?_cons, Named.get?_cons, ih]
    split <;> rfl

theorem get?_ownFields (logger function : Value) (k : String) :
    (ownFields logger function).get? k =
      if k = functionField then some (function.orElse (.str ""))
      else if k = loggerField then some (logger.orElse (.str "")) else none := by
  rw [ownFields, Named.get?_cons, Named.get?_cons]
  by_cases hl : k = loggerField
  · subst hl
    rfl
  · rw [if_neg hl, if_neg hl]
    rfl

section

variable {σ : Type} {answer : (q : Request) → σ → Except Fault q.Answer × σ} {w w' : σ}
  {context : Context} {r : Record} {m m' : Message} {ns : Named Value}

theorem addText (h : m.fields = ns.toValue) (name : String) (text : Option String) :
    m.addField (.str name) ((text.map Value.str).getD .null) =
      .done { m with fields := (ns.update (fieldOf name text)).toValue } := by
  cases text with
  | none => exact congrArg Script.done (Message.with_fields h).symm
  | some s => exact Message.addField_text h name s

theorem addTag_run {tag : String} (hk : tag ∉ Record.classAttributes) (hm : m.fields = ns.toValue)
    (h : (addTag context r (.str tag) m).run answer w = (.ok m', w')) :
    ∃ said, (tag = "" → said = none) ∧ (tag ≠ "" → Diagnosed context r tag said) ∧
      m' = { m with fields := (ns.update (fieldOf tag said)).toValue } := by
  unfold addTag at h
  by_cases ht : tag = ""
  · subst ht
    cases h
    exact ⟨none, fun _ => rfl, fun hn => absurd rfl hn, (Message.with_fields hm).symm⟩
  · have htruthy : (Value.str tag).truthy = true := by
      simp [Value.truthy, ht]
    rw [if_pos htruthy] at h
    obtain ⟨said, w₁, hsaid, h⟩ := run_bind_ok h
    refine ⟨said, fun he => absurd he ht, fun _ => diagnosed_of_run hk hsaid, ?_⟩
    cases said with
    | none =>
      cases h
      exact (Message.with_fields hm).symm
    | some s =>
      dsimp only at h
      rw [Message.addField_text hm] at h
      cases h
      rfl

variable {levels : LevelNames} {config : Config} {rendered : Rendered} {tag : String}
  {inst : Option String} {statics : Named String} (ht : config.value .contextKey = .str tag)
  (hk : tag ∉ Record.classAttributes)
  (hi : config.value .instanceName = (inst.map Value.str).getD .null)
  (hs : config.value .staticFields = fieldsValue statics)

include ht hk hi hs

/-- The fields of a message are what its sources wrote, one after another. -/
theorem fields_written
    (h : (Message.ofRecord levels config context r rendered).run answer w = (.ok m, w')) :
    ∃ logger function said, r.get "name" = .ok logger ∧ r.get "funcName" = .ok function ∧
      (tag = "" → said = none) ∧ (tag ≠ "" → Diagnosed context r tag said) ∧
      m.fields = ((((ownFields logger function).update (fieldOf instanceField inst)).update
        (fieldOf tag said)).update (textFields statics)).toValue := by
  obtain ⟨⟨time, severity⟩, w₁, -, h⟩ := run_bind_ok h
  obtain ⟨own, w₂, hown, h⟩ := run_bind_ok h
  obtain ⟨host, w₃, -, h⟩ := run_bind_ok h
  obtain ⟨logger, function, hl, hf, rfl⟩ := Message.recordFields_ok (run_ofExcept_ok hown).1
  rw [hi] at h
  obtain ⟨m₁, w₄, hm₁, h⟩ := run_bind_ok h
  rw [addText (show _ = (ownFields logger function).toValue from rfl)] at hm₁
  cases hm₁
  obtain ⟨m₂, w₅, hm₂, h⟩ := run_bind_ok h
  rw [ht] at hm₂
  obtain ⟨said, hnone, hsaid, rfl⟩ := addTag_run hk rfl hm₂
  rw [hs] at h
  obtain ⟨_, w₆, hes, h⟩ := run_bind_ok h
  obtain ⟨hes, -⟩ := run_ofExcept_ok hes
  cases hes
  rw [addFields_texts rfl] at h
  cases h
  exact ⟨logger, function, said, hl, hf, hnone, hsaid, rfl⟩

/-- A message has a field for its logger and its function, one for its instance if that is
configured, one under the tag if anything is said there, and the static ones. Where these share a
name, a static field goes before what is said, that before the instance, and that before the function
and the logger; and the field stands where its name first came. -/
theorem field_precedence (hn : statics.names.Nodup)
    (h : (Message.ofRecord levels config context r rendered).run answer w = (.ok m, w')) :
    ∃ (fields : Named Value) (logger function : Value) (said : Option String),
      m.fields = fields.toValue ∧ r.get "name" = .ok logger ∧ r.get "funcName" = .ok function ∧
      (tag = "" → said = none) ∧ (tag ≠ "" → Diagnosed context r tag said) ∧
      (∀ k, k ∈ fields.names ↔ k = loggerField ∨ k = functionField ∨
        k = instanceField ∧ inst.isSome ∨ k = tag ∧ said.isSome ∨ k ∈ statics.names) ∧
      (∀ k, fields.get? k = ((statics.get? k).map Value.str).or
        ((if k = tag then said.map Value.str else none).or
          ((if k = instanceField then inst.map Value.str else none).or
            (if k = functionField then some (function.orElse (.str ""))
              else if k = loggerField then some (logger.orElse (.str "")) else none)))) ∧
      fields.names = ([loggerField, functionField] ++ (inst.map fun _ => instanceField).toList ++
        (said.map fun _ => tag).toList ++ statics.names).eraseDups ∧
      fields.names.Nodup := by
  obtain ⟨logger, function, said, hl, hf, hnone, hsaid, hm⟩ := fields_written ht hk hi hs h
  have hown : [loggerField, functionField].Nodup := by decide
  have hnames : ((((ownFields logger function).update (fieldOf instanceField inst)).update
      (fieldOf tag said)).update (textFields statics)).names =
      ([loggerField, functionField] ++ (inst.map fun _ => instanceField).toList ++
        (said.map fun _ => tag).toList ++ statics.names).eraseDups := by
    rw [List.append_assoc, List.append_assoc, List.eraseDups_append, Named.update_update,
      Named.update_update, Named.names_update, Named.names_append, Named.names_append,
      names_fieldOf, names_fieldOf, names_textFields]
    rfl
  refine ⟨_, logger, function, said, hm, hl, hf, hnone, hsaid, fun k => ?_, fun k => ?_, hnames, ?_⟩
  · rw [hnames, List.mem_eraseDups]
    simp only [List.mem_append, List.mem_cons, List.not_mem_nil, or_false, or_assoc, mem_nameOf]
  · rw [Named.get?_update (names_textFields statics ▸ hn), Named.get?_update (nodup_fieldOf _ _),
      Named.get?_update (nodup_fieldOf _ _), get?_textFields, get?_fieldOf, get?_fieldOf,
      get?_ownFields]
  · exact Named.nodup_update (Named.nodup_update (Named.nodup_update hown))

end

/-- The tag is `instance`, which is configured too, and the function is a static field. -/
def crowded : Config :=
  ((Config.standard.set .contextKey (.str "instance")).set .instanceName (.str "blue")).set
    .staticFields (fieldsValue [("zone", "z"), ("function_name", "main")])

/-- A record that says something under the tag. -/
def flagged : Record := (Record.plainly (.str "app") (.str "hello")).set "instance" (.bool true)

def crowdedMessage : Message :=
  ⟨.str "hello", .str "hello", .int 0, .int 6, .null, .null, .dict
    [(.str "logger_name", .str "app"), (.str "function_name", .str "main"),
      (.str "instance", .str "True"), (.str "zone", .str "z")]⟩

theorem field_precedence_crowded :
    (Message.ofRecord .standard crowded .empty flagged ⟨"hello", "hello", "hello"⟩).run
      (fun q (_ : Unit) => (quietAnswer q, ())) () = (.ok crowdedMessage, ()) ∧
    ∃ fields : Named Value, crowdedMessage.fields = fields.toValue ∧
      fields.get? "function_name" = some (.str "main") ∧
      fields.get? "instance" = some (.str "True") ∧
      fields.names = ["logger_name", "function_name", "instance", "zone"] := by
  have ht : crowded.value .contextKey = .str "instance" := rfl
  have hi : crowded.value .instanceName = ((some "blue").map Value.str).getD .null := rfl
  have hs : crowded.value .staticFields = fieldsValue [("zone", "z"), ("function_name", "main")] :=
    rfl
  have hrun : (Message.ofRecord .standard crowded .empty flagged
      ⟨"hello", "hello", "hello"⟩).run (fun q (_ : Unit) => (quietAnswer q, ())) () =
        (.ok crowdedMessage, ()) := rfl
  refine ⟨hrun, ?_⟩
  obtain ⟨fields, logger, function, said, hm, -, -, -, hsaid, -, hget, hnames, -⟩ :=
    field_precedence ht (by decide) hi hs (by decide) hrun
  have hsays : said = some "True" := by
    cases hsaid (by decide) with
    | own h _ hs =>
      have hv : some (Value.bool true) = some _ := h
      cases hv
      cases hs
      rfl
    | context h => cases h (.bool true) rfl
  subst hsays
  exact ⟨fields, hm, hget _, hget _, hnames⟩

end Gelf
