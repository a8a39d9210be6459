import Gelf.Proofs.Accounting
import Gelf.Proofs.Conversion
import Gelf.Proofs.Raising

/-!
# Gelf.Proofs.WellFormed

What every message that a sender is given looks like.

* `Message.WellFormed`: a severity on the syslog scale, a short text that is cut as it should be and
  begins the full one, and the fields that every message has.
* `Message.Carries`: what is settled about a message as soon as its record is rendered, and what
  fields added later leave alone.
* `composed_wellFormed`: a message made of a record is well-formed, whatever the registry of level
  names, the settings, the layout and the diagnostic context are.
* `sent_wellFormed`: so are all messages that a handler gives to its sender.
-/

namespace Gelf

open Act

/-! ## Texts -/

theorem shorten_of_le {text : String} (h : text.length ≤ maxShortLength) : shorten text = text :=
  if_neg (Nat.not_lt.mpr h)

theorem shorten_of_lt {text : String} (h : maxShortLength < text.length) :
    shorten text = String.ofList (text.toList.take (maxShortLength - 1)) := if_pos h

theorem shorten_begins (text : String) : (shorten text).toList <+: text.toList := by
  unfold shorten
  split
  · rw [String.toList_ofList]
    exact List.take_prefix _ _
  · exact List.prefix_refl _

/-- A stack trace comes after the text. -/
theorem Renderer.fullText_yields (renderer : Renderer) (r : Record) (text : String) :
    (renderer.fullText r text).Yields fun full => text.toList <+: full.toList := by
  unfold fullText
  split
  · refine Script.yields_bind (Script.yields_any _) fun carried _ => ?_
    refine Script.yields_bind (Script.yields_any _) fun trace _ => ?_
    cases trace with
    | none => exact List.prefix_refl _
    | some trace =>
      dsimp only
      unfold Script.Yields
      split
      · exact List.prefix_refl _
      · rw [String.toList_append, String.toList_append, List.append_assoc]
        exact List.prefix_append _ _
  · exact List.prefix_refl _

/-! ## Fields -/

theorem Entries.has_put {es : Entries} {k k' v : Value} (h : es.has k = true) :
    (es.put k' v).has k = true := by
  induction es with
  | nil => cases h
  | cons e rest ih =>
    obtain ⟨l, u⟩ := e
    rw [has, List.any_cons, Bool.or_eq_true] at h
    rw [put]
    split
    · rw [has, List.any_cons, Bool.or_eq_true]
      exact h
    · rw [has, List.any_cons, Bool.or_eq_true]
      exact h.imp_right ih

namespace Message

/-- The fields are a dictionary that says where the record comes from. -/
def Labelled (fields : Value) : Prop :=
  ∃ es : Entries, fields = .dict es ∧ es.has (.str loggerField) = true ∧
    es.has (.str functionField) = true

/-- A severity on the syslog scale, these texts, and the fields that every message has. -/
structure Carries (short full : String) (m : Message) : Prop where
  level : ∃ n : Int, m.level = .int n ∧ 0 ≤ n ∧ n ≤ 7
  short : m.short = .str short
  full : m.full = .str full
  fields : Labelled m.fields

variable {short full : String}

theorem Labelled.put {fields fields' key v : Value} (hf : Labelled fields)
    (h : putField fields key v = .ok fields') : Labelled fields' := by
  obtain ⟨es, rfl, hl, hn⟩ := hf
  unfold putField at h
  dsimp only at h
  split at h
  · cases h
    exact ⟨_, rfl, Entries.has_put hl, Entries.has_put hn⟩
  · cases h

theorem Carries.put {m : Message} (hm : m.Carries short full) {key v fields : Value}
    (h : putField m.fields key v = .ok fields) : Carries short full { m with fields := fields } :=
  ⟨hm.level, hm.short, hm.full, hm.fields.put h⟩

/-! ## What one field that is put keeps -/

section

variable {p : Message → Prop} (hp : ∀ (m : Message) (key v fields : Value), p m →
  putField m.fields key v = .ok fields → p { m with fields := fields }) {m : Message}

include hp

theorem yields_addField (hm : p m) (key v : Value) : (m.addField key v).Yields p := by
  unfold Message.addField
  split
  · exact hm
  · refine Script.yields_bind (Script.yields_any _) fun s _ => ?_
    exact Script.yields_bind (Script.yields_ofExcept fun fields => hp m _ _ fields hm)
      fun _ hf => hf

theorem yields_addTag (hm : p m) (context : Context) (r : Record) (tag : Value) :
    (addTag context r tag m).Yields p := by
  unfold addTag
  split
  · refine Script.yields_bind (Script.yields_any _) fun said _ => ?_
    cases said with
    | some s => exact yields_addField hp hm tag _
    | none => exact hm
  · exact hm

/-- By induction on the fields that are added. -/
theorem yields_addFields (hm : p m) (more : List (Value × Value)) :
    (addFields m more).Yields p := by
  induction more generalizing m with
  | nil => exact hm
  | cons e rest ih => exact Script.yields_bind (yields_addField hp hm e.1 e.2) fun _ hm' => ih hm'

end

theorem recordFields_ok {r : Record} {es : Entries} (h : recordFields r = .ok es) :
    ∃ logger function, r.get "name" = .ok logger ∧ r.get "funcName" = .ok function ∧
      es = [(.str loggerField, logger.orElse (.str "")),
        (.str functionField, function.orElse (.str ""))] := by
  unfold recordFields at h
  cases hn : r.get "name" with
  | error f =>
    rw [hn] at h
    cases h
  | ok logger =>
    cases hf : r.get "funcName" with
    | error f =>
      rw [hn, hf] at h
      cases h
    | ok function =>
      rw [hn, hf] at h
      cases h
      exact ⟨logger, function, rfl, rfl, rfl⟩

theorem recordFields_labelled {r : Record} {es : Entries} (h : recordFields r = .ok es) :
    Labelled (.dict es) := by
  obtain ⟨_, _, -, -, rfl⟩ := recordFields_ok h
  exact ⟨_, rfl, rfl, rfl⟩

theorem ofRecord_yields (levels : LevelNames) (config : Config) (context : Context) (r : Record)
    (rendered : Rendered) : (ofRecord levels config context r rendered).Yields
      (Carries rendered.short rendered.full) := by
  refine Script.yields_bind (Script.yields_any _) fun (time, severity) _ => ?_
  have hlevel : ∃ n : Int, Value.int severity.number = .int n ∧ 0 ≤ n ∧ n ≤ 7 := by
    have := severity.number_lt
    exact ⟨_, rfl, by omega, by omega⟩
  refine Script.yields_bind (Script.yields_ofExcept fun _ => recordFields_labelled) fun _ hown => ?_
  refine Script.yields_bind (Script.yields_any _) fun host _ => ?_
  have hp : ∀ (m : Message) (key v fields : Value), m.Carries rendered.short rendered.full →
      putField m.fields key v = .ok fields →
      Carries rendered.short rendered.full { m with fields := fields } := fun _ _ _ _ hm => hm.put
  refine Script.yields_bind (yields_addField hp ⟨hlevel, rfl, rfl, hown⟩ _ _) fun m hm => ?_
  refine Script.yields_bind (yields_addTag hp hm context r _) fun m hm => ?_
  exact Script.yields_bind (Script.yields_any _) fun fields _ => yields_addFields hp hm fields

/-- What a message made of a record looks like, where `text` is the record's text. -/
structure WellFormed (text : String) (m : Message) : Prop where
  level : ∃ n : Int, m.level = .int n ∧ 0 ≤ n ∧ n ≤ 7
  texts : ∃ short full : String, m.short = .str short ∧ m.full = .str full ∧ short.length ≤ 250 ∧
    (text.length ≤ 250 → short = text) ∧
    (250 < text.length → short = String.ofList (text.toList.take 249)) ∧
    short.toList <+: full.toList
  fields : ∃ es : Entries, m.fields = .dict es ∧ es.has (.str "logger_name") = true ∧
    es.has (.str "function_name") = true

theorem Carries.wellFormed {text : String} {m : Message} (hm : m.Carries (shorten text) full)
    (hfull : text.toList <+: full.toList) : m.WellFormed text where
  level := hm.level
  texts := ⟨_, _, hm.short, hm.full, shorten_length_le text, shorten_of_le, shorten_of_lt,
    (shorten_begins text).trans hfull⟩
  fields := hm.fields

end Message

/-! ## Messages of records -/

namespace Handler

variable {n : Nat}

/-- The text of a record, as a handler renders it. -/
def renderedText (h : Hooks) (w : World) (r : Record) : Except Fault String :=
  ((script h ((renderer w.handler).text r)).perform w).1

theorem composed_wellFormed {h : Hooks} {w : World} {r : Record} {m : Message}
    (hm : composed h w r = .ok m) :
    ∃ text, renderedText h w r = .ok text ∧ m.WellFormed text := by
  cases hc : (script h (compose w r)).perform w with
  | mk x w' =>
    have hx : x = .ok m := (congrArg Prod.fst hc).symm.trans hm
    subst hx
    obtain ⟨rendered, w₁, hrender, hc⟩ := Script.run_bind_ok hc
    obtain ⟨text, w₂, htext, hrender⟩ := Script.run_bind_ok hrender
    obtain ⟨full, w₃, hfull, hrender⟩ := Script.run_bind_ok hrender
    cases hrender
    refine ⟨text, congrArg Prod.fst htext, ?_⟩
    exact (Script.run_yields _ (Message.ofRecord_yields ..) hc).wellFormed
      (Script.run_yields _ (Renderer.fullText_yields ..) hfull)

/-! ## Messages that are given away -/

/-- The message was made of some record, and is well-formed with respect to the text of that. -/
def Proper (m : Message) : Prop :=
  ∃ k w r text, composed (hooks k) w r = .ok m ∧ renderedText (hooks k) w r = .ok text ∧
    m.WellFormed text

/-- All messages that were given to the sender are proper. -/
def AllProper (w : World) : Prop := ∀ m ∈ w.sendings, Proper m

theorem AllProper.noted {w : World} (hw : AllProper w) {d : Deed} (hd : ∀ m, d ≠ .sending m) :
    AllProper (w.noted d) := by
  intro m hm
  rw [World.sendings, World.noted_history, List.filterMap_append, List.mem_append] at hm
  cases hm with
  | inl hm => exact hw m hm
  | inr hm =>
    cases d with
    | sending m' => exact absurd rfl (hd m')
    | _ => cases hm

theorem AllProper.sending {w : World} (hw : AllProper w) {m : Message} (hm : Proper m) :
    AllProper (w.noted (.sending m)) := by
  intro m' hm'
  rw [World.sendings, World.noted_history, List.filterMap_append, List.mem_append] at hm'
  cases hm' with
  | inl h => exact hw m' h
  | inr h => exact List.mem_singleton.mp h ▸ hm

def properly : Passage := .keeping AllProper

theorem properly_noted (w : World) {d : Deed} (hd : ∀ m, d ≠ .sending m) :
    properly.rel w (w.noted d) := fun hw => ⟨hw.noted hd, trivial⟩

theorem properly_same {w w' : World} (h : w'.history = w.history) : properly.rel w w' := by
  intro hw
  refine ⟨?_, trivial⟩
  rw [AllProper, World.sendings, h]
  exact hw

theorem retire_sendings (w : World) : (retire.perform w).2.sendings = w.sendings :=
  congrArg Ledger.sendings (retire_ledger w)

theorem loose_properly : properly.Loose where
  told _ _ _ := properly_same rfl
  escaped w _ _ := properly_noted w nofun
  written _ _ := properly_same rfl
  retired w _ hw := ⟨by rwa [AllProper, retire_sendings], trivial⟩
  closed w _ := properly_noted w nofun
  looked _ := properly_same rfl
  host _ _ := properly_same rfl
  outside _ _ := properly_same rfl
  sender _ _ _ := properly_same rfl
  connected w := properly_noted w nofun
  encoded w _ := properly_noted w nofun
  context _ _ := properly_same rfl
  opening w := properly_noted w nofun
  ready w _ hw := ⟨hw.noted nofun, trivial⟩

theorem delivering_properly : properly.Delivering where
  toDiscreet := loose_properly.toDiscreet
  lost _ _ _ := properly_same rfl
  unheard w _ _ := properly_noted w nofun

/-- The message that is delivered was composed just before. -/
theorem along_process_properly (hh : ∀ e, Along properly (hooks n e)) (r : Record) :
    Along properly (process (hooks n) r) := by
  intro w
  have hc := loose_properly.toComposing.preparing.along_compose hh (compose w r) w
  unfold process
  rw [perform_get_bind, perform_bind]
  cases h : (script (hooks n) (compose w r)).perform w with
  | mk x w₁ =>
    rw [h] at hc
    cases x with
    | error f => exact hc
    | ok m =>
      have hm : composed (hooks n) w r = .ok m := congrArg Prod.fst h
      obtain ⟨text, ht, hwf⟩ := composed_wellFormed hm
      refine properly.trans hc (delivering_properly.rel_deliver hh ?_ ?_)
      · exact fun _ => loose_properly.along_ensureSender hh w₁
      · intro w₂ _ _
        have hgive : properly.rel w₂ (w₂.noted (.sending m)) :=
          fun hw => ⟨hw.sending ⟨n, w, r, text, hm, ht, hwf⟩, trivial⟩
        refine properly.trans hgive ?_
        exact properly.trans (loose_properly.toWire.along_send hh m _) (properly_noted _ nofun)

theorem along_emit_properly (hh : ∀ e, Along properly (hooks n e)) (r : Record) :
    Along properly (emit (hooks n) r) := by
  refine along_emit (fun _ _ => properly_same rfl) (along_processReported ?_ fun f => ?_)
  · exact along_process_properly hh r
  · exact along_report (fun _ => properly_same rfl) (fun w => properly_noted w nofun)
      loose_properly.written hh

theorem along_hooks_properly (n : Nat) (e : Errand) : Along properly (hooks n e) :=
  along_hooks loose_properly.toDiscreet.modest
    (fun _ hh r => along_handle (along_emit_properly hh) r) n e

theorem along_operation_properly (o : Operation) : Along properly (o.run (hooks n)) := by
  have hh := along_hooks_properly n
  refine along_operation ⟨?_, ?_, ?_, ?_⟩ hh (along_emit_properly hh) ?_ o
  · exact fun _ _ => properly_same rfl
  · exact fun _ _ => properly_same rfl
  · exact fun _ _ => properly_same rfl
  · exact fun _ _ => properly_same rfl
  · exact along_close loose_properly.toDiscreet.modest hh (along_hooks_closed n)

/-- Whatever a handler has been through, all messages that its sender was given are proper. A step
gives away no more than the message of its own record, which is well-formed with respect to the text
of that record as it comes out of the filters. -/
theorem sent_wellFormed {w : World} (hw : Reached n w) :
    (∀ m ∈ w.sendings, Proper m) ∧
      ∀ s v, v = visit (hooks n) s w → v.sendings.length ≤ 1 ∧
        ∀ m ∈ v.sendings, ∃ r r' text, s = .handle r ∧ v.Admits r r' ∧
          renderedText (hooks n) v.busy r' = .ok text ∧ m.WellFormed text := by
  constructor
  · induction hw with
    | made hw =>
      intro m hm
      rw [World.sendings, hw.fresh.history] at hm
      cases hm
    | after o _ ih => exact (along_operation_properly o _ ih).1
  · intro s v hv
    obtain ⟨hone, hmade⟩ := visit_sendings hw.idle hw.reporter s hv
    refine ⟨hone, fun m hm => ?_⟩
    obtain ⟨r, r', hs, ha, hc⟩ := hmade m hm
    obtain ⟨text, ht, hwf⟩ := composed_wellFormed hc
    exact ⟨r, r', text, hs, ha, ht, hwf⟩

/-- A handler whose level 35 is called by a number. -/
def oddlyNamed : World :=
  (((Operation.addLevel (.int 35) (.int 7)).run (hooks 8)).perform
    (started ⟨[]⟩ [("graylog_host", .str "tcp:h")] .calm)).2

/-- A record of level 35. -/
def odd : Record := (Record.plainly (.str "app") (.str "hello")).set "levelno" (.int 35)

theorem sent_wellFormed_odd :
    Reached 8 oddlyNamed ∧ (visit (hooks 8) (.handle odd) oddlyNamed).sendings.length = 1 ∧
      ∀ m ∈ (visit (hooks 8) (.handle odd) oddlyNamed).sendings, ∃ text, m.WellFormed text := by
  have hw : Reached 8 oddlyNamed := .after _ (.made (started_calm rfl))
  refine ⟨hw, by decide +kernel, fun m hm => ?_⟩
  obtain ⟨_, _, text, _, _, _, hwf⟩ := ((sent_wellFormed hw).2 _ _ rfl).2 m hm
  exact ⟨text, hwf⟩

end Handler

end Gelf
