import Gelf.Proofs.Fresh

/-!
# Gelf.Proofs.Accounting

Every message is either delivered or reported as lost.

* `Ledger`: the messages given to the sender, its answers, and the reports of lost messages.
* `quietly`: while one record is being processed, nothing that code of others does touches the
  ledger.
* `Progress`: what processing one record can do to the ledger. `process_progress`: it does one of
  these things, whatever fails on the way.
* `delivery_accounting`: over a whole run, a record that is let in is delivered or reported once if
  what processing it raises can be contained, and not otherwise.
-/

namespace Gelf

open Act

/-- What stands on the books: messages given away, answers to them, and losses, also those that
were told to a reporter in vain. -/
structure Ledger where
  sendings : List Message
  answers : List (Except Fault Value)
  losses : List Report
  unheard : List Report

namespace Ledger

def empty : Ledger := ⟨[], [], [], []⟩

def add (l d : Ledger) : Ledger :=
  ⟨l.sendings ++ d.sendings, l.answers ++ d.answers, l.losses ++ d.losses, l.unheard ++ d.unheard⟩

def sent (l : Ledger) (m : Message) (answer : Except Fault Value) : Ledger :=
  l.add ⟨[m], [answer], [], []⟩

def lost (l : Ledger) (r : Report) : Ledger := l.add ⟨[], [], [r], []⟩

/-- The loss is reported, but the report fails. -/
def failed (l : Ledger) (r : Report) : Ledger := l.add ⟨[], [], [r], [r]⟩

theorem add_empty (l : Ledger) : l.add empty = l := by
  simp [add, empty]

theorem add_add (l d d' : Ledger) : (l.add d).add d' = l.add (d.add d') := by
  simp [add]

theorem add_left_cancel {l d d' : Ledger} (h : l.add d = l.add d') : d = d' := by
  simp only [add, mk.injEq, List.append_cancel_left_eq] at h
  obtain ⟨h₁, h₂, h₃, h₄⟩ := h
  cases d
  cases d'
  simp_all

end Ledger

def Deed.entry (d : Deed) : Ledger := ⟨d.message?.toList, d.answer?.toList, [], d.unheard?.toList⟩

namespace World

def ledger (w : World) : Ledger := ⟨w.sendings, w.answers, w.losses, w.unheard⟩

/-- How often the handler has been closed. -/
def closures (w : World) : Nat := w.history.countP fun d => d.turn?.any (·.1 = .closed)

variable {w : World}

theorem noted_ledger (d : Deed) : (w.noted d).ledger = w.ledger.add d.entry := by
  simp [ledger, sendings, answers, unheard, losses, Ledger.add, Deed.entry, List.filterMap_cons]
  refine ⟨?_, ?_, ?_⟩
  all_goals
    split <;> rename_i h <;> rw [h] <;> rfl

theorem noted_ledger_same {d : Deed} (hd : d.entry = .empty) : (w.noted d).ledger = w.ledger := by
  rw [noted_ledger, hd, Ledger.add_empty]

theorem escaped_ledger {r : Report} (hr : r.isLoss = true) :
    (w.noted (.escaped r)).ledger = w.ledger.add ⟨[], [], [], [r]⟩ := by
  rw [noted_ledger, Deed.entry, Deed.unheard?, if_pos hr]
  rfl

theorem told_ledger {r : Report} (hr : r.isLoss = false) :
    { w with reports := w.reports ++ [r] }.ledger = w.ledger := by
  simp [ledger, sendings, answers, unheard, losses, hr]

theorem told_loss_ledger {r : Report} (hr : r.isLoss = true) :
    { w with reports := w.reports ++ [r] }.ledger = w.ledger.lost r := by
  simp [ledger, sendings, answers, unheard, losses, hr, Ledger.lost, Ledger.add]

end World

namespace Handler

/-- The ledger is the same, and if the handler has been closed, that can be told from the history. -/
structure Quiet (w w' : World) : Prop extends Steady w w' where
  ledger : w'.ledger = w.ledger
  closed : Closed w' → Closed w ∨ w.closures < w'.closures

theorem Steady.closures_le {w w' : World} (h : Steady w w') : w.closures ≤ w'.closures :=
  h.history.sublist.countP_le

def quietly : Passage := Passage.within Busy {
  rel := Quiet
  refl := fun w => ⟨steady.refl w, rfl, fun hc => .inl hc⟩
  trans := by
    intro w₁ w₂ w₃ h₁ h₂
    refine ⟨steady.trans h₁.toSteady h₂.toSteady, h₂.ledger.trans h₁.ledger, fun hc => ?_⟩
    have l₁ := h₁.closures_le
    have l₂ := h₂.closures_le
    cases h₂.closed hc with
    | inl hc =>
      cases h₁.closed hc with
      | inl hc => exact .inl hc
      | inr hl => exact .inr (Nat.lt_of_lt_of_le hl l₂)
    | inr hl => exact .inr (Nat.lt_of_le_of_lt l₁ hl) }

theorem quiet_noted {w : World} {d : Deed} (hd : d.entry = .empty) : quietly.rel w (w.noted d) :=
  fun hb => ⟨hb, steady_noted w d, World.noted_ledger_same hd, fun hc => .inl hc⟩

theorem retire_ledger (w : World) : (retire.perform w).2.ledger = w.ledger := by
  obtain ⟨o, s, -, h⟩ := outermost_retire w
  rw [h, retired]
  split
  · exact (World.noted_ledger_same rfl).trans (World.noted_ledger_same rfl)
  · exact World.noted_ledger_same rfl

theorem quiet_retired (w : World) : quietly.rel w (retire.perform w).2 := by
  intro hb
  refine ⟨(retire_emitting w).trans hb, steady_retired w, retire_ledger w, fun _ => .inr ?_⟩
  obtain ⟨o, s, -, h⟩ := outermost_retire w
  rw [h, retired]
  split <;> simp [World.closures, Deed.turn?]

theorem loose_quietly : quietly.Loose where
  told w r hr hb := ⟨hb, steady_told w r, World.told_ledger hr, fun hc => .inl hc⟩
  escaped w r hr := quiet_noted (by simp [Deed.entry, Deed.unheard?, hr]; rfl)
  written w _ hb := ⟨hb, full_steady.written w _, rfl, fun hc => .inl hc⟩
  retired w _ := quiet_retired w
  closed w _ := quiet_noted rfl
  looked w hb := ⟨hb, full_steady.looked w, rfl, fun hc => .inl hc⟩
  outside w _ hb := ⟨hb, full_steady.outside w _, rfl, fun hc => .inl hc⟩
  sender w _ hs hb := ⟨hb, full_steady.sender w _ hs, rfl, fun hc => .inl hc⟩
  host w _ hb := ⟨hb, full_steady.host w _, rfl, fun hc => .inl hc⟩
  context w _ hb := ⟨hb, full_steady.context w _, rfl, fun hc => .inl hc⟩
  opening w := quiet_noted rfl
  connected w := quiet_noted rfl
  encoded w _ := quiet_noted rfl
  ready w a hb := ⟨hb, steady_turned w _ a, World.noted_ledger_same rfl, nofun⟩

theorem along_hooks_quiet (n : Nat) (e : Errand) : Along quietly (hooks n e) :=
  along_hooks loose_quietly.toDiscreet.modest
    (fun _ _ r => along_handle_deaf (fun _ hb => .inl hb) r) n e

/-! ## One record -/

variable {n : Nat}

/-- A reported loss stands in the ledger; a report that fails stands there as such. -/
theorem report_loss {r : Report} (hr : r.isLoss = true) {w : World} (hb : Busy w)
    (hp : w.reporter ≠ .absent) :
    ((report (hooks n) r).perform w).1 = .ok () ∧
        ((report (hooks n) r).perform w).2.ledger = w.ledger.lost r ∨
      ∃ f, ((report (hooks n) r).perform w).1 = .error f ∧
        ((report (hooks n) r).perform w).2.ledger = w.ledger.failed r := by
  obtain ⟨w', hq, hx⟩ := report_cases loose_quietly.written (along_hooks_quiet n) r hp
  obtain ⟨-, ht⟩ := hq hb
  have hl := ht.ledger.trans (World.told_loss_ledger hr)
  obtain hx | ⟨f, hx⟩ := hx
  · rw [hx]
    exact .inl ⟨rfl, hl⟩
  · rw [hx]
    refine .inr ⟨f, rfl, ?_⟩
    dsimp only
    rw [World.escaped_ledger hr, hl, Ledger.lost, Ledger.add_add]
    rfl

/-- The message was given to the sender once or not at all. -/
inductive Given (made : Message → Prop) (l : Ledger) : Ledger → Prop
  | never : Given made l l
  | once {m : Message} (answer : Except Fault Value) : made m → Given made l (l.sent m answer)

theorem Given.entry {made : Message → Prop} {l l' : Ledger} (hg : Given made l l') :
    ∃ sendings answers, l' = l.add ⟨sendings, answers, [], []⟩ ∧ sendings.length ≤ 1 ∧
      ∀ m ∈ sendings, made m := by
  cases hg with
  | never => exact ⟨[], [], l.add_empty.symm, Nat.zero_le _, nofun⟩
  | once answer hm =>
    refine ⟨_, _, rfl, Nat.le_refl _, ?_⟩
    intro m h
    rwa [List.mem_singleton.mp h]

/-- What comes of processing a record, and what that does to the ledger: the record is passed over,
it is stopped by a fault, the sender is broken, the message is delivered, or its loss is reported,
with or without success. -/
inductive Progress (made : Message → Prop) (shut : Prop) (l : Ledger) :
    Except Fault Unit → Ledger → Prop
  | passed : shut → Progress made shut l (.ok ()) l
  | stopped (f : Fault) : Progress made shut l (.error f) l
  | broken {m : Message} {f : Fault} : made m → f.isA "Exception" = false →
      Progress made shut l (.error f) (l.sent m (.error f))
  | delivered {m : Message} {x : Value} : made m → x.truthy = true →
      Progress made shut l (.ok ()) (l.sent m (.ok x))
  | told {l' : Ledger} {r : Report} : Given made l l' → Progress made shut l (.ok ()) (l'.lost r)
  | unheard {l' : Ledger} {r : Report} {f : Fault} : Given made l l' →
      Progress made shut l (.error f) (l'.failed r)

theorem Progress.of_report {made : Message → Prop} {shut : Prop} {l l' : Ledger} {r : Report}
    (hr : r.isLoss = true) (hg : Given made l l') {w : World} (hb : Busy w)
    (hp : w.reporter ≠ .absent) (hl : w.ledger = l') :
    Progress made shut l ((report (hooks n) r).perform w).1
      ((report (hooks n) r).perform w).2.ledger := by
  subst hl
  obtain ⟨hx, hl⟩ | ⟨f, hx, hl⟩ := report_loss (n := n) hr hb hp
  · rw [hx, hl]
    exact .told hg
  · rw [hx, hl]
    exact .unheard hg

/-- From a message on, the sender that is looked for may fail to be there, and it may fail. -/
theorem deliver_progress {made : Message → Prop} {shut : Prop} {m : Message} (hm : made m)
    {w : World} (hb : Busy w) (hp : w.reporter ≠ .absent) (hs : Closed w → shut) :
    Progress made shut w.ledger ((deliver (hooks n) m).perform w).1
      ((deliver (hooks n) m).perform w).2.ledger := by
  have hh := along_hooks_quiet n
  unfold deliver
  rw [perform_bind, perform_stageNow]
  dsimp only
  split
  · rename_i hc
    exact .passed (hs hc)
  · have he := loose_quietly.along_ensureSender hh w hb
    rw [perform_bind]
    cases hf : (ensureSender (hooks n)).perform w with
    | mk found w₁ =>
      rw [hf] at he
      obtain ⟨hb₁, hq₁⟩ := he
      have hp₁ : w₁.reporter ≠ .absent := fun ha => hp (hq₁.reporter.symm.trans ha)
      cases found with
      | error f =>
        dsimp only
        rw [hq₁.ledger]
        exact .stopped f
      | ok found =>
        cases found with
        | false => exact Progress.of_report rfl .never hb₁ hp₁ hq₁.ledger
        | true =>
          dsimp only
          rw [if_pos rfl, perform_note_bind, perform_attempt_bind, perform_note_bind]
          obtain ⟨hb₂, hq₂⟩ := loose_quietly.toWire.along_send hh m (w₁.noted (.sending m)) hb₁
          have hp₂ := fun ha => hp₁ (hq₂.reporter.symm.trans ha)
          have hl := hq₂.ledger
          rw [World.noted_ledger, hq₁.ledger] at hl
          generalize (Sender.send (hooks n) m).perform (w₁.noted (.sending m)) = p at *
          obtain ⟨x, w₂⟩ := p
          replace hl : (w₂.noted (.sent x)).ledger = w.ledger.sent m x := by
            rw [World.noted_ledger, hl, Ledger.add_add]
            rfl
          cases x with
          | ok v =>
            cases hv : v.truthy with
            | true =>
              dsimp only
              rw [hv, if_neg (by decide)]
              exact hl ▸ .delivered hm hv
            | false =>
              dsimp only
              rw [hv, if_pos (by decide)]
              exact Progress.of_report rfl (.once _ hm) hb₂ hp₂ hl
          | error f =>
            dsimp only
            split
            · exact Progress.of_report rfl (.once _ hm) hb₂ hp₂ hl
            · rename_i hf
              exact hl ▸ .broken hm (Bool.eq_false_iff.mpr hf)

/-- The message that comes of a record in a busy handler. -/
def composed (h : Hooks) (w : World) (r : Record) : Except Fault Message :=
  ((script h (compose w r)).perform w).1

/-- Has the handler been closed on the way from one world to another, or before? -/
def Shut (w w' : World) : Prop := Closed w ∨ w.closures < w'.closures

theorem process_progress {r : Record} {w : World} (hb : Busy w) (hp : w.reporter ≠ .absent) :
    Progress (composed (hooks n) w r = .ok ·) (Shut w ((process (hooks n) r).perform w).2) w.ledger
      ((process (hooks n) r).perform w).1 ((process (hooks n) r).perform w).2.ledger := by
  have hc := loose_quietly.toComposing.preparing.along_compose (along_hooks_quiet n) (compose w r) w hb
  have hm : ∀ x w₁, (script (hooks n) (compose w r)).perform w = (x, w₁) →
      composed (hooks n) w r = x := fun x w₁ h => congrArg Prod.fst h
  unfold process
  rw [perform_get_bind, perform_bind]
  cases h : (script (hooks n) (compose w r)).perform w with
  | mk x w₁ =>
    rw [h] at hc
    obtain ⟨hb₁, hq⟩ := hc
    have hp₁ : w₁.reporter ≠ .absent := fun ha => hp (hq.reporter.symm.trans ha)
    cases x with
    | error f =>
      dsimp only
      rw [hq.ledger]
      exact .stopped f
    | ok m =>
      dsimp only
      have hd : Steady w₁ ((deliver (hooks n) m).perform w₁).2 :=
        full_steady.along_deliver (along_hooks_steady n) m w₁
      rw [← hq.ledger]
      refine deliver_progress (hm _ _ h) hb₁ hp₁ fun hc => ?_
      cases hq.closed hc with
      | inl hc => exact .inl hc
      | inr hl => exact .inr (Nat.lt_of_lt_of_le hl hd.closures_le)

/-- What comes of a record in the end, where `x` came of processing it: either it is passed over,
delivered or reported, or a fault goes on or a second loss is reported after one in vain. -/
inductive Settled (made : Message → Prop) (shut : Prop) (l : Ledger) (x : Except Fault Unit) :
    Except Fault Unit → Ledger → Prop
  | passed : shut → Settled made shut l x (.ok ()) l
  | delivered {m : Message} {v : Value} : x = .ok () → made m → v.truthy = true →
      Settled made shut l x (.ok ()) (l.sent m (.ok v))
  | reported {l' : Ledger} {r : Report} : Ordinary x → Given made l l' →
      Settled made shut l x (.ok ()) (l'.lost r)
  | raised {l' : Ledger} {f : Fault} : ¬ Ordinary x → Given made l l' →
      Settled made shut l x (.error f) l'
  | unheard {l' : Ledger} {f : Fault} {rs us : List Report} : us ≠ [] → Given made l l' →
      Settled made shut l x (.error f) (l'.add ⟨[], [], rs, us⟩)
  | twice {l' : Ledger} {r r' : Report} : Given made l l' →
      Settled made shut l x (.ok ()) ((l'.failed r).lost r')

section Settling

variable {made : Message → Prop} {shut : Prop} {l l' : Ledger} {r : Record} {w w' : World}
  {f : Fault}

theorem settled_of_stopped (hx : (process (hooks n) r).perform w = (.error f, w')) (hb : Busy w')
    (hp : w'.reporter ≠ .absent) (hg : Given made l l') (hl : w'.ledger = l') :
    Settled made shut l (.error f) ((processReported (hooks n) r).perform w).1
      ((processReported (hooks n) r).perform w).2.ledger := by
  rw [perform_processReported, hx]
  dsimp only
  subst hl
  split
  · rename_i hf
    exact .raised (not_ordinary hf) hg
  · rename_i hf
    obtain ⟨hy, hl⟩ | ⟨g, hy, hl⟩ := report_loss (n := n)
      (r := ⟨notBuilt, some f, .formatting⟩) rfl hb hp
    · rw [hy, hl]
      exact .reported (ordinary hf) hg
    · rw [hy, hl]
      exact .unheard (List.cons_ne_nil _ _) hg

theorem settled_of_unheard {r₁ : Report} (hx : (process (hooks n) r).perform w = (.error f, w'))
    (hb : Busy w') (hp : w'.reporter ≠ .absent) (hg : Given made l l')
    (hl : w'.ledger = l'.failed r₁) :
    Settled made shut l (.error f) ((processReported (hooks n) r).perform w).1
      ((processReported (hooks n) r).perform w).2.ledger := by
  rw [perform_processReported, hx]
  dsimp only
  split
  · rw [hl]
    exact .unheard (List.cons_ne_nil _ _) hg
  · obtain ⟨hy, hl₂⟩ | ⟨g, hy, hl₂⟩ := report_loss (n := n)
      (r := ⟨notBuilt, some f, .formatting⟩) rfl hb hp
    · rw [hy, hl₂, hl]
      exact .twice hg
    · rw [hy, hl₂, hl, Ledger.failed, Ledger.failed, Ledger.add_add]
      exact .unheard (List.cons_ne_nil _ _) hg

end Settling

theorem processReported_settled {r : Record} {w : World} (hb : Busy w) (hp : w.reporter ≠ .absent) :
    Settled (composed (hooks n) w r = .ok ·)
      (Shut w ((processReported (hooks n) r).perform w).2) w.ledger
      ((process (hooks n) r).perform w).1 ((processReported (hooks n) r).perform w).1
      ((processReported (hooks n) r).perform w).2.ledger := by
  have hpr := process_progress (n := n) (r := r) hb hp
  have hb' : Busy ((process (hooks n) r).perform w).2 :=
    (broad_busyAsBefore.along_process (along_hooks_busy n) r w).trans hb
  have hs : Steady w ((process (hooks n) r).perform w).2 :=
    full_steady.along_process (along_hooks_steady n) r w
  have hp' := fun ha => hp (hs.reporter.symm.trans ha)
  cases hx : (process (hooks n) r).perform w with
  | mk x w' =>
    rw [hx] at hpr hb' hp'
    dsimp only at hpr hb' hp'
    generalize hl : w'.ledger = l' at hpr
    have hok : x = .ok () → (processReported (hooks n) r).perform w = (.ok (), w') := by
      rintro rfl
      rw [perform_processReported, hx]
    cases hpr with
    | passed hc =>
      rw [hok rfl, hl]
      exact .passed hc
    | stopped f => exact settled_of_stopped hx hb' hp' .never hl
    | broken hm _ => exact settled_of_stopped hx hb' hp' (.once _ hm) hl
    | delivered hm hv =>
      rw [hok rfl, hl]
      exact .delivered rfl hm hv
    | told hg =>
      rw [hok rfl, hl]
      exact .reported nofun hg
    | unheard hg => exact settled_of_unheard hx hb' hp' hg hl

/-! ## One step of a run -/

namespace Visit

/-- The filters let the record in, perhaps changed, and it is not below the level. -/
def Admits (v : Visit) (r r' : Record) : Prop :=
  runFilters r v.before.handler.filters = .ok (true, r') ∧ belowLevel v.before r' = .ok false

/-- A filter rejects the record, or it is below the level, or the handler is closed. -/
def Refuses (v : Visit) (r : Record) : Prop :=
  (∃ r', runFilters r v.before.handler.filters = .ok (false, r')) ∨
    (∃ r', runFilters r v.before.handler.filters = .ok (true, r') ∧
      belowLevel v.before r' = .ok true) ∨
    Closed v.before

/-- The handler is not closed before the step or during it. -/
def NeverClosed (v : Visit) : Prop :=
  ¬ Closed v.before ∧ ∀ attached, Deed.turned .closed attached ∉ v.deeds

/-- One message was given to the sender, the answer was a true value, and no loss was reported. -/
def Delivered (v : Visit) : Prop :=
  ∃ m x, v.sendings = [m] ∧ v.answers = [.ok x] ∧ x.truthy = true ∧ v.losses = []

/-- One loss was reported, and at most one message was given to the sender. -/
def Reported (v : Visit) : Prop := (∃ r, v.losses = [r]) ∧ v.sendings.length ≤ 1

/-- The step has returned, and its message is delivered or else reported as lost. -/
def Accounted (v : Visit) : Prop :=
  v.outcome = .ok (some true) ∧ (v.Delivered ↔ ¬ v.Reported)

/-- No more than an ordinary exception comes of processing the record, and no report of a lost
message fails. -/
def Contained (h : Hooks) (v : Visit) (r : Record) : Prop :=
  Ordinary ((process h r).perform v.busy).1 ∧ v.unheard = []

variable {v : Visit}

theorem history_deeds (h : Steady v.before v.after) :
    v.after.history = v.before.history ++ v.deeds :=
  (List.prefix_iff_eq_append.mp h.history).symm

/-- What the step adds to the ledger. -/
def ledger (v : Visit) : Ledger := ⟨v.sendings, v.answers, v.losses, v.unheard⟩

theorem ledger_after (h : Steady v.before v.after) :
    v.after.ledger = v.before.ledger.add v.ledger := by
  have hr := (List.prefix_iff_eq_append.mp h.reports).symm
  simp only [World.ledger, World.sendings, World.answers, World.losses, World.unheard,
    history_deeds h, List.filterMap_append, Ledger.add, Ledger.mk.injEq]
  refine ⟨rfl, rfl, ?_, rfl⟩
  rw [hr, List.filter_append]
  rfl

theorem NeverClosed.closures (hn : v.NeverClosed) (h : Steady v.before v.after) :
    v.after.closures = v.before.closures := by
  unfold World.closures
  rw [history_deeds h, List.countP_append]
  refine Nat.add_eq_left.mpr (List.countP_eq_zero.mpr ?_)
  intro d hd hc
  cases d with
  | turned stage attached =>
    cases stage with
    | closed => exact hn.2 attached hd
    | uninitialized => cases hc
    | ready => cases hc
  | _ => cases hc

theorem accounted_of_delivered {m : Message} {x : Value} (ho : v.outcome = .ok (some true))
    (hx : x.truthy = true) (hl : v.ledger = ⟨[m], [.ok x], [], []⟩) : v.Accounted := by
  simp only [ledger, Ledger.mk.injEq] at hl
  obtain ⟨hm, ha, hr, -⟩ := hl
  refine ⟨ho, fun _ ⟨⟨r, h⟩, _⟩ => ?_, fun _ => ⟨m, x, hm, ha, hx, hr⟩⟩
  rw [hr] at h
  cases h

theorem accounted_of_reported {r : Report} (ho : v.outcome = .ok (some true))
    (hr : v.losses = [r]) (hm : v.sendings.length ≤ 1) : v.Accounted := by
  refine ⟨ho, fun ⟨_, _, _, _, _, h⟩ _ => ?_, fun h => absurd ⟨⟨r, hr⟩, hm⟩ h⟩
  rw [hr] at h
  cases h

theorem not_accounted_of_error {f : Fault} (ho : v.outcome = .error f) : ¬ v.Accounted := by
  intro h
  have := h.1
  rw [ho] at this
  cases this

theorem not_accounted_of_two {r₁ r₂ : Report} (hr : v.losses = [r₁, r₂]) : ¬ v.Accounted := by
  rintro ⟨-, h⟩
  have hd : ¬ v.Delivered := by
    rintro ⟨_, _, _, _, _, h⟩
    rw [hr] at h
    cases h
  have hp : ¬ v.Reported := by
    rintro ⟨⟨_, h⟩, _⟩
    rw [hr] at h
    cases h
  exact hd (h.mpr hp)

end Visit

theorem visit_admitted {h : Hooks} {w : World} {r r' : Record}
    (ha : (visit h (.handle r) w).Admits r r') (hd : ¬ Deaf w) : visit h (.handle r) w =
      ⟨w, .handle r, ((processReported h r').perform (setEmitting true w)).1.map fun _ => some true,
        setEmitting false ((processReported h r').perform (setEmitting true w)).2⟩ := by
  obtain ⟨hf, hb⟩ : runFilters r w.handler.filters = .ok (true, r') ∧ belowLevel w r' = .ok false :=
    ha
  rw [visit_handle, perform_handle, hf]
  dsimp only
  rw [perform_emit, hb]
  dsimp only
  rw [if_neg hd]
  cases (processReported h r').perform (setEmitting true w) with
  | mk x w' => cases x <;> rfl

theorem visit_settled {w : World} (hi : w.handler.emitting = false) (hp : w.reporter ≠ .absent)
    {r r' : Record} {v : Visit} (hv : v = visit (hooks n) (.handle r) w) (ha : v.Admits r r')
    (hc : ¬ Closed v.before) : ∃ y, v.outcome = y.map (fun _ => some true) ∧
      Settled (composed (hooks n) v.busy r' = .ok ·) (Shut v.before v.after) v.before.ledger
        ((process (hooks n) r').perform v.busy).1 y v.after.ledger := by
  subst hv
  have hd : ¬ Deaf w := fun hd => hd.elim (fun he => by simp [hi] at he) hc
  have hset := processReported_settled (n := n) (r := r') (w := setEmitting true w) rfl hp
  rw [visit_admitted ha hd]
  exact ⟨_, rfl, hset⟩

/-- A record that is let in is accounted for if what comes of it is contained, and only then. -/
theorem accounted_iff {w : World} (hi : w.handler.emitting = false) (hp : w.reporter ≠ .absent)
    {r r' : Record} {v : Visit} (hv : v = visit (hooks n) (.handle r) w) (ha : v.Admits r r')
    (hn : v.NeverClosed) : v.Accounted ↔ v.Contained (hooks n) r' := by
  have hs : Steady v.before v.after := hv ▸ visit_steady n _ w
  have hshut : ¬ Shut v.before v.after := by
    rintro (hc | hl)
    · exact hn.1 hc
    · exact absurd (hn.closures hs) (Nat.ne_of_gt hl)
  obtain ⟨y, hy, hset⟩ := visit_settled hi hp hv ha hn.1
  unfold Visit.Contained
  generalize ((process (hooks n) r').perform v.busy).1 = x at *
  have hl := Visit.ledger_after hs
  generalize v.after.ledger = l at *
  -- the step's own entries are what the ledger has more than before
  cases hset with
  | passed hc => exact absurd hc hshut
  | delivered hx hm ht =>
    have hd := Ledger.add_left_cancel hl.symm
    refine iff_of_true (Visit.accounted_of_delivered hy ht hd) ⟨?_, congrArg Ledger.unheard hd⟩
    rw [hx]
    exact nofun
  | reported ho hg =>
    obtain ⟨sendings, answers, rfl, hone, -⟩ := hg.entry
    rw [Ledger.lost, Ledger.add_add] at hl
    have hd := Ledger.add_left_cancel hl.symm
    have hm : v.sendings = sendings := (congrArg Ledger.sendings hd).trans (List.append_nil _)
    refine iff_of_true (Visit.accounted_of_reported hy (congrArg Ledger.losses hd) ?_)
      ⟨ho, congrArg Ledger.unheard hd⟩
    rwa [hm]
  | raised ho hg => exact iff_of_false (Visit.not_accounted_of_error hy) fun h => ho h.1
  | unheard hu hg =>
    obtain ⟨sendings, answers, rfl, -, -⟩ := hg.entry
    rw [Ledger.add_add] at hl
    have hd := congrArg Ledger.unheard (Ledger.add_left_cancel hl.symm)
    exact iff_of_false (Visit.not_accounted_of_error hy) fun h => hu (hd.symm.trans h.2)
  | twice hg =>
    obtain ⟨sendings, answers, rfl, -, -⟩ := hg.entry
    rw [Ledger.failed, Ledger.lost, Ledger.add_add, Ledger.add_add] at hl
    have hd := Ledger.add_left_cancel hl.symm
    refine iff_of_false (Visit.not_accounted_of_two (congrArg Ledger.losses hd)) fun h => ?_
    have hu := (congrArg Ledger.unheard hd).symm.trans h.2
    cases hu

/-! ## Whole runs -/

theorem visit_refused {h : Hooks} {r : Record} {w : World}
    (hr : (visit h (.handle r) w).Refuses r) : (visit h (.handle r) w).after = w := by
  rw [visit_handle]
  obtain ⟨r', hf⟩ | ⟨r', hf, hb⟩ | hc := hr
  · replace hf : runFilters r w.handler.filters = _ := hf
    rw [perform_handle, hf]
  · replace hf : runFilters r w.handler.filters = _ := hf
    replace hb : belowLevel w r' = _ := hb
    rw [perform_handle, hf]
    dsimp only
    rw [perform_emit, hb]
  · exact handle_deaf (.inr hc) r

/-- Where a record changes anything, it is let in. -/
theorem visit_admits {h : Hooks} {r : Record} {w : World}
    (hc : (visit h (.handle r) w).after ≠ w) :
    ¬ Closed w ∧ ∃ r', (visit h (.handle r) w).Admits r r' := by
  rw [visit_handle] at hc
  refine ⟨fun hd => hc (handle_deaf (.inr hd) r), ?_⟩
  rw [perform_handle] at hc
  split at hc
  · contradiction
  · contradiction
  · rename_i r' hf
    rw [perform_emit] at hc
    split at hc
    · contradiction
    · contradiction
    · rename_i hb
      exact ⟨r', hf, hb⟩

/-- In a busy or closed handler the ledger stays as it is. -/
def unsaid : Passage := Passage.within Deaf {
  rel := fun w w' => w'.ledger = w.ledger
  refl := fun _ => rfl
  trans := fun h₁ h₂ => h₂.trans h₁ }

theorem discreet_unsaid : unsaid.Discreet where
  told w r hr hd := ⟨hd, World.told_ledger hr⟩
  escaped w r hr hd :=
    ⟨hd, World.noted_ledger_same (by simp [Deed.entry, Deed.unheard?, hr]; rfl)⟩
  written _ _ hd := ⟨hd, rfl⟩
  retired w _ _ := ⟨.inr (retire_stage w), retire_ledger w⟩
  closed _ _ hd := ⟨hd, World.noted_ledger_same rfl⟩

theorem close_ledger (w : World) : ((close (hooks n)).perform w).2.ledger = w.ledger := by
  have hh : ∀ e, Along unsaid (hooks n e) := along_hooks discreet_unsaid.modest
    (fun _ _ r => along_handle_deaf (fun _ hd => hd) r) n
  by_cases hc : Closed w
  · rw [perform_close_closed hc]
    exact World.noted_ledger_same rfl
  · have hu := rel_close_open discreet_unsaid.modest hh (along_hooks_closed n) hc
      (.inr (retire_stage w))
    exact hu.2.trans (retire_ledger w)

/-- However it ends, a record gives away no more than the one message it was made into. -/
theorem Settled.given {made : Message → Prop} {shut : Prop} {l l' : Ledger}
    {x y : Except Fault Unit} (h : Settled made shut l x y l') :
    ∃ d : Ledger, l' = l.add d ∧ d.sendings.length ≤ 1 ∧ ∀ m ∈ d.sendings, made m := by
  have hgiven : ∀ {base : Ledger} (tail : Ledger), tail.sendings = [] → Given made l base →
      ∃ d : Ledger, base.add tail = l.add d ∧ d.sendings.length ≤ 1 ∧ ∀ m ∈ d.sendings, made m := by
    intro base tail ht hg
    obtain ⟨sendings, answers, rfl, hone, hm⟩ := hg.entry
    refine ⟨_, Ledger.add_add _ _ _, ?_⟩
    simp only [Ledger.add, ht, List.append_nil]
    exact ⟨hone, hm⟩
  cases h with
  | passed _ => exact ⟨.empty, (Ledger.add_empty l).symm, Nat.zero_le _, nofun⟩
  | delivered _ hm _ =>
    obtain ⟨sendings, answers, he, hone⟩ := (Given.once _ hm).entry
    exact ⟨_, he, hone⟩
  | reported _ hg => exact hgiven _ rfl hg
  | raised _ hg =>
    obtain ⟨sendings, answers, he, hone⟩ := hg.entry
    exact ⟨_, he, hone⟩
  | unheard _ hg => exact hgiven _ rfl hg
  | twice hg =>
    rw [Ledger.failed, Ledger.lost, Ledger.add_add]
    exact hgiven _ rfl hg

/-- The messages that a step gives away: no more than one, and that is made of a record that was
let in. -/
theorem visit_sendings {w : World} (hi : w.handler.emitting = false) (hp : w.reporter ≠ .absent)
    (s : Step) {v : Visit} (hv : v = visit (hooks n) s w) :
    v.sendings.length ≤ 1 ∧ ∀ m ∈ v.sendings, ∃ r r', s = .handle r ∧ v.Admits r r' ∧
      composed (hooks n) v.busy r' = .ok m := by
  have hs : Steady v.before v.after := hv ▸ visit_steady n s w
  have hl := Visit.ledger_after hs
  have hnone : v.after.ledger = v.before.ledger → v.sendings = [] := fun h => by
    have hd := Ledger.add_left_cancel (hl.symm.trans (h.trans (Ledger.add_empty _).symm))
    exact congrArg Ledger.sendings hd
  by_cases hc : v.after.ledger = v.before.ledger
  · rw [hnone hc]
    exact ⟨Nat.zero_le _, nofun⟩
  · cases s with
    | handle r =>
      obtain ⟨hn, r', ha⟩ := visit_admits (h := hooks n) (r := r) (w := w) fun he =>
        hc (by rw [hv, he]; rfl)
      rw [← hv] at ha
      obtain ⟨y, -, hset⟩ := visit_settled hi hp hv ha (by rw [hv]; exact hn)
      obtain ⟨d, hd, hone, hm⟩ := hset.given
      cases Ledger.add_left_cancel (hl.symm.trans hd)
      exact ⟨hone, fun m h => ⟨r, r', rfl, ha, hm m h⟩⟩
    | flush => exact absurd (by rw [hv]; rfl) hc
    | close =>
      refine absurd ?_ hc
      subst hv
      rw [visit_close]
      exact close_ledger w

theorem last_sendings (n : Nat) (steps : List Step) (w : World) :
    (last (hooks n) steps w).sendings =
      w.sendings ++ (visits (hooks n) steps w).flatMap Visit.sendings := by
  induction steps generalizing w with
  | nil => exact (List.append_nil _).symm
  | cons s rest ih =>
    have hl := Visit.ledger_after (v := visit (hooks n) s w) (visit_steady n s w)
    have hs : (visit (hooks n) s w).after.sendings = w.sendings ++ (visit (hooks n) s w).sendings :=
      congrArg Ledger.sendings hl
    rw [last, ih, hs, visits, List.flatMap_cons, List.append_assoc]

/-- Over every run of a new handler: its sender is given, in order, no more than one message for
each record that is let in, the one made of that record. A record that is refused changes nothing.
One that is let in by a handler that is not closed meanwhile is delivered, or its loss is reported
once, if no fault but an ordinary one ends its processing and no report of a loss fails; otherwise it
is not accounted for. -/
theorem delivery_accounting {w : World} (hw : Constructed w) (n : Nat) (steps : List Step) :
    (last (hooks n) steps w).sendings = (visits (hooks n) steps w).flatMap Visit.sendings ∧
    ∀ v ∈ visits (hooks n) steps w,
      (v.sendings.length ≤ 1 ∧ ∀ m ∈ v.sendings, ∃ r r', v.step = .handle r ∧ v.Admits r r' ∧
        composed (hooks n) v.busy r' = .ok m) ∧
      ∀ r, v.step = .handle r → (v.Refuses r → v.after = v.before) ∧
        ∀ r', v.Admits r r' → v.NeverClosed → (v.Accounted ↔ v.Contained (hooks n) r') := by
  have hfresh := hw.fresh
  constructor
  · rw [last_sendings, World.sendings, hfresh.history]
    rfl
  · intro v hv
    have hk := visits_keep (I := fun w => w.handler.emitting = false ∧ w.reporter ≠ .absent)
      (fun s w h => ⟨visit_idle n s h.1,
        fun ha => h.2 ((visit_steady n s w).reporter.symm.trans ha)⟩)
      ⟨hfresh.emitting, hfresh.reporter⟩ hv
    obtain ⟨⟨hi, hp⟩, -⟩ := hk
    have he := mem_visits_eq hv
    refine ⟨visit_sendings hi hp v.step he, fun r hr => ?_⟩
    rw [hr] at he
    refine ⟨fun href => ?_, fun r' ha hn => accounted_iff hi hp he ha hn⟩
    rw [he] at href
    rw [he]
    exact visit_refused href

theorem delivery_accounting_calm :
    Constructed (started ⟨[]⟩ [("graylog_host", .str "h")] .calm) ∧
      ∀ v ∈ visits (hooks 8) [.handle (.plainly (.str "app") (.str "hello")), .flush, .close,
          .handle (.plainly (.str "app") (.str "hello"))]
        (started ⟨[]⟩ [("graylog_host", .str "h")] .calm), v.sendings.length ≤ 1 := by
  have hw : Constructed (started ⟨[]⟩ [("graylog_host", .str "h")] .calm) :=
    started_calm rfl
  exact ⟨hw, fun v hv => ((delivery_accounting hw 8 _).2 v hv).1.1⟩

/-- A record whose message has no text, for a reason that the console cannot tell. -/
def untellable : Record := .plainly (.str "app") (.object (.probe
  (some (.raised (.builtin "SyntaxError") [.str "m", .list [.str "f", .int 1, .int 2, .int 7]]))
  none))

def onConsole : World :=
  started ⟨[]⟩ [("graylog_host", .str "h")] { World.calm with reporter := .console (.bool true) }

/-- The console fails to tell that the message is lost, and so does the last resort. -/
theorem untellable_not_accounted :
    Constructed onConsole ∧ ∃ v ∈ visits (hooks 8) [.handle untellable] onConsole,
      v.Admits untellable untellable ∧ v.NeverClosed ∧
        v.fault? = some (.builtin "AttributeError") ∧ ¬ v.Accounted := by
  have hfilters : onConsole.handler.filters = [] := by
    rw [← List.isEmpty_iff]
    decide +kernel
  have hlevel : (belowLevel onConsole untellable).toOption = some false := by decide +kernel
  have hturns : (visit (hooks 8) (.handle untellable) onConsole).turns = [] := by decide +kernel
  have hfault : (visit (hooks 8) (.handle untellable) onConsole).fault? =
      some (.builtin "AttributeError") := by decide +kernel
  refine ⟨started_constructed rfl (by simp) rfl, _, List.mem_cons_self, ⟨?_, ?_⟩, ⟨?_, ?_⟩, hfault, ?_⟩
  · show runFilters untellable onConsole.handler.filters = _
    rw [hfilters]
    rfl
  · show belowLevel onConsole untellable = _
    cases hb : belowLevel onConsole untellable with
    | error f =>
      rw [hb] at hlevel
      cases hlevel
    | ok below =>
      rw [hb] at hlevel
      cases hlevel
      rfl
  · show ¬ Closed onConsole
    decide +kernel
  · intro attached hm
    have ht := List.mem_filterMap.mpr ⟨_, hm, (rfl : Deed.turn? _ = some (Stage.closed, attached))⟩
    rw [Visit.turns] at hturns
    rw [hturns] at ht
    cases ht
  · intro ha
    rw [Visit.fault?, ha.1] at hfault
    cases hfault

end Handler

end Gelf
