import Gelf.Proofs.History

/-!
# Gelf.Proofs.Run

What holds over every run of a handler.

* `Passage.Delivering`, `Passage.Losing`, `Passage.Broad`: passages that allow for what delivering a
  message and processing a record can do, in steps.
* `Passage.Full`: one that allows for all that a step can do. `Passage.Full.along_step`: a step goes
  along such a passage.
* `steady`: history and reports only grow, and nobody changes the reporter or what the handler was
  told to do. `visit_steady`: every step goes along it.
* `visit_idle`: no step leaves the handler busy.
* `visit_keeps`: what a step keeps, told by what giving up the sender and processing a record keep.
-/

namespace Gelf

open Act

/-- The passage allows for the reports of a delivery. -/
structure Passage.Delivering (P : Passage) : Prop extends P.Discreet where
  lost : ∀ w r, r.message ≠ Handler.notBuilt → P.rel w { w with reports := w.reports ++ [r] }
  unheard : ∀ w r, r.message ≠ Handler.notBuilt → P.rel w (w.noted (.escaped r))

/-- The passage allows for all that delivering a message does, the opening of a sender left out. -/
structure Passage.Losing (P : Passage) : Prop extends P.Delivering, P.Outer where
  sending : ∀ w m, P.rel w (w.noted (.sending m))
  sent : ∀ w x, P.rel w (w.noted (.sent x))

/-- The passage allows for all that processing a record does. -/
structure Passage.Broad (P : Passage) : Prop extends P.Losing, P.Loose

/-- The passage allows for whatever a step does. -/
structure Passage.Full (P : Passage) : Prop extends P.Broad where
  reported : ∀ w r, P.rel w { w with reports := w.reports ++ [r] }
  failed : ∀ w r, P.rel w (w.noted (.escaped r))
  emitting : ∀ w b, P.rel w (Handler.setEmitting b w)

/-- A message is given to the sender, and the answer is noted. -/
def Handler.handedOver (h : Hooks) (m : Message) (w : World) : World :=
  ((Sender.send h m).perform (w.noted (.sending m))).2.noted
    (.sent ((Sender.send h m).perform (w.noted (.sending m))).1)

/-- Processing with reports goes along a passage if processing does, and the report that may follow. -/
theorem Handler.along_processReported {P : Passage} {h : Hooks} {r : Record}
    (hp : Along P (Handler.process h r))
    (hr : ∀ f, Along P (report h ⟨Handler.notBuilt, some f, .formatting⟩)) :
    Along P (Handler.processReported h r) := by
  refine along_bind (along_attempt hp) fun outcome => ?_
  split
  · exact along_pure _
  · split
    · exact along_fault _
    · split
      · exact hr _
      · exact along_fault _

/-- A record is emitted along a passage if it is processed along it, and if the handler may become
busy and idle again. -/
theorem Handler.along_emit {P : Passage} {h : Hooks} {r : Record}
    (he : ∀ w b, P.rel w (Handler.setEmitting b w)) (hp : Along P (Handler.processReported h r)) :
    Along P (Handler.emit h r) := by
  intro w
  rw [Handler.perform_emit]
  split
  · exact P.refl w
  · exact P.refl w
  · split
    · exact P.refl w
    · exact P.trans (he w true) (P.trans (hp _) (he _ false))

/-- The filters may change a record before it is emitted. -/
theorem Handler.along_handle {P : Passage} {h : Hooks} (he : ∀ r, Along P (Handler.emit h r))
    (r : Record) : Along P (Handler.handle h r) := by
  intro w
  rw [Handler.perform_handle]
  split
  · exact P.refl w
  · exact P.refl w
  · exact he _ w

namespace Passage.Delivering

variable {P : Passage} {h : Hooks}

theorem notSent_ne : Handler.notSent ≠ Handler.notBuilt := by decide

theorem noSender_ne : Handler.noSender ≠ Handler.notBuilt := by decide

theorem along_lossReport (D : P.Delivering) (hh : ∀ e, Along P (h e)) {r : Report}
    (hr : r.message ≠ Handler.notBuilt) : Along P (report h r) :=
  Gelf.along_report (fun w => D.lost w r hr) (fun w => D.unheard w r hr) D.written hh

/-- A delivery goes along a passage if in an open handler the search for a sender does, and if
giving the message to the sender that is found does. -/
theorem rel_deliver (D : P.Delivering) (hh : ∀ e, Along P (h e)) {m : Message} {w : World}
    (hs : ¬ Handler.Closed w → P.rel w ((Handler.ensureSender h).perform w).2)
    (hm : ∀ w₁, ¬ Handler.Closed w → (Handler.ensureSender h).perform w = (.ok true, w₁) →
      P.rel w₁ (Handler.handedOver h m w₁)) : P.rel w ((Handler.deliver h m).perform w).2 := by
  unfold Handler.deliver
  rw [perform_bind, Handler.perform_stageNow]
  dsimp only
  split
  · exact P.refl w
  · rename_i hc
    have he := hs hc
    rw [perform_bind]
    cases hf : (Handler.ensureSender h).perform w with
    | mk found w₁ =>
      rw [hf] at he
      cases found with
      | error f => exact he
      | ok found =>
        refine P.trans he ?_
        cases found with
        | false => exact D.along_lossReport hh noSender_ne w₁
        | true =>
          dsimp only
          rw [if_pos rfl, perform_note_bind, perform_attempt_bind, perform_note_bind]
          refine P.trans (hm w₁ hc hf) ?_
          split
          · split
            · exact D.along_lossReport hh notSent_ne _
            · exact P.refl _
          · split
            · exact D.along_lossReport hh notSent_ne _
            · exact P.refl _

end Passage.Delivering

namespace Passage.Losing

variable {P : Passage} {h : Hooks}

theorem along_deliver (L : P.Losing) (hh : ∀ e, Along P (h e))
    (hs : ∀ w, ¬ Handler.Closed w → P.rel w ((Handler.ensureSender h).perform w).2) (m : Message) :
    Along P (Handler.deliver h m) := fun w =>
  L.toDelivering.rel_deliver hh (hs w) fun w₁ _ _ =>
    P.trans (L.sending w₁ m) (P.trans (L.toWire.along_send hh m _) (L.sent _ _))

theorem along_process (L : P.Losing) (hh : ∀ e, Along P (h e))
    (hs : ∀ w, ¬ Handler.Closed w → P.rel w ((Handler.ensureSender h).perform w).2) (r : Record) :
    Along P (Handler.process h r) := by
  refine along_get_bind fun w => ?_
  exact along_bind (L.toComposing.preparing.along_compose hh _) (fun m => L.along_deliver hh hs m) w

end Passage.Losing

namespace Passage.Broad

variable {P : Passage} {h : Hooks}

theorem along_deliver (B : P.Broad) (hh : ∀ e, Along P (h e)) (m : Message) :
    Along P (Handler.deliver h m) :=
  B.toLosing.along_deliver hh (fun w _ => B.toLoose.along_ensureSender hh w) m

theorem along_process (B : P.Broad) (hh : ∀ e, Along P (h e)) (r : Record) :
    Along P (Handler.process h r) :=
  B.toLosing.along_process hh (fun w _ => B.toLoose.along_ensureSender hh w) r

end Passage.Broad

namespace Passage.Full

variable {P : Passage} {h : Hooks}

theorem along_processReported (F : P.Full) (hh : ∀ e, Along P (h e)) (r : Record) :
    Along P (Handler.processReported h r) :=
  Handler.along_processReported (F.along_process hh r) fun _ =>
    Gelf.along_report (fun w => F.reported w _) (fun w => F.failed w _) F.written hh

theorem along_emit (F : P.Full) (hh : ∀ e, Along P (h e)) (r : Record) :
    Along P (Handler.emit h r) :=
  Handler.along_emit F.emitting (F.along_processReported hh r)

theorem along_handle (F : P.Full) (hh : ∀ e, Along P (h e)) (r : Record) :
    Along P (Handler.handle h r) := Handler.along_handle (F.along_emit hh) r

theorem along_hooks (F : P.Full) (n : Nat) (e : Errand) : Along P (Handler.hooks n e) :=
  Handler.along_hooks F.toDiscreet.modest (fun _ hh r => F.along_handle hh r) n e

theorem along_step (F : P.Full) (n : Nat) (s : Handler.Step) :
    Along P (s.run (Handler.hooks n)) := by
  cases s with
  | handle r => exact along_bind (F.along_handle (F.along_hooks n) r) fun _ => along_pure _
  | flush => exact along_pure _
  | close =>
    refine along_bind ?_ fun _ => along_pure _
    exact Handler.along_close F.toDiscreet.modest (F.along_hooks n) (Handler.along_hooks_closed n)

end Passage.Full

namespace Handler

/-! ## What no step undoes -/

/-- History and reports grow, the reporter stays, and so does what the handler was told to do. -/
structure Steady (w w' : World) : Prop where
  history : w.history <+: w'.history
  reports : w.reports <+: w'.reports
  reporter : w'.reporter = w.reporter
  handler : ∃ stage attached emitting, w'.handler =
    { w.handler with stage := stage, attached := attached, emitting := emitting }

def steady : Passage where
  rel := Steady
  refl w := ⟨List.prefix_refl _, List.prefix_refl _, rfl, _, _, _, rfl⟩
  trans := by
    rintro w₁ w₂ w₃ ⟨h₁, r₁, p₁, s, a, e, k₁⟩ ⟨h₂, r₂, p₂, s', a', e', k₂⟩
    refine ⟨h₁.trans h₂, r₁.trans r₂, p₂.trans p₁, s', a', e', ?_⟩
    rw [k₂, k₁]

theorem steady_noted (w : World) (d : Deed) : Steady w (w.noted d) :=
  ⟨List.prefix_append _ _, List.prefix_refl _, rfl, _, _, _, rfl⟩

theorem steady_turned (w : World) (stage : Stage) (attached : Bool) :
    Steady w (w.turned stage attached) :=
  ⟨List.prefix_append _ _, List.prefix_refl _, rfl, _, _, _, rfl⟩

theorem steady_told (w : World) (r : Report) : Steady w { w with reports := w.reports ++ [r] } :=
  ⟨List.prefix_refl _, List.prefix_append _ _, rfl, _, _, _, rfl⟩

theorem steady_retired (w : World) : Steady w (retire.perform w).2 := by
  obtain ⟨o, s, -, h⟩ := outermost_retire w
  have hr : Steady w (retired w) := by
    unfold retired
    split
    · exact steady.trans (steady_turned w _ _) (steady_noted _ _)
    · exact steady_turned w _ _
  rw [h]
  exact ⟨hr.history, hr.reports, hr.reporter, hr.handler⟩

theorem full_steady : steady.Full where
  told w r _ := steady_told w r
  escaped w _ _ := steady_noted w _
  written _ _ := ⟨List.prefix_refl _, List.prefix_refl _, rfl, _, _, _, rfl⟩
  retired w _ := steady_retired w
  closed w _ := steady_noted w _
  looked _ := ⟨List.prefix_refl _, List.prefix_refl _, rfl, _, _, _, rfl⟩
  outside _ _ := ⟨List.prefix_refl _, List.prefix_refl _, rfl, _, _, _, rfl⟩
  sender _ _ _ := ⟨List.prefix_refl _, List.prefix_refl _, rfl, _, _, _, rfl⟩
  host _ _ := ⟨List.prefix_refl _, List.prefix_refl _, rfl, _, _, _, rfl⟩
  context _ _ := ⟨List.prefix_refl _, List.prefix_refl _, rfl, _, _, _, rfl⟩
  opening w := steady_noted w _
  connected w := steady_noted w _
  encoded w _ := steady_noted w _
  ready w _ := steady_turned w _ _
  lost w r _ := steady_told w r
  unheard w _ _ := steady_noted w _
  sending w _ := steady_noted w _
  sent w _ := steady_noted w _
  reported w r := steady_told w r
  failed w _ := steady_noted w _
  emitting _ _ := ⟨List.prefix_refl _, List.prefix_refl _, rfl, _, _, _, rfl⟩

theorem along_hooks_steady (n : Nat) (e : Errand) : Along steady (hooks n e) :=
  full_steady.along_hooks n e

theorem visit_steady (n : Nat) (s : Step) (w : World) : Steady w (visit (hooks n) s w).after :=
  full_steady.along_step n s w

/-! ## No step leaves the handler busy -/

def busyAsBefore : Passage where
  rel w w' := w'.handler.emitting = w.handler.emitting
  refl _ := rfl
  trans h₁ h₂ := h₂.trans h₁

theorem retire_emitting (w : World) :
    (retire.perform w).2.handler.emitting = w.handler.emitting := by
  obtain ⟨o, s, -, h⟩ := outermost_retire w
  rw [h, retired]
  split <;> rfl

theorem broad_busyAsBefore : busyAsBefore.Broad where
  told _ _ _ := rfl
  escaped _ _ _ := rfl
  written _ _ := rfl
  retired w _ := retire_emitting w
  closed _ _ := rfl
  looked _ := rfl
  outside _ _ := rfl
  sender _ _ _ := rfl
  host _ _ := rfl
  context _ _ := rfl
  opening _ := rfl
  connected _ := rfl
  encoded _ _ := rfl
  ready _ _ := rfl
  lost _ _ _ := rfl
  unheard _ _ _ := rfl
  sending _ _ := rfl
  sent _ _ := rfl

theorem along_emit_busy (h : Hooks) (r : Record) : Along busyAsBefore (emit h r) := by
  intro w
  rw [perform_emit]
  split
  · exact busyAsBefore.refl w
  · exact busyAsBefore.refl w
  · split
    · exact busyAsBefore.refl w
    · rename_i hd
      cases he : w.handler.emitting with
      | true => exact absurd (.inl he) hd
      | false => exact he.symm

theorem along_handle_busy (h : Hooks) (r : Record) : Along busyAsBefore (handle h r) :=
  along_handle (along_emit_busy h) r

theorem along_hooks_busy (n : Nat) (e : Errand) : Along busyAsBefore (hooks n e) :=
  along_hooks broad_busyAsBefore.toDiscreet.modest (fun _ _ r => along_handle_busy _ r) n e

theorem handedOver_busy (n : Nat) (m : Message) (w : World) :
    (handedOver (hooks n) m w).handler.emitting = w.handler.emitting :=
  broad_busyAsBefore.toWire.along_send (along_hooks_busy n) m (w.noted (.sending m))

theorem along_step_busy (n : Nat) (s : Step) : Along busyAsBefore (s.run (hooks n)) := by
  cases s with
  | handle r => exact along_bind (along_handle_busy _ r) fun _ => along_pure _
  | flush => exact along_pure _
  | close =>
    refine along_bind ?_ fun _ => along_pure _
    exact along_close broad_busyAsBefore.toDiscreet.modest (along_hooks_busy n) (along_hooks_closed n)

theorem visit_idle (n : Nat) (s : Step) {w : World} (hw : w.handler.emitting = false) :
    (visit (hooks n) s w).after.handler.emitting = false := (along_step_busy n s w).trans hw

def Busy (w : World) : Prop := w.handler.emitting = true

/-- The world while the handler is busy with the record of a step. -/
def Visit.busy (v : Visit) : World := setEmitting true v.before

/-! ## One record -/

theorem perform_processReported (h : Hooks) (r : Record) (w : World) :
    (processReported h r).perform w = match (process h r).perform w with
      | (.ok (), w') => (.ok (), w')
      | (.error f, w') =>
        if f.isA "RecursionError" = true ∨ f.isA "Exception" = false then (.error f, w')
        else (report h ⟨notBuilt, some f, .formatting⟩).perform w' := by
  unfold processReported
  rw [perform_attempt_bind]
  cases (process h r).perform w with
  | mk x w' =>
    cases x with
    | ok _ => rfl
    | error f =>
      dsimp only
      cases hr : f.isA "RecursionError" with
      | true => rfl
      | false =>
        cases he : f.isA "Exception" with
        | true => rfl
        | false => rfl

/-- No more than an ordinary exception has come of it. -/
def Ordinary (x : Except Fault Unit) : Prop :=
  ∀ f, x = .error f → f.isA "Exception" = true ∧ f.isA "RecursionError" = false

theorem not_ordinary {f : Fault} (hf : f.isA "RecursionError" = true ∨ f.isA "Exception" = false) :
    ¬ Ordinary (.error f) := by
  intro ho
  obtain ⟨he, hr⟩ := ho f rfl
  cases hf with
  | inl h => simp [hr] at h
  | inr h => simp [he] at h

theorem ordinary {f : Fault} (hf : ¬ (f.isA "RecursionError" = true ∨ f.isA "Exception" = false)) :
    Ordinary (.error f) := by
  rintro g ⟨⟩
  simpa [and_comm] using hf

theorem visit_handle (h : Hooks) (r : Record) (w : World) : visit h (.handle r) w =
    ⟨w, .handle r, ((handle h r).perform w).1.map some, ((handle h r).perform w).2⟩ := by
  unfold visit
  dsimp only [Step.run]
  rw [perform_bind]
  cases (handle h r).perform w with
  | mk x w' => cases x <;> rfl

theorem visit_close (h : Hooks) (w : World) : visit h .close w =
    ⟨w, .close, ((close h).perform w).1.map fun _ => none, ((close h).perform w).2⟩ := by
  unfold visit
  dsimp only [Step.run]
  rw [perform_bind]
  cases (close h).perform w with
  | mk x w' => cases x <;> rfl

/-! ## Steps that keep something -/

/-- A step keeps what a busy or closed handler keeps whatever code of others does, if giving up the
sender keeps it, and so does processing a record. -/
theorem visit_keeps {I : World → Prop} {n : Nat}
    (D : (Passage.keeping fun w => Deaf w ∧ I w).Discreet)
    (hbusy : ∀ w b, I w → I (setEmitting b w))
    (hretire : ∀ w, ¬ Closed w → I w → I (retire.perform w).2)
    (hprocess : ∀ r, Along (.keeping fun w => Deaf w ∧ I w) (processReported (hooks n) r))
    (s : Step) {w : World} (hw : I w) : I (visit (hooks n) s w).after := by
  cases s with
  | handle r =>
    rw [visit_handle, perform_handle]
    split
    · exact hw
    · exact hw
    · rw [perform_emit]
      split
      · exact hw
      · exact hw
      · split
        · exact hw
        -- while the record is processed the handler is busy, so the hypothesis applies
        · exact hbusy _ false (hprocess _ _ ⟨.inl rfl, hbusy w true hw⟩).1.2
  | flush => exact hw
  | close =>
    rw [visit_close]
    have hh : ∀ e, Along (.keeping fun w => Deaf w ∧ I w) (hooks n e) :=
      along_hooks D.modest (fun _ _ r => along_handle_deaf (fun _ h => h.1) r) n
    by_cases hc : Closed w
    · rw [perform_close_closed hc]
      exact (D.closed w hc ⟨.inr hc, hw⟩).1.2
    · exact (rel_close_open D.modest hh (along_hooks_closed n) hc
        ⟨.inr (retire_stage w), hretire w hc hw⟩).1.2

theorem visit_along {P : Passage} {n : Nat} (D : (P.within Deaf).Discreet)
    (hbusy : ∀ w b, P.rel w (setEmitting b w))
    (hretire : ∀ w, ¬ Closed w → P.rel w (retire.perform w).2)
    (hprocess : ∀ r, Along (P.within Deaf) (processReported (hooks n) r))
    (s : Step) (w : World) : P.rel w (visit (hooks n) s w).after := by
  have hon : ∀ v v', (P.within Deaf).rel v v' →
      (Passage.keeping fun v => Deaf v ∧ P.rel w v).rel v v' := by
    rintro v v' hv ⟨hd, hp⟩
    obtain ⟨hd', hp'⟩ := hv hd
    exact ⟨⟨hd', P.trans hp hp'⟩, trivial⟩
  have hD : (Passage.keeping fun v => Deaf v ∧ P.rel w v).Discreet := by
    refine ⟨?_, ?_, ?_, ?_, ?_⟩
    · exact fun v r hr => hon _ _ (D.told v r hr)
    · exact fun v r hr => hon _ _ (D.escaped v r hr)
    · exact fun v s => hon _ _ (D.written v s)
    · exact fun v hv => hon _ _ (D.retired v hv)
    · exact fun v hv => hon _ _ (D.closed v hv)
  exact visit_keeps hD (fun v b hv => P.trans hv (hbusy v b))
    (fun v hc hv => P.trans hv (hretire v hc)) (fun r => (hprocess r).mono hon) s (P.refl w)

end Handler

end Gelf
