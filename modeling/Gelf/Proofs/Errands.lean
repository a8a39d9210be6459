import Gelf.Proofs.Passage

/-!
# Gelf.Proofs.Errands

What the code of others can do while it runs inside a handler: the text of a value may close the
handler or hand it one more record, and so may the text of a fault that is reported.

* `Passage.Discreet`: a passage that allows for reports and for the end of the handler.
* `Passage.Modest`: one that allows for minor reports only, those that are not about a message or a
  sender that is missing.
* `along_report`, `along_close`: reporting and closing go along such a passage.
* `Passage.Shutting`: a passage that allows for the end of a sender.
* `Handler.along_hooks`: all errands go along a modest passage, errands of errands included.
* `Handler.Deaf`: a handler that is busy or closed, which takes no record.
-/

namespace Gelf

/-- What reports say where a message is lost. -/
def lossMessages : List String := [Handler.notSent, Handler.noSender, Handler.notBuilt]

/-- Is this a report that a message is lost? -/
def Report.isLoss (r : Report) : Bool := lossMessages.contains r.message

/-- The passage allows for whatever reporting and closing do to a world, reports of a lost message
left out. -/
structure Passage.Discreet (P : Passage) : Prop where
  told : ∀ w r, r.isLoss = false → P.rel w { w with reports := w.reports ++ [r] }
  escaped : ∀ w r, r.isLoss = false → P.rel w (w.noted (.escaped r))
  written : ∀ w s, P.rel w { w with stream := s }
  retired : ∀ w, w.handler.stage ≠ .closed → P.rel w (Handler.retire.perform w).2
  closed : ∀ w, w.handler.stage = .closed → P.rel w (w.noted (.closed w.outside.events.length))

/-- Is this a report that there is no sender, or that a message is lost? -/
def Report.isMajor (r : Report) : Bool := r.isLoss || r.code == .opening || r.code == .writing

/-- The passage allows for what closing the handler does to a world, and for minor reports. -/
structure Passage.Modest (P : Passage) : Prop where
  told : ∀ w r, r.isMajor = false → P.rel w { w with reports := w.reports ++ [r] }
  escaped : ∀ w r, r.isMajor = false → P.rel w (w.noted (.escaped r))
  written : ∀ w s, P.rel w { w with stream := s }
  retired : ∀ w, w.handler.stage ≠ .closed → P.rel w (Handler.retire.perform w).2
  closed : ∀ w, w.handler.stage = .closed → P.rel w (w.noted (.closed w.outside.events.length))

/-- The passage allows for the end of a sender, whichever it is. -/
structure Passage.Shutting (P : Passage) : Prop where
  closed : ∀ w, P.rel w { w with outside := (Outside.close w.outside).2 }
  senderClosed : ∀ w, P.rel w { w with outside := (Outside.closeSender w.outside).2 }
  sender : ∀ w s, (w.sender.isSome → s.isSome) → P.rel w { w with sender := s }

theorem isLoss_of_minor {r : Report} (hr : r.isMajor = false) : r.isLoss = false := by
  cases h : r.isLoss with
  | false => rfl
  | true =>
    rw [Report.isMajor, h] at hr
    cases hr

theorem Passage.Discreet.modest {P : Passage} (D : P.Discreet) : P.Modest where
  told w r hr := D.told w r (isLoss_of_minor hr)
  escaped w r hr := D.escaped w r (isLoss_of_minor hr)
  written := D.written
  retired := D.retired
  closed := D.closed

open Act

variable {P : Passage} {h : Hooks}

/-! ## Reports -/

theorem along_write (hw : ∀ w s, P.rel w { w with stream := s }) (text : String) :
    Along P (write text) := by
  apply along_get_bind
  intro w
  split
  · exact P.refl w
  · exact P.refl w
  · split
    · exact P.refl w
    · exact hw w _

theorem along_tell (hw : ∀ w s, P.rel w { w with stream := s }) (hh : ∀ e, Along P (h e))
    (earlier : List Report) (r : Report) (reporter : Reporter) :
    Along P (reporter.tell h earlier r) := by
  cases reporter with
  | absent => exact along_pure _
  | console includeTraceback =>
    apply along_bind (along_words hh _)
    intro line
    apply along_bind (along_write hw line)
    intro _
    split
    · split
      · exact along_bind (along_words hh _) (along_write hw)
      · exact along_pure _
    · exact along_pure _
  | other answer =>
    simp only [Reporter.tell]
    split
    · exact along_fault _
    · exact along_pure _

theorem along_lastResort (hw : ∀ w s, P.rel w { w with stream := s }) (hh : ∀ e, Along P (h e))
    (r : Report) (failure : Fault) : Along P (lastResort h r failure) := by
  have hc : Along P (complain h r failure) :=
    along_bind (along_write hw _) fun _ => along_bind (along_words hh _) (along_write hw)
  apply along_get_bind
  intro w
  split
  · exact P.refl w
  · refine along_bind (along_attempt (along_during (some failure) hc)) (fun x => ?_) w
    split
    · exact along_pure _
    · split
      · exact along_pure _
      · exact along_fault _

theorem along_tellGuarded (hw : ∀ w s, P.rel w { w with stream := s }) (hh : ∀ e, Along P (h e))
    (earlier : List Report) (r : Report) (reporter : Reporter) :
    Along P (reporter.tellGuarded h earlier r) := by
  apply along_bind (along_attempt (along_during r.error (along_tell hw hh earlier r reporter)))
  intro x
  split
  · exact along_pure _
  · split
    · exact along_lastResort hw hh r _
    · exact along_fault _

theorem perform_report_absent {r : Report} {w : World} (hr : w.reporter = .absent) :
    (report h r).perform w = (.ok (), w) := by
  unfold report
  rw [perform_get_bind, hr]
  rfl

theorem perform_report {r : Report} {w : World} (hr : w.reporter ≠ .absent) :
    (report h r).perform w =
      match (w.reporter.tellGuarded h w.reports r).perform
        { w with reports := w.reports ++ [r] } with
      | (.ok (), w') => (.ok (), w')
      | (.error f, w') => (.error f, w'.noted (.escaped r)) := by
  unfold report
  rw [perform_get_bind]
  split
  · contradiction
  · rw [perform_get_bind]
    dsimp only
    rw [perform_modify_bind, perform_attempt_bind]
    cases (w.reporter.tellGuarded h w.reports r).perform { w with reports := w.reports ++ [r] } with
    | mk x w' => cases x <;> rfl

theorem report_cases (hw : ∀ w s, P.rel w { w with stream := s }) (hh : ∀ e, Along P (h e))
    (r : Report) {w : World} (hr : w.reporter ≠ .absent) :
    ∃ w', P.rel { w with reports := w.reports ++ [r] } w' ∧
      ((report h r).perform w = (.ok (), w') ∨
        ∃ f, (report h r).perform w = (.error f, w'.noted (.escaped r))) := by
  have ht := along_tellGuarded hw hh w.reports r w.reporter { w with reports := w.reports ++ [r] }
  rw [perform_report hr]
  cases hp : (w.reporter.tellGuarded h w.reports r).perform
      { w with reports := w.reports ++ [r] } with
  | mk x w' =>
    rw [hp] at ht
    cases x with
    | ok _ => exact ⟨w', ht, .inl rfl⟩
    | error f => exact ⟨w', ht, .inr ⟨f, rfl⟩⟩

theorem along_report {r : Report} (ht : ∀ w, P.rel w { w with reports := w.reports ++ [r] })
    (he : ∀ w, P.rel w (w.noted (.escaped r))) (hw : ∀ w s, P.rel w { w with stream := s })
    (hh : ∀ e, Along P (h e)) : Along P (report h r) := by
  apply along_get_bind
  intro w
  split
  · exact P.refl w
  · refine along_get_bind (fun w => ?_) w
    refine along_bind (along_modify ht) (fun _ => ?_) w
    refine along_bind (along_attempt (along_tellGuarded hw hh _ r _)) (fun x => ?_)
    split
    · exact along_pure _
    · exact along_bind (along_note he) fun _ => along_fault _

theorem Passage.Discreet.along_report (D : P.Discreet) (hh : ∀ e, Along P (h e)) {r : Report}
    (hr : r.isLoss = false) : Along P (report h r) :=
  Gelf.along_report (fun w => D.told w r hr) (fun w => D.escaped w r hr) D.written hh

theorem Passage.Modest.along_report (M : P.Modest) (hh : ∀ e, Along P (h e)) {r : Report}
    (hr : r.isMajor = false) : Along P (report h r) :=
  Gelf.along_report (fun w => M.told w r hr) (fun w => M.escaped w r hr) M.written hh

namespace Passage.Shutting

/-! ## The end of a sender -/

theorem along_drop (S : P.Shutting) : Along P TcpSender.drop := by
  apply along_bind
  · refine along_get_bind fun w => ?_
    split <;> exact P.refl w
  · intro isOpen
    split
    · intro w
      rw [perform_tidied, perform_outward]
      dsimp only
      split
      · exact P.trans (S.closed w) (S.sender _ _ fun _ => rfl)
      · exact S.closed w
    · exact along_pure _

theorem along_udpClose (S : P.Shutting) (s : UdpSender) : Along P s.close := by
  unfold UdpSender.close
  split
  · refine along_bind (along_outward S.closed) (fun _ => ?_)
    refine along_modify fun w => ?_
    split
    · exact S.sender w _ fun _ => rfl
    · exact P.refl w
  · exact along_pure _

theorem along_senderClose (S : P.Shutting) : Along P Sender.close := by
  refine along_get_bind fun w => ?_
  split
  · exact S.along_udpClose _ w
  · refine along_bind (along_modify fun w => ?_) (fun _ => S.along_drop) w
    split
    · exact S.sender w _ fun _ => rfl
    · exact P.refl w
  · exact S.senderClosed w
  · split <;> exact P.refl w
  · exact P.refl w

end Passage.Shutting

namespace Handler

/-! ## The end of the handler -/

theorem perform_stageNow (w : World) : stageNow.perform w = (.ok w.handler.stage, w) := rfl

/-- The world when the handler has just given up its sender. -/
def retired (w : World) : World :=
  if w.handler.attached then (w.turned .closed false).noted .closing else w.turned .closed false

theorem rel_retire (S : P.Shutting) (w : World) :
    P.rel (retired w) (retire.perform w).2 := by
  unfold retire retired turn Act.note
  simp only [perform_bind, perform_get, perform_modify]
  cases w.handler.attached with
  | false => exact P.refl _
  | true => exact S.along_senderClose _

/-- Nothing is touched but the sender and the world outside, and no sender gets lost. -/
def outermost : Passage where
  rel w w' := ∃ o s, (w.sender.isSome → s.isSome) ∧ w' = { w with outside := o, sender := s }
  refl w := ⟨w.outside, w.sender, id, rfl⟩
  trans := by
    rintro w₁ w₂ w₃ ⟨o, s, h, rfl⟩ ⟨o', s', h', rfl⟩
    exact ⟨o', s', fun hs => h' (h hs), rfl⟩

theorem shutting_outermost : outermost.Shutting where
  closed w := ⟨_, w.sender, id, rfl⟩
  senderClosed w := ⟨_, w.sender, id, rfl⟩
  sender w s h := ⟨w.outside, s, h, rfl⟩

theorem outermost_retire (w : World) : outermost.rel (retired w) (retire.perform w).2 :=
  rel_retire shutting_outermost w

theorem retire_stage (w : World) : (retire.perform w).2.handler.stage = .closed := by
  obtain ⟨o, s, -, h⟩ := outermost_retire w
  rw [h, retired]
  split <;> rfl

/-! ## Busy and closed handlers -/

def Closed (w : World) : Prop := w.handler.stage = .closed

/-- A handler that is busy or closed takes no record. -/
def Deaf (w : World) : Prop := w.handler.emitting = true ∨ Closed w

instance (w : World) : Decidable (Closed w) := inferInstanceAs (Decidable (_ = _))

instance (w : World) : Decidable (Deaf w) := inferInstanceAs (Decidable (_ ∨ _))

def belowLevel (w : World) (r : Record) : Except Fault Bool :=
  (r.get "levelno").bind fun level => level.isBelow w.handler.threshold

theorem perform_emit (r : Record) (w : World) : (emit h r).perform w =
    match belowLevel w r with
    | .error f => (.error f, w)
    | .ok true => (.ok (), w)
    | .ok false =>
      if Deaf w then (.ok (), w)
      else (((processReported h r).perform (setEmitting true w)).1,
        setEmitting false ((processReported h r).perform (setEmitting true w)).2) := by
  unfold emit
  rw [perform_get_bind]
  dsimp only
  rw [perform_ofExcept_bind, belowLevel]
  split
  · rename_i below hb
    rw [hb]
    cases below with
    | true => rfl
    | false =>
      dsimp only
      rw [if_neg (by decide)]
      by_cases hc : w.handler.stage = .closed
      · rw [if_pos hc, if_pos (.inr hc)]
        rfl
      · rw [if_neg hc]
        by_cases he : w.handler.emitting = true
        · rw [if_pos he, if_pos (.inl he)]
          rfl
        · have hd : ¬ Deaf w := fun hd => hd.elim he hc
          rw [if_neg he, if_neg hd, perform_modify_bind, perform_tidied]
  · rename_i hb
    rw [hb]

theorem perform_handle (r : Record) (w : World) : (handle h r).perform w =
    match runFilters r w.handler.filters with
    | .error f => (.error f, w)
    | .ok (false, _) => (.ok false, w)
    | .ok (true, r') =>
      (((emit h r').perform w).1.map fun _ => true, ((emit h r').perform w).2) := by
  unfold handle
  rw [perform_get_bind, perform_ofExcept_bind]
  split
  · rename_i accepted hf
    rw [hf]
    obtain ⟨accepts, r'⟩ := accepted
    cases accepts with
    | false => rfl
    | true =>
      dsimp only
      rw [if_pos rfl, perform_bind]
      cases (emit h r').perform w with
      | mk x w' => cases x <;> rfl
  · rename_i hf
    rw [hf]

theorem emit_deaf {w : World} (hd : Deaf w) (r : Record) : ((emit h r).perform w).2 = w := by
  rw [perform_emit, if_pos hd]
  split <;> rfl

theorem handle_deaf {w : World} (hd : Deaf w) (r : Record) : ((handle h r).perform w).2 = w := by
  rw [perform_handle]
  split
  · rfl
  · rfl
  · exact emit_deaf hd _

theorem along_handle_deaf {D : World → Prop} (hD : ∀ w, D w → Deaf w) (r : Record) :
    Along (P.within D) (handle h r) := by
  intro w hd
  rw [handle_deaf (hD w hd) r]
  exact ⟨hd, P.refl w⟩

theorem perform_close_closed {w : World} (hc : Closed w) :
    (close h).perform w = (.ok (), w.noted (.closed w.outside.events.length)) := by
  unfold close
  rw [perform_bind, perform_stageNow]
  dsimp only
  rw [Closed] at hc
  rw [if_pos hc]
  rfl

/-- All errands go along a passage if closing does, and a record that one of them hands over. -/
theorem along_hooks_of (hc : ∀ k, (∀ e, Along P (hooks k e)) → Along P (close (hooks k)))
    (hr : ∀ k, (∀ e, Along P (hooks k e)) → ∀ r, Along P (handle (hooks k) r)) (n : Nat)
    (e : Errand) : Along P (hooks n e) := by
  -- an errand runs its own errands one level deeper, where the hypothesis holds
  induction n generalizing e with
  | zero => exact along_pure _
  | succ n ih =>
    cases e with
    | close => exact hc n ih
    | log call =>
      refine along_get_bind fun w => ?_
      exact along_bind (along_words ih _) (fun r => along_discard (hr _ ih r)) w

theorem along_hooks_closed (n : Nat) (e : Errand) : Along (.keeping Closed) (hooks n e) := by
  refine along_hooks_of (fun k _ => ?_)
    (fun _ _ r => along_handle_deaf (fun _ hc => .inr hc) r) n e
  intro w hc
  rw [perform_close_closed hc]
  exact ⟨hc, trivial⟩

theorem retire_ok (w : World) : ∃ x, (retire.perform w).1 = .ok x := by
  unfold retire turn Act.note
  simp only [perform_bind, perform_get, perform_modify]
  cases w.handler.attached with
  | false => exact ⟨_, rfl⟩
  | true => exact ⟨_, rfl⟩

/-- What came of giving up the sender does not hang on what becomes of errands. -/
theorem perform_close_open {w : World} (hc : ¬ Closed w) : ∃ x, ∀ h, (close h).perform w =
    (reportUnclosed h x >>= fun _ => noteClosed).perform (retire.perform w).2 := by
  obtain ⟨x, hx⟩ := retire_ok w
  refine ⟨x, fun h => ?_⟩
  unfold close
  rw [perform_bind, perform_stageNow]
  dsimp only
  rw [Closed] at hc
  rw [if_neg hc, perform_bind]
  cases hr : retire.perform w with
  | mk r w' =>
    rw [hr] at hx
    cases hx
    rfl

theorem along_reportUnclosed (M : P.Modest) (hh : ∀ e, Along P (h e)) (x : Except Fault Unit) :
    Along P (reportUnclosed h x) := by
  cases x with
  | ok _ => exact along_pure _
  | error f =>
    simp only [reportUnclosed]
    split
    · exact M.along_report hh rfl
    · exact along_fault _

theorem discreet_closed : (Passage.keeping Closed).Discreet where
  told _ _ _ hc := ⟨hc, trivial⟩
  escaped _ _ _ hc := ⟨hc, trivial⟩
  written _ _ hc := ⟨hc, trivial⟩
  retired _ hn hc := absurd hc hn
  closed _ _ hc := ⟨hc, trivial⟩

/-- Once the sender is given up, what is left of closing goes along a modest passage. -/
theorem rel_close_open (M : P.Modest) (hh : ∀ e, Along P (h e))
    (hc : ∀ e, Along (.keeping Closed) (h e)) {w : World} (hw : ¬ Closed w) :
    P.rel (retire.perform w).2 ((close h).perform w).2 := by
  obtain ⟨x, hx⟩ := perform_close_open hw
  have hp := along_reportUnclosed M hh x (retire.perform w).2
  have hk := along_reportUnclosed discreet_closed.modest hc x (retire.perform w).2 (retire_stage w)
  rw [hx, perform_bind]
  cases hr : (reportUnclosed h x).perform (retire.perform w).2 with
  | mk y w' =>
    rw [hr] at hp hk
    cases y with
    | ok _ => exact P.trans hp (M.closed w' hk.1)
    | error f => exact hp

theorem along_close (M : P.Modest) (hh : ∀ e, Along P (h e))
    (hc : ∀ e, Along (.keeping Closed) (h e)) : Along P (close h) := by
  intro w
  by_cases hw : Closed w
  · rw [perform_close_closed hw]
    exact M.closed w hw
  · exact P.trans (M.retired w hw) (rel_close_open M hh hc hw)

/-- All errands go along a modest passage if a record that one of them hands over does. -/
theorem along_hooks (M : P.Modest)
    (hr : ∀ k, (∀ e, Along P (hooks k e)) → ∀ r, Along P (handle (hooks k) r)) (n : Nat)
    (e : Errand) : Along P (hooks n e) :=
  along_hooks_of (fun k hh => along_close M hh (along_hooks_closed k)) hr n e

end Handler

end Gelf
