import Gelf.Proofs.Accounting
import Gelf.Proofs.Coupling

/-!
# Gelf.Proofs.Reentrance

Records that come while another one is being processed are not to be seen from outside.

* `unheard`: errands as they are run, except that a record with an integer level is made and then not
  handed over.
* `Harmless`: the filters of a handler neither fail nor change such a record.
* `together`: two runs in the very same world, which keeps some property.
* `hooks_unheard`: in a busy or closed handler an errand comes to the same either way.
* `reentrance_invisible`: so does every run, step by step, and no step gives away two messages.
-/

namespace Gelf

open Act

/-- The record has an integer for a level. -/
def Record.levelled (r : Record) : Bool :=
  match r.get "levelno" with
  | .ok v => v.asInt?.isSome
  | .error _ => false

/-! ## Two runs in one world -/

/-- The two worlds are the same, and have the property. -/
def together (D : World → Prop) (w v : World) : Prop := v = w ∧ D w

section Reports

variable {D : World → Prop} {h h' : Hooks}

theorem coupled_self {α : Type} {a : Act α} (ha : Along (.keeping D) a) :
    Coupled (together D) a a := by
  refine ⟨fun _ hs => hs, ?_⟩
  rintro w v ⟨rfl, hd⟩
  exact .inr ⟨rfl, rfl, (ha _ hd).1⟩

theorem coupled_write (hw : ∀ w s, D w → D { w with stream := s }) (text : String) :
    Coupled (together D) (write text) (write text) :=
  coupled_self (along_write (fun w s hd => ⟨hw w s hd, trivial⟩) text)

theorem coupled_tell (hw : ∀ w s, D w → D { w with stream := s })
    (he : ∀ e, Coupled (together D) (h e) (h' e)) (earlier : List Report) (r : Report)
    (reporter : Reporter) :
    Coupled (together D) (reporter.tell h earlier r) (reporter.tell h' earlier r) := by
  cases reporter with
  | absent => exact coupled_pure _
  | console includeTraceback =>
    refine coupled_bind (coupled_words he _) fun line => ?_
    refine coupled_bind (coupled_write hw line) fun _ => ?_
    split
    · split
      · exact coupled_bind (coupled_words he _) (coupled_write hw)
      · exact coupled_pure _
    · exact coupled_pure _
  | other answer =>
    simp only [Reporter.tell]
    split
    · exact coupled_fault _
    · exact coupled_pure _

theorem coupled_lastResort (hw : ∀ w s, D w → D { w with stream := s })
    (he : ∀ e, Coupled (together D) (h e) (h' e)) (r : Report) (failure : Fault) :
    Coupled (together D) (lastResort h r failure) (lastResort h' r failure) := by
  have hc : Coupled (together D) (complain h r failure) (complain h' r failure) :=
    coupled_bind (coupled_write hw _) fun _ => coupled_bind (coupled_words he _) (coupled_write hw)
  refine coupled_get_bind (fun w => ?_) fun w v hv => by rw [hv.1]
  split
  · exact coupled_pure _
  · refine coupled_bind (coupled_attempt (coupled_during _ hc)) fun x => ?_
    split
    · exact coupled_pure _
    · split
      · exact coupled_pure _
      · exact coupled_fault _

theorem coupled_tellGuarded (hw : ∀ w s, D w → D { w with stream := s })
    (he : ∀ e, Coupled (together D) (h e) (h' e)) (earlier : List Report) (r : Report)
    (reporter : Reporter) :
    Coupled (together D) (reporter.tellGuarded h earlier r) (reporter.tellGuarded h' earlier r) := by
  refine coupled_bind (coupled_attempt (coupled_during _ (coupled_tell hw he earlier r reporter)))
    fun x => ?_
  split
  · exact coupled_pure _
  · split
    · exact coupled_lastResort hw he r _
    · exact coupled_fault _

theorem coupled_report (ht : ∀ w r, D w → D { w with reports := w.reports ++ [r] })
    (hf : ∀ w r, D w → D (w.noted (.escaped r))) (hw : ∀ w s, D w → D { w with stream := s })
    (he : ∀ e, Coupled (together D) (h e) (h' e)) (r : Report) :
    Coupled (together D) (report h r) (report h' r) := by
  refine coupled_get_bind (fun w => ?_) fun w v hv => by rw [hv.1]
  split
  · exact coupled_pure _
  · refine coupled_get_bind (fun w => ?_) fun w v hv => by rw [hv.1]
    refine coupled_bind (coupled_modify (fun _ hs => hs) ?_) fun _ => ?_
    · rintro w v ⟨rfl, hd⟩
      exact ⟨rfl, ht _ r hd⟩
    · refine coupled_bind (coupled_attempt (coupled_tellGuarded hw he _ r _)) fun x => ?_
      split
      · exact coupled_pure _
      · refine coupled_bind (coupled_modify (fun _ hs => hs) ?_) fun _ => coupled_fault _
        rintro w v ⟨rfl, hd⟩
        exact ⟨rfl, hf _ r hd⟩

end Reports

namespace Handler

/-! ## Errands that are overlooked -/

/-- A record with an integer level is made, but not handed over. -/
def overlooked (h : Hooks) : Errand → Act Unit
  | .close => close h
  | .log call => do
    let r ← Act.words h (Record.make (← get).levels call)
    if r.levelled then pure () else discard (handle h r)

/-- What becomes of errands that hand over no record with an integer level. -/
def unheard : Nat → Hooks
  | 0, _ => pure ()
  | depth + 1, e => overlooked (unheard depth) e

/-- The filters neither fail on a record with an integer level nor change it. -/
def Harmless (k : Handler) : Prop :=
  ∀ r : Record, r.levelled = true → ∃ accepted, runFilters r k.filters = .ok (accepted, r)

/-- The handler takes no record, and its filters are harmless. -/
def Aloof (w : World) : Prop := Deaf w ∧ Harmless w.handler

/-- The handler is busy, and its filters are harmless. -/
def Engaged (w : World) : Prop := Busy w ∧ Harmless w.handler

variable {h h' : Hooks} {w : World}

theorem belowLevel_levelled {r : Record} (hr : r.levelled = true) (w : World) :
    ∃ below, belowLevel w r = .ok below := by
  unfold Record.levelled at hr
  unfold belowLevel
  cases hg : r.get "levelno" with
  | error f =>
    rw [hg] at hr
    cases hr
  | ok v =>
    rw [hg] at hr
    obtain ⟨n, hn⟩ := Option.isSome_iff_exists.mp hr
    refine ⟨compare n (w.handler.threshold.asInt?.getD 0) == .lt, ?_⟩
    simp [Except.bind, Value.isBelow, Value.compareInt, hn]

/-- A handler that takes no record answers without a fault, and nothing happens. -/
theorem perform_handle_aloof (hw : Aloof w) {r : Record} (hr : r.levelled = true) :
    ∃ accepted, (handle h r).perform w = (.ok accepted, w) := by
  obtain ⟨hd, hh⟩ := hw
  obtain ⟨accepted, hf⟩ := hh r hr
  obtain ⟨below, hb⟩ := belowLevel_levelled hr w
  rw [perform_handle, hf]
  cases accepted with
  | false => exact ⟨false, rfl⟩
  | true =>
    dsimp only
    rw [perform_emit, hb]
    cases below with
    | true => exact ⟨true, rfl⟩
    | false =>
      dsimp only
      rw [if_pos hd]
      exact ⟨true, rfl⟩

theorem perform_handle_deaf (hd : Deaf w) (r : Record) :
    (handle h r).perform w = (handle h' r).perform w := by
  rw [perform_handle, perform_handle]
  split
  · rfl
  · rfl
  · rw [perform_emit, perform_emit, if_pos hd, if_pos hd]

theorem perform_discard {α : Type} (a : Act α) (w : World) :
    (discard a).perform w = ((a.perform w).1.map fun _ => (), (a.perform w).2) := by
  rw [discard_eq, perform_bind]
  cases a.perform w with
  | mk x w' => cases x <;> rfl

/-! ## Closing -/

theorem retire_harmless (hh : Harmless w.handler) : Harmless (retire.perform w).2.handler := by
  obtain ⟨stage, attached, emitting, hk⟩ := (steady_retired w).handler
  rw [hk]
  exact hh

theorem coupled_noteClosed {D : World → Prop} (hn : ∀ w d, D w → D (w.noted d)) :
    Coupled (together D) noteClosed noteClosed :=
  coupled_self (along_modify fun w hd => ⟨hn w _ hd, trivial⟩)

theorem coupled_report_aloof (he : ∀ e, Coupled (together Aloof) (h e) (h' e)) (r : Report) :
    Coupled (together Aloof) (report h r) (report h' r) :=
  coupled_report (fun _ _ ha => ha) (fun _ _ ha => ha) (fun _ _ ha => ha) he r

/-- Errands run inside a call to close only when the handler is closed already. -/
theorem perform_close_coupled (he : ∀ e, Coupled (together Aloof) (h e) (h' e))
    (hh : Harmless w.handler) : (close h).perform w = (close h').perform w := by
  by_cases hc : Closed w
  · rw [perform_close_closed hc, perform_close_closed hc]
  · obtain ⟨x, hx⟩ := perform_close_open hc
    rw [hx h, hx h']
    have ha : Aloof (retire.perform w).2 := ⟨.inr (retire_stage w), retire_harmless hh⟩
    have hc := Coupled.always (coupled_bind (coupled_reportUnclosed (coupled_report_aloof he) x)
      fun _ => coupled_noteClosed fun _ _ ha => ha) ⟨rfl, ha⟩
    exact Prod.ext hc.1 hc.2.1.symm

/-! ## Errands -/

theorem discreet_aloof : (Passage.keeping Aloof).Discreet where
  told _ _ _ ha := ⟨ha, trivial⟩
  escaped _ _ _ ha := ⟨ha, trivial⟩
  written _ _ ha := ⟨ha, trivial⟩
  retired w _ ha := ⟨⟨.inr (retire_stage w), retire_harmless ha.2⟩, trivial⟩
  closed _ _ ha := ⟨ha, trivial⟩

theorem discreet_engaged : (Passage.keeping Engaged).Discreet where
  told _ _ _ he := ⟨he, trivial⟩
  escaped _ _ _ he := ⟨he, trivial⟩
  written _ _ he := ⟨he, trivial⟩
  retired w _ he := ⟨⟨(retire_emitting w).trans he.1, retire_harmless he.2⟩, trivial⟩
  closed _ _ he := ⟨he, trivial⟩

/-- Errands come to the same in every world with the property, if they do in aloof ones. -/
theorem coupled_hooks {D : World → Prop} {n : Nat} {e : Errand}
    (hu : ∀ w, Aloof w → (hooks n e).perform w = (unheard n e).perform w)
    (hD : (Passage.keeping D).Discreet) (ha : ∀ w, D w → Aloof w) :
    Coupled (together D) (hooks n e) (unheard n e) := by
  refine ⟨fun _ hs => hs, ?_⟩
  rintro w v ⟨rfl, hd⟩
  rw [← hu v (ha v hd)]
  have hk := along_hooks hD.modest
    (fun _ _ r => along_handle_deaf (fun w hd => (ha w hd).1) r) n e v hd
  exact .inr ⟨rfl, rfl, hk.1⟩

theorem perform_hooks_unheard (n : Nat) (e : Errand) :
    ∀ w, Aloof w → (hooks n e).perform w = (unheard n e).perform w := by
  induction n generalizing e with
  | zero =>
    intro w _
    rfl
  | succ n ih =>
    have hk : ∀ e, Coupled (together Aloof) (hooks n e) (unheard n e) := fun e =>
      coupled_hooks (ih e) discreet_aloof fun _ ha => ha
    intro w hw
    cases e with
    | close => exact perform_close_coupled hk hw.2
    | log call =>
      simp only [hooks, unheard, runErrand, overlooked]
      rw [perform_get_bind, perform_get_bind, perform_bind, perform_bind]
      obtain ⟨hx, hc⟩ := Coupled.always (coupled_words hk (Record.make w.levels call)) ⟨rfl, hw⟩
      cases hp : (words (hooks n) (Record.make w.levels call)).perform w with
      | mk x w₁ =>
        cases hq : (words (unheard n) (Record.make w.levels call)).perform w with
        | mk y v₁ =>
          rw [hp, hq] at hx hc
          obtain ⟨hv, ha⟩ := hc
          dsimp only at hx hv ha
          subst hx hv
          cases x with
          | error f => rfl
          | ok r =>
            dsimp only
            by_cases hr : r.levelled = true
            · obtain ⟨accepted, hh⟩ := perform_handle_aloof (h := hooks n) ha hr
              rw [if_pos hr, perform_discard, hh]
              rfl
            · have hh : (handle (hooks n) r).perform v₁ = (handle (unheard n) r).perform v₁ :=
                perform_handle_deaf ha.1 r
              rw [if_neg hr, perform_discard, perform_discard, hh]

theorem engaged_aloof (hw : Engaged w) : Aloof w := ⟨.inl hw.1, hw.2⟩

/-- In a busy handler all work comes to the same. -/
theorem coupling_unheard (n : Nat) : Coupling (together Engaged) (hooks n) (unheard n) := by
  have he : ∀ e, Coupled (together Engaged) (hooks n e) (unheard n e) := fun e =>
    coupled_hooks (perform_hooks_unheard n e) discreet_engaged fun _ => engaged_aloof
  refine ⟨?_, ?_, ?_, ?_, ?_, ?_, ?_, fun _ hs => hs, he, ?_⟩
  · rintro w v ⟨rfl, -⟩
    exact ⟨rfl, rfl, rfl, rfl, rfl, rfl, rfl⟩
  · rintro w v ⟨rfl, hw⟩ o
    exact ⟨rfl, hw⟩
  · rintro w v ⟨rfl, hw⟩ s
    exact ⟨rfl, hw⟩
  · rintro w v ⟨rfl, hw⟩ name
    exact ⟨rfl, hw⟩
  · rintro w v ⟨rfl, hw⟩ c
    exact ⟨rfl, hw⟩
  · rintro w v ⟨rfl, hw⟩ d
    exact ⟨rfl, hw⟩
  · rintro w v ⟨rfl, hw⟩ stage attached
    exact ⟨rfl, hw⟩
  · exact coupled_report (fun _ _ hw => hw) (fun _ _ hw => hw) (fun _ _ hw => hw) he

/-! ## Runs -/

theorem perform_handle_unheard (n : Nat) (r : Record) (hw : Harmless w.handler) :
    (handle (hooks n) r).perform w = (handle (unheard n) r).perform w := by
  rw [perform_handle, perform_handle]
  split
  · rfl
  · rfl
  · rename_i r' _
    have hp : (processReported (hooks n) r').perform (setEmitting true w) =
        (processReported (unheard n) r').perform (setEmitting true w) := by
      have he : Engaged (setEmitting true w) := ⟨rfl, hw⟩
      obtain ⟨hx, hv, -⟩ := Coupled.always ((coupling_unheard n).processReported r') ⟨rfl, he⟩
      exact Prod.ext hx hv.symm
    rw [perform_emit, perform_emit, hp]

theorem visit_unheard (n : Nat) (s : Step) (hw : Harmless w.handler) :
    visit (hooks n) s w = visit (unheard n) s w := by
  cases s with
  | handle r => rw [visit_handle, visit_handle, perform_handle_unheard n r hw]
  | flush => rfl
  | close =>
    rw [visit_close, visit_close, perform_close_coupled (fun e =>
      coupled_hooks (perform_hooks_unheard n e) discreet_aloof fun _ ha => ha) hw]

theorem visit_harmless (n : Nat) (s : Step) (hw : Harmless w.handler) :
    Harmless (visit (hooks n) s w).after.handler := by
  obtain ⟨stage, attached, emitting, hk⟩ := (visit_steady n s w).handler
  rw [hk]
  exact hw

theorem visits_unheard (n : Nat) (steps : List Step) (hw : Harmless w.handler) :
    visits (hooks n) steps w = visits (unheard n) steps w := by
  induction steps generalizing w with
  | nil => rfl
  | cons s rest ih =>
    have hv := visit_unheard n s hw
    rw [visits, visits, ih (visit_harmless n s hw), hv]

/-- Over every run of a new handler with harmless filters, it is all the same whether the records with
integer levels that come while another one is being processed are handed over or not: every step has
the same outcome and leaves the same world, with its events, deeds, reports and stages. No step gives
the sender more than one message. -/
theorem reentrance_invisible {w : World} (hw : Constructed w) (hh : Harmless w.handler) (n : Nat)
    (steps : List Step) : visits (hooks n) steps w = visits (unheard n) steps w ∧
      ∀ v ∈ visits (hooks n) steps w, v.sendings.length ≤ 1 := by
  refine ⟨visits_unheard n steps hh, fun v hv => ?_⟩
  obtain ⟨hi, hp⟩ := visits_idle hw hv
  exact (visit_sendings hi hp v.step (mem_visits_eq hv)).1

/-- A logger whose name logs something itself, each time it is asked for. -/
def muttering : Record :=
  .plainly (.object (.probe none (some (.log
    ⟨.str "inner", .int 20, "app.py", 1, .str "f", .str "m", .tuple [], .null, .null, .int 0, []⟩))))
    (.str "hello")

theorem reentrance_invisible_muttering :
    Constructed (started ⟨[]⟩ [("graylog_host", .str "h")] .calm) ∧
      Harmless (started ⟨[]⟩ [("graylog_host", .str "h")] .calm).handler ∧
      visits (hooks 8) [.handle muttering, .close, .handle muttering]
          (started ⟨[]⟩ [("graylog_host", .str "h")] .calm) =
        visits (unheard 8) [.handle muttering, .close, .handle muttering]
          (started ⟨[]⟩ [("graylog_host", .str "h")] .calm) := by
  have hw : Constructed (started ⟨[]⟩ [("graylog_host", .str "h")] .calm) :=
    started_calm rfl
  have hfilters : (started ⟨[]⟩ [("graylog_host", .str "h")] .calm).handler.filters = [] := by
    rw [← List.isEmpty_iff]
    decide +kernel
  have hh : Harmless (started ⟨[]⟩ [("graylog_host", .str "h")] .calm).handler := by
    intro r _
    rw [hfilters]
    exact ⟨true, rfl⟩
  exact ⟨hw, hh, (reentrance_invisible hw hh 8 _).1⟩

end Handler

end Gelf
