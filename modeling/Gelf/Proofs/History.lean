import Gelf.Proofs.Transport

/-!
# Gelf.Proofs.History

Runs of a handler, and what can be read off the history they leave.

* `Visit`: one step of a run, with the world before it and after it. `visits`: all of a run.
* `Deed.message?` and its like: what one deed has to say about sending, stages and reports.
* `Visit.deeds`, `Visit.sendings`, `Visit.losses`: what was done during one step.
* `visits_keep`, `last_keeps`: what every step keeps holds all along a run.
-/

namespace Gelf

/-! ## Deeds -/

namespace Deed

def message? : Deed → Option Message
  | .sending m => some m
  | _ => none

def answer? : Deed → Option (Except Fault Value)
  | .sent outcome => some outcome
  | _ => none

def turn? : Deed → Option (Stage × Bool)
  | .turned stage attached => some (stage, attached)
  | _ => none

/-- A report of a lost message whose fault went on. -/
def unheard? : Deed → Option Report
  | .escaped r => if r.isLoss then some r else none
  | _ => none

end Deed

namespace World

def sendings (w : World) : List Message := w.history.filterMap Deed.message?

def answers (w : World) : List (Except Fault Value) := w.history.filterMap Deed.answer?

def turns (w : World) : List (Stage × Bool) := w.history.filterMap Deed.turn?

def unheard (w : World) : List Report := w.history.filterMap Deed.unheard?

def losses (w : World) : List Report := w.reports.filter Report.isLoss

variable (w : World) (d : Deed) (stage : Stage) (attached : Bool)

@[simp] theorem noted_history : (w.noted d).history = w.history ++ [d] := rfl

@[simp] theorem noted_reports : (w.noted d).reports = w.reports := rfl

@[simp] theorem turned_history :
    (w.turned stage attached).history = w.history ++ [.turned stage attached] := rfl

end World

/-! ## Runs -/

namespace Handler

/-- One step of a run: the world before it, what came of it, and the world after it. -/
structure Visit where
  before : World
  step : Step
  outcome : Except Fault (Option Bool)
  after : World

def visit (h : Hooks) (s : Step) (w : World) : Visit :=
  ⟨w, s, ((s.run h).perform w).1, ((s.run h).perform w).2⟩

/-- The steps of a run, one after another. A fault ends its own step only. -/
def visits (h : Hooks) : List Step → World → List Visit
  | [], _ => []
  | s :: rest, w => visit h s w :: visits h rest (visit h s w).after

def last (h : Hooks) : List Step → World → World
  | [], w => w
  | s :: rest, w => last h rest (visit h s w).after

namespace Visit

def deeds (v : Visit) : List Deed := v.after.history.drop v.before.history.length

def sendings (v : Visit) : List Message := v.deeds.filterMap Deed.message?

def answers (v : Visit) : List (Except Fault Value) := v.deeds.filterMap Deed.answer?

def turns (v : Visit) : List (Stage × Bool) := v.deeds.filterMap Deed.turn?

/-- What kind of fault the step ended with, if it did. -/
def fault? (v : Visit) : Option FaultKind :=
  match v.outcome with
  | .error f => some f.kind
  | .ok _ => none

def unheard (v : Visit) : List Report := v.deeds.filterMap Deed.unheard?

/-- The reports of lost messages that were made during the step. -/
def losses (v : Visit) : List Report :=
  (v.after.reports.drop v.before.reports.length).filter Report.isLoss

end Visit

variable {h : Hooks} {steps : List Step} {w : World}

/-- What every step keeps holds at both ends of each step of a run. -/
theorem visits_keep {I : World → Prop} (hI : ∀ s w, I w → I (visit h s w).after) (hw : I w)
    {v : Visit} (hv : v ∈ visits h steps w) : I v.before ∧ I v.after := by
  induction steps generalizing w with
  | nil => cases hv
  | cons s rest ih =>
    cases hv with
    | head => exact ⟨hw, hI s w hw⟩
    | tail _ hv => exact ih (hI s w hw) hv

theorem last_keeps {I : World → Prop} (hI : ∀ s w, I w → I (visit h s w).after) (hw : I w) :
    I (last h steps w) := by
  induction steps generalizing w with
  | nil => exact hw
  | cons s rest ih => exact ih (hI s w hw)

theorem mem_visits_eq {v : Visit} (hv : v ∈ visits h steps w) : v = visit h v.step v.before := by
  induction steps generalizing w with
  | nil => cases hv
  | cons s rest ih =>
    cases hv with
    | head => rfl
    | tail _ hv => exact ih hv

end Handler

end Gelf
