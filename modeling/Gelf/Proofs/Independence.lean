import Gelf.Proofs.Coupling
import Gelf.Proofs.Outlet
import Mathlib.Data.List.Forall2

/-!
# Gelf.Proofs.Independence

What a handler does does not hang on the reporter that it tells of its failures.

* `Alike`: two worlds that differ in nothing but the outlets in them.
* `Spoilt`: a report was made that one of two outlets does not take. `alike_coupling`: up to then two
  runs with these outlets go the same way.
* `visits_matched`: so do the steps of two runs, from worlds that are alike.
* `reporter_independent`: so do whole runs without such a report, from the making of the handler on.
-/

namespace Gelf

open Act

/-! ## Two outlets -/

/-- The worlds are the same but for the reporter and the error stream, which are those of one outlet
and of the other. -/
structure Alike (o o' : Outlet) (w v : World) : Prop extends Similar w v where
  reports : v.reports = w.reports
  history : v.history = w.history
  here : o.At w
  there : o'.At v

/-- A report was made that one of the outlets does not take. -/
def Spoilt (o o' : Outlet) (w : World) : Prop :=
  ∃ earlier r, earlier ++ [r] <+: w.reports ∧ ¬ (o.Takes earlier r ∧ o'.Takes earlier r)

variable {o o' : Outlet} {h : Hooks}

theorem Spoilt.grown {w w' : World} (hr : w.reports <+: w'.reports) (hs : Spoilt o o' w) :
    Spoilt o o' w' := by
  obtain ⟨earlier, r, hp, hn⟩ := hs
  exact ⟨earlier, r, hp.trans hr, hn⟩

theorem report_spoils (he : ∀ e w, Spoilt o o' w → Spoilt o o' ((h e).perform w).2) (r : Report)
    {w : World} (hs : Spoilt o o' w) : Spoilt o o' ((report h r).perform w).2 := by
  have hp : Along (.keeping (Spoilt o o')) (report h r) := along_report
    (fun w hs => ⟨hs.grown (List.prefix_append _ _), trivial⟩) (fun w hs => ⟨hs, trivial⟩)
    (fun w s hs => ⟨hs, trivial⟩) fun e w hs => ⟨he e w hs, trivial⟩
  exact (hp w hs).1

/-- A report that one of the outlets does not take spoils the world, whatever comes of it. -/
theorem report_untaken (he : ∀ e w, Spoilt o o' w → Spoilt o o' ((h e).perform w).2) {r : Report}
    {w : World} (hw : w.reporter ≠ .absent)
    (hn : ¬ (o.Takes w.reports r ∧ o'.Takes w.reports r)) :
    Spoilt o o' ((report h r).perform w).2 := by
  have hs : Spoilt o o' { w with reports := w.reports ++ [r] } :=
    ⟨w.reports, r, List.prefix_refl _, hn⟩
  obtain ⟨w', hk, hx | ⟨f, hx⟩⟩ := report_cases (P := .keeping (Spoilt o o'))
    (fun _ _ hs => ⟨hs, trivial⟩) (fun e w hs => ⟨he e w hs, trivial⟩) r hw
  · rw [hx]
    exact (hk hs).1
  · rw [hx]
    exact (hk hs).1

theorem coupled_report_outlets (ho : o.Civil) (ho' : o'.Civil)
    (he : ∀ e, CoupledUntil (Spoilt o o') (Alike o o') (h e) (h e)) (r : Report) :
    CoupledUntil (Spoilt o o') (Alike o o') (report h r) (report h r) := by
  have hspoils : ∀ e w, Spoilt o o' w → Spoilt o o' ((h e).perform w).2 := fun e => (he e).spoils
  refine ⟨fun w => report_spoils hspoils r, fun w v hc => ?_⟩
  by_cases ht : o.Takes w.reports r ∧ o'.Takes w.reports r
  · obtain ⟨t, hw⟩ := Outlet.perform_report_at (h := h) ho hc.here ht.1
    obtain ⟨t', hv⟩ := Outlet.perform_report_at (h := h) ho' hc.there (hc.reports ▸ ht.2)
    rw [hw, hv]
    exact .inr ⟨rfl, { hc with
      reports := congrArg (· ++ [r]) hc.reports
      here := ⟨hc.here.1, t, rfl⟩
      there := ⟨hc.there.1, t', rfl⟩ }⟩
  · exact .inl (report_untaken hspoils (hc.here.reporter ho) ht)

/-- Until a report is made that one of the outlets does not take, all that a handler does is the same
with either. -/
theorem alike_coupling (ho : o.Civil) (ho' : o'.Civil)
    (he : ∀ e, CoupledUntil (Spoilt o o') (Alike o o') (h e) (h e)) :
    CouplingUntil (Spoilt o o') (Alike o o') h h where
  similar hc := hc.toSimilar
  outside hc _ := { hc with outside := rfl }
  sender hc _ := { hc with sender := rfl }
  host hc _ := { hc with host := rfl }
  context hc _ := { hc with context := rfl }
  noted hc d := { hc with history := congrArg (· ++ [d]) hc.history }
  turned hc stage attached := { hc with
    handler := congrArg (fun k : Handler => { k with stage := stage, attached := attached })
      hc.handler
    history := congrArg (· ++ [Deed.turned stage attached]) hc.history }
  spoilt hr := Spoilt.grown (hr ▸ List.prefix_refl _)
  errand := he
  report := coupled_report_outlets ho ho' he

theorem alike_changing : CouplingUntil.Changing (Alike o o') :=
  fun _ _ f hc => { hc with handler := congrArg f hc.handler }

namespace Handler

/-- By induction on how deep errands are run inside errands. -/
theorem coupling_outlets (ho : o.Civil) (ho' : o'.Civil) (n : Nat) :
    CouplingUntil (Spoilt o o') (Alike o o') (hooks n) (hooks n) := by
  induction n with
  | zero => exact alike_coupling ho ho' fun _ => coupled_pure _
  | succ n ih =>
    refine alike_coupling ho ho' fun e => ?_
    cases e with
    | close => exact ih.close
    | log call =>
      refine coupled_get_bind (fun w => ?_) fun w v hc => by rw [hc.levels]
      refine coupled_bind (coupled_words ih.errand _) fun r => ?_
      exact coupled_discard (ih.handle alike_changing r)

/-! ## Runs -/

/-- The same step of two runs, with the same outcome, from worlds that are alike to such worlds. -/
structure Visit.Matches (o o' : Outlet) (a b : Visit) : Prop where
  before : Alike o o' a.before b.before
  step : b.step = a.step
  outcome : b.outcome = a.outcome
  after : Alike o o' a.after b.after

theorem coupled_step (ho : o.Civil) (ho' : o'.Civil) (n : Nat) (s : Step) :
    CoupledUntil (Spoilt o o') (Alike o o') (s.run (hooks n)) (s.run (hooks n)) := by
  have K := coupling_outlets ho ho' n
  cases s with
  | handle r => exact coupled_bind (K.handle alike_changing r) fun _ => coupled_pure _
  | flush => exact coupled_pure _
  | close => exact coupled_bind K.close fun _ => coupled_pure _

/-- By induction on the steps: what a step spoils stays so to the end. -/
theorem visits_matched (ho : o.Civil) (ho' : o'.Civil) (n : Nat) (steps : List Step) {w v : World}
    (hc : Alike o o' w v) (hs : ¬ Spoilt o o' (last (hooks n) steps w)) :
    List.Forall₂ (Visit.Matches o o') (visits (hooks n) steps w) (visits (hooks n) steps v) := by
  induction steps generalizing w v with
  | nil => exact .nil
  | cons s rest ih =>
    obtain hspoilt | ⟨hx, hc'⟩ := (coupled_step ho ho' n s).same w v hc
    · refine absurd (last_keeps (fun s w => ?_) hspoilt) hs
      exact (coupled_step ho ho' n s).spoils w
    · exact .cons ⟨hc, rfl, hx.symm, hc'⟩ (ih hc' hs)

/-- The world with the outlet's reporter and stream in it. -/
def fitted (o : Outlet) (w : World) : World :=
  { w with reporter := o.reporter, stream := o.stream "" }

theorem alike_fitted (w : World) : Alike o o' (fitted o w) (fitted o' w) :=
  ⟨⟨rfl, rfl, rfl, rfl, rfl, rfl, rfl⟩, rfl, rfl, ⟨rfl, "", rfl⟩, ⟨rfl, "", rfl⟩⟩

section Made

variable (o o' : Outlet) (c : Catalog) (base : Option Config) (settings : Named Value)
  (factory : Option Importable) (w : World)

/-- What comes of making a handler where this outlet is. -/
def made : Except Fault Unit × World :=
  (construct c base settings factory).perform (fitted o w)

/-- Of two handlers that are made alike, with one outlet and with another, and that go through the
same steps: if all reports that the first one makes, from its making on, are such that both outlets
take them, then both are made with the same outcome, and every step has the same outcome for both and
finds and leaves worlds that differ in nothing but the reporter and what is written on the error
stream. Events, deeds, messages, stages and reports are the same. -/
theorem reporter_independent {o o' : Outlet} (ho : o.Civil) (ho' : o'.Civil) (n : Nat)
    (steps : List Step)
    (ht : ∀ earlier r,
      earlier ++ [r] <+: (last (hooks n) steps (made o c base settings factory w).2).reports →
        o.Takes earlier r ∧ o'.Takes earlier r) :
    (made o' c base settings factory w).1 = (made o c base settings factory w).1 ∧
      Alike o o' (made o c base settings factory w).2 (made o' c base settings factory w).2 ∧
      List.Forall₂ (Visit.Matches o o') (visits (hooks n) steps (made o c base settings factory w).2)
        (visits (hooks n) steps (made o' c base settings factory w).2) := by
  have hs : ¬ Spoilt o o' (last (hooks n) steps (made o c base settings factory w).2) :=
    fun ⟨earlier, r, hp, hn⟩ => hn (ht earlier r hp)
  have K : CouplingUntil (Spoilt o o') (Alike o o') idle idle :=
    alike_coupling ho ho' fun _ => coupled_pure _
  obtain hspoilt | ⟨hx, hc⟩ := (K.construct alike_changing c base settings factory).same _ _
    (alike_fitted w)
  · refine absurd (last_keeps (fun s w => ?_) hspoilt) hs
    exact (coupled_step ho ho' n s).spoils w
  · exact ⟨hx.symm, hc, visits_matched ho ho' n steps hc hs⟩

end Made

/-- The first attempt to connect comes to nothing. -/
def unreachable : World :=
  { World.calm with outside := { Outside.calm with
    connects := [.error (.raised (.builtin "TimeoutError") [])] } }

/-- A handler for a host is made with the outlet. -/
def begun (host : String) (w : World) (o : Outlet) : World :=
  (made o ⟨[]⟩ none [("graylog_host", .str host)] none w).2

def calls : List Step := [.handle (.plainly (.str "app") (.str "hello")), .close]

/-- Two reports are made of a host that cannot be reached: what went wrong, and what is lost. -/
theorem reporter_independent_unreachable :
    (last (hooks 8) calls (begun "tcp:h" unreachable .exploding)).reports.length = 2 ∧
      List.Forall₂ (Visit.Matches .exploding .cutOff)
        (visits (hooks 8) calls (begun "tcp:h" unreachable .exploding))
        (visits (hooks 8) calls (begun "tcp:h" unreachable .cutOff)) := by
  have hbare : (last (hooks 8) calls (begun "tcp:h" unreachable .exploding)).reports.all
      (fun r => r.error.all Fault.bare) = true := by decide +kernel
  refine ⟨by decide +kernel, (reporter_independent ⟨[]⟩ none _ none unreachable Outlet.exploding_civil
    Outlet.cutOff_civil 8 calls fun earlier r hp => ?_).2.2⟩
  have hm := hp.subset (List.mem_append_right earlier List.mem_cons_self)
  have hr : ∀ f, r.error = some f → f.LegibleAll ∧
      f.text.Settled fun g => g.isA "Exception" = true ∧ g.LegibleAll := by
    intro f hf
    have hb := List.all_eq_true.mp hbare r hm
    rw [hf] at hb
    exact ⟨(legible_of_bare hb).1, (legible_of_bare hb).2 _⟩
  exact ⟨Outlet.takes_of_legible Outlet.exploding_civil Outlet.exploding_clear earlier hr,
    Outlet.takes_of_legible Outlet.cutOff_civil Outlet.cutOff_clear earlier hr⟩

/-- Where the last resort cannot tell what a report is of, the one who logs can tell a reporter that
fails from one that does not. -/
theorem untellable_tells_apart : Outlet.sound.Civil ∧ Outlet.exploding.Civil ∧
    (visit (hooks 8) (.handle untellable) (begun "h" .calm .sound)).fault? = none ∧
    (visit (hooks 8) (.handle untellable) (begun "h" .calm .exploding)).fault? =
      some (.builtin "AttributeError") :=
  ⟨Outlet.sound_civil, Outlet.exploding_civil, by decide +kernel, by decide +kernel⟩

end Handler

end Gelf
