import Gelf.Proofs.Run

/-!
# Gelf.Proofs.Fresh

Handlers that have just been made.

* `Constructed`: a world in which a handler has just been made, whatever its settings.
* `Constructed.fresh`: nothing has been done with it, and it has a reporter.
* `visits_idle`: how every step of a run finds it.
* `started`: a handler with settings to begin with.
-/

namespace Gelf

open Act

/-- Where errands come to nothing, a script comes to what it comes to if nothing is in its way. -/
theorem perform_words_idle {α : Type} (s : Script α) (w : World) :
    (words idle s).perform w = (s.quiet, w) := by
  induction s with
  | done a => rfl
  | fail f => rfl
  | ask q next ih => cases q <;> exact ih _

namespace Handler

/-- A handler has just been made, where nothing was done before and there is a reporter. -/
def Constructed (w : World) : Prop :=
  ∃ c base settings factory w₀, w₀.history = [] ∧ w₀.reporter ≠ .absent ∧
    (construct c base settings factory).perform w₀ = (.ok (), w)

/-- Nothing has been done with the handler. -/
structure Fresh (w : World) : Prop where
  stage : w.handler.stage = .uninitialized
  attached : w.handler.attached = false
  emitting : w.handler.emitting = false
  history : w.history = []
  reporter : w.reporter ≠ .absent

/-- History and reporter are as they were, and the handler is at the same stage. -/
def untouched : Passage where
  rel w w' := w'.history = w.history ∧ w'.reporter = w.reporter ∧
    w'.handler.stage = w.handler.stage ∧ w'.handler.attached = w.handler.attached ∧
    w'.handler.emitting = w.handler.emitting
  refl _ := ⟨rfl, rfl, rfl, rfl, rfl⟩
  trans h₁ h₂ := ⟨h₂.1.trans h₁.1, h₂.2.1.trans h₁.2.1, h₂.2.2.1.trans h₁.2.2.1,
    h₂.2.2.2.1.trans h₁.2.2.2.1, h₂.2.2.2.2.trans h₁.2.2.2.2⟩

theorem along_idle {P : Passage} (e : Errand) : Along P (idle e) := along_pure _

theorem report_ok_untouched {r : Report} {w w' : World}
    (h : (report idle r).perform w = (.ok (), w')) : untouched.rel w w' := by
  by_cases hr : w.reporter = .absent
  · rw [perform_report_absent hr] at h
    cases h
    exact untouched.refl _
  · obtain ⟨w₁, ht, hp | ⟨f, hp⟩⟩ := report_cases (P := untouched)
      (fun _ _ => ⟨rfl, rfl, rfl, rfl, rfl⟩) along_idle r hr
    · rw [hp] at h
      cases h
      exact untouched.trans ⟨rfl, rfl, rfl, rfl, rfl⟩ ht
    · rw [hp] at h
      cases h

theorem load_ok_untouched {c : Catalog} {kind : String} {path : Value} {w w' : World}
    {o : Option Importable} (h : (load c kind path).perform w = (.ok o, w')) :
    untouched.rel w w' := by
  unfold load at h
  split at h
  · cases h
    exact untouched.refl _
  · cases h
    exact untouched.refl _
  · split at h
    · obtain ⟨text, w₁, h₁, h⟩ := bind_ok h
      obtain ⟨_, w₂, h₂, h⟩ := bind_ok h
      cases h
      have hw := along_words (P := untouched) along_idle path.text w
      rw [h₁] at hw
      exact untouched.trans hw (report_ok_untouched h₂)
    · cases h

theorem along_makeFilter {P : Passage} (ho : ∀ w o, P.rel w { w with outside := o })
    (hc : ∀ w c, P.rel w { w with context := c }) (o : Importable) : Along P (makeFilter o) := by
  refine along_bind (along_words along_idle _) fun i => ?_
  cases i with
  | sender => exact along_bind (along_outward fun w => ho w _) fun _ => along_pure _
  | cleared => exact along_bind (along_modify fun w => hc w _) fun _ => along_pure _
  | nothing => exact along_pure _
  | other c rule closable => exact along_pure _

theorem along_makeFilter_untouched (o : Importable) : Along untouched (makeFilter o) :=
  along_makeFilter (P := untouched) (fun _ _ => ⟨rfl, rfl, rfl, rfl, rfl⟩)
    (fun _ _ => ⟨rfl, rfl, rfl, rfl, rfl⟩) o

theorem addFilter_ok_untouched {path : Value} {o : Importable} {w w' : World}
    (h : (addFilter path o).perform w = (.ok (), w')) : untouched.rel w w' := by
  unfold addFilter at h
  rw [perform_attempt_bind] at h
  have hm := along_makeFilter_untouched o w
  split at h
  · cases h
    exact untouched.trans hm ⟨rfl, rfl, rfl, rfl, rfl⟩
  · split at h
    · obtain ⟨text, w₁, h₁, h⟩ := bind_ok h
      have hw := along_words (P := untouched) along_idle path.text (((makeFilter o).perform w).2)
      rw [h₁] at hw
      exact untouched.trans hm (untouched.trans hw (report_ok_untouched h))
    · cases h

theorem chooseFactory_ok_untouched {c : Catalog} {path : Value} {w w' : World}
    (h : (chooseFactory c path).perform w = (.ok (), w')) : untouched.rel w w' := by
  unfold chooseFactory at h
  split at h
  · obtain ⟨loaded, w₁, h₁, h⟩ := bind_ok h
    cases h
    exact untouched.trans (load_ok_untouched h₁) ⟨rfl, rfl, rfl, rfl, rfl⟩
  · cases h
    exact untouched.refl _

theorem chooseFilter_ok_untouched {c : Catalog} {path : Value} {w w' : World}
    (h : (chooseFilter c path).perform w = (.ok (), w')) : untouched.rel w w' := by
  unfold chooseFilter at h
  split at h
  · obtain ⟨loaded, w₁, h₁, h⟩ := bind_ok h
    split at h
    · exact untouched.trans (load_ok_untouched h₁) (addFilter_ok_untouched h)
    · cases h
      exact load_ok_untouched h₁
  · cases h
    exact untouched.refl _

/-- Neither settings nor loaded classes get a new handler to do anything. -/
theorem Constructed.fresh {w : World} (hw : Constructed w) : Fresh w := by
  obtain ⟨c, base, settings, factory, w₀, hh, hr, h⟩ := hw
  unfold construct at h
  obtain ⟨_, w₁, h₁, h⟩ := bind_ok h
  obtain ⟨config, w₂, h₂, h⟩ := bind_ok h
  rw [perform_get_bind] at h
  obtain ⟨threshold, w₃, h₃, h⟩ := bind_ok h
  obtain ⟨_, w₄, h₄, h⟩ := bind_ok h
  have hs : untouched.rel w₀ w₃ := by
    have hn := along_ofExcept (P := untouched) (checkNames settings) w₀
    have hl := along_words (P := untouched) along_idle (layered base settings) w₁
    have hc := along_words (P := untouched) along_idle (w₂.levels.check (config.value .level)) w₂
    rw [h₁] at hn
    rw [h₂] at hl
    rw [h₃] at hc
    exact untouched.trans hn (untouched.trans hl hc)
  have he : untouched.rel w₄ w := by
    cases factory with
    | none =>
      obtain ⟨_, w₅, h₅, h⟩ := bind_ok h
      exact untouched.trans (chooseFactory_ok_untouched h₅) (chooseFilter_ok_untouched h)
    | some o => exact chooseFilter_ok_untouched h
  cases h₄
  obtain ⟨hh₁, hr₁, -⟩ := hs
  obtain ⟨hh₂, hr₂, hs₂, ha₂, he₂⟩ := he
  refine ⟨hs₂, ha₂, he₂, ?_, ?_⟩
  · rw [hh₂]
    exact hh₁.trans hh
  · rw [hr₂]
    exact fun ha => hr (hr₁.symm.trans ha)

theorem visits_idle {w : World} (hw : Constructed w) {n : Nat} {steps : List Step} {v : Visit}
    (hv : v ∈ visits (hooks n) steps w) :
    v.before.handler.emitting = false ∧ v.before.reporter ≠ .absent := by
  have hk := visits_keep (I := fun w => w.handler.emitting = false ∧ w.reporter ≠ .absent)
    (fun s w h => ⟨visit_idle n s h.1,
      fun ha => h.2 ((visit_steady n s w).reporter.symm.trans ha)⟩)
    ⟨hw.fresh.emitting, hw.fresh.reporter⟩ hv
  exact hk.1

/-! ## Handlers to begin with -/

/-- A world in which a handler is made with these settings. -/
def started (c : Catalog) (settings : Named Value) (w : World) : World :=
  ((construct c none settings none).perform w).2

theorem started_constructed {c : Catalog} {settings : Named Value} {w : World}
    (hh : w.history = []) (hr : w.reporter ≠ .absent)
    (hs : ((construct c none settings none).perform w).1 = .ok ()) :
    Constructed (started c settings w) := by
  refine ⟨c, none, settings, none, w, hh, hr, ?_⟩
  rw [← hs]
  rfl

theorem started_calm {c : Catalog} {settings : Named Value}
    (hs : ((construct c none settings none).perform .calm).1 = .ok ()) :
    Constructed (started c settings .calm) :=
  started_constructed rfl (by simp [World.calm, Reporter.silent]) hs

end Handler

/-- The record of a logging call with a logger's name and a message. -/
def Record.plainly (name message : Value) : Record :=
  ⟨plain ⟨name, .int 20, "/srv/app/worker.py", 42, .str "run", message, .tuple [], .null, .null,
    .int 0, []⟩ (.tuple []) (.str "INFO")⟩

/-- An object whose text may fail, and runs an errand first. -/
def Object.probe (failure : Option Fault) (errand : Option Errand) : Object :=
  ⟨"Probe", "probe", "<probe>", none, none, none, failure, errand⟩

end Gelf
