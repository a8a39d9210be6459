import Gelf.Proofs.Fresh

/-!
# Gelf.Proofs.Raising

Which faults reach the code that logged.

* `Reached`: what a new handler can be brought to by its owner and the code that logs.
  `Reached.idle`, `Reached.reporter`: it is never left busy, or without a reporter.
* `along_operation`: an operation goes along a passage that allows for what the handler's owner
  changes, if records and closing do.
* `hearing`: while one record is being processed, code of others lets no report fail that the
  record could not be made a message.
* `handle_returns_iff`: a record comes back without a fault if the filters and the level let it
  through without one, what its processing raises is ordinary, and the report of that does not fail.
-/

namespace Gelf

open Act

/-- The passage allows for what a handler's owner changes between two records. -/
structure Passage.Settable (P : Passage) : Prop where
  threshold : ∀ w v, P.rel w { w with handler := { w.handler with threshold := v } }
  layout : ∀ w l, P.rel w { w with handler := { w.handler with layout := l } }
  levels : ∀ w l, P.rel w { w with levels := l }
  context : ∀ w c, P.rel w { w with context := c }

namespace Handler

variable {n : Nat}

/-! ## Worlds that can be reached -/

/-- What a new handler can be brought to by any operations. -/
inductive Reached (n : Nat) : World → Prop
  | made {w : World} : Constructed w → Reached n w
  | after {w : World} (o : Operation) : Reached n w → Reached n ((o.run (hooks n)).perform w).2

/-- An operation goes along a passage that allows for such changes if records and closing do. -/
theorem along_operation {P : Passage} (S : P.Settable) (hh : ∀ e, Along P (hooks n e))
    (he : ∀ r, Along P (emit (hooks n) r)) (hc : Along P (close (hooks n))) (o : Operation) :
    Along P (o.run (hooks n)) := by
  have hset : ∀ {g : World → World} (_ : ∀ w, P.rel w (g w)) (x : Option Bool),
      Along P (modify g >>= fun _ => pure x) :=
    fun hg x => along_bind (along_modify hg) fun _ => along_pure x
  cases o with
  | handle call =>
    refine along_get_bind fun w => ?_
    refine along_bind (along_words hh _) (fun r => ?_) w
    exact along_bind (along_handle he r) fun _ => along_pure _
  | emit call =>
    refine along_get_bind fun w => ?_
    refine along_bind (along_words hh _) (fun r => ?_) w
    exact along_bind (he r) fun _ => along_pure _
  | close => exact along_bind hc fun _ => along_pure _
  | flush => exact along_pure _
  | setThreshold level =>
    refine along_get_bind fun w => ?_
    exact along_bind (along_words hh _) (fun _ => hset (fun w => S.threshold w _) none) w
  | setLayout text =>
    exact along_bind (along_ofExcept _) fun _ => hset (fun w => S.layout w _) none
  | setFormatter formatter => exact hset (fun w => S.layout w _) none
  | addLevel number name => exact hset (fun w => S.levels w _) none
  | putText key value =>
    exact along_bind (along_words hh _) fun _ => hset (fun w => S.context w _) none
  | removeText key => exact hset (fun w => S.context w _) none
  | clearTexts => exact hset (fun w => S.context w _) none
  | enterBlock values =>
    exact along_bind (along_words hh _) fun _ => hset (fun w => S.context w _) none
  | leaveBlock => exact hset (fun w => S.context w _) (some false)

/-- Only a record makes the handler busy, and not for long. -/
theorem along_operation_busy (o : Operation) : Along busyAsBefore (o.run (hooks n)) :=
  along_operation ⟨fun _ _ => rfl, fun _ _ => rfl, fun _ _ => rfl, fun _ _ => rfl⟩
    (along_hooks_busy n) (along_emit_busy (hooks n))
    (along_close broad_busyAsBefore.toDiscreet.modest (along_hooks_busy n) (along_hooks_closed n)) o

theorem along_operation_reporter (o : Operation) :
    Along (.keeping fun w => w.reporter ≠ .absent) (o.run (hooks n)) := by
  have hs : ∀ {w w' : World}, Steady w w' →
      (Passage.keeping fun w => w.reporter ≠ .absent).rel w w' :=
    fun h hp => ⟨fun ha => hp (h.reporter.symm.trans ha), trivial⟩
  have hh := along_hooks_steady n
  refine along_operation ⟨?_, ?_, ?_, ?_⟩ (fun e w => hs (hh e w)) (fun r w => ?_) (fun w => ?_) o
  · exact fun _ _ hp => ⟨hp, trivial⟩
  · exact fun _ _ hp => ⟨hp, trivial⟩
  · exact fun _ _ hp => ⟨hp, trivial⟩
  · exact fun _ _ hp => ⟨hp, trivial⟩
  · exact hs (full_steady.along_emit hh r w)
  · exact hs (along_close full_steady.toDiscreet.modest hh (along_hooks_closed n) w)

theorem Reached.idle {w : World} (hw : Reached n w) : w.handler.emitting = false := by
  induction hw with
  | made hw => exact hw.fresh.emitting
  | after o _ ih => exact (along_operation_busy o _).trans ih

theorem Reached.reporter {w : World} (hw : Reached n w) : w.reporter ≠ .absent := by
  induction hw with
  | made hw => exact hw.fresh.reporter
  | after o _ ih => exact (along_operation_reporter o _ ih).1

/-! ## Reports that fail -/

/-- Among these deeds is no report that failed to tell that a message could not be built. -/
def Heard (ds : List Deed) : Prop := ∀ r, Deed.escaped r ∈ ds → r.message ≠ notBuilt

theorem heard_nil : Heard [] := by simp [Heard]

theorem Heard.append {ds ds' : List Deed} (h : Heard ds) (h' : Heard ds') : Heard (ds ++ ds') := by
  intro r hr
  cases List.mem_append.mp hr with
  | inl hr => exact h r hr
  | inr hr => exact h' r hr

/-- A busy handler stays busy, and the reports that fail have another cause. -/
def hearing : Passage := Passage.within Busy {
  rel := fun w w' => ∃ ds, w'.history = w.history ++ ds ∧ Heard ds
  refl := fun w => ⟨[], (List.append_nil _).symm, heard_nil⟩
  trans := by
    rintro w₁ w₂ w₃ ⟨ds, h, hd⟩ ⟨ds', h', hd'⟩
    exact ⟨ds ++ ds', by rw [h', h, List.append_assoc], hd.append hd'⟩ }

theorem hearing_same {w w' : World} (hb : Busy w → Busy w') (hh : w'.history = w.history) :
    hearing.rel w w' := fun h => ⟨hb h, [], by rw [hh, List.append_nil], heard_nil⟩

theorem hearing_noted {w : World} {d : Deed} (hd : Heard [d]) : hearing.rel w (w.noted d) :=
  fun h => ⟨h, [d], rfl, hd⟩

theorem heard_one {d : Deed} (hd : ∀ r, d = .escaped r → r.message ≠ notBuilt) : Heard [d] :=
  fun r hr => hd r (List.mem_singleton.mp hr).symm

theorem isLoss_ne {r : Report} (hr : r.isLoss = false) : r.message ≠ notBuilt := by
  intro h
  rw [Report.isLoss, h] at hr
  exact absurd hr (by decide)

theorem broad_hearing : hearing.Broad where
  told _ _ _ := hearing_same id rfl
  escaped _ _ hr := hearing_noted (heard_one fun _ h => by cases h; exact isLoss_ne hr)
  written _ _ := hearing_same id rfl
  retired w _ hb := by
    refine ⟨(retire_emitting w).trans hb, ?_⟩
    obtain ⟨o, s, -, h⟩ := outermost_retire w
    rw [h, retired]
    split
    · refine ⟨[.turned .closed false] ++ [.closing], ?_, ?_⟩
      · exact List.append_assoc w.history [.turned .closed false] [.closing]
      · exact Heard.append (heard_one (by simp)) (heard_one (by simp))
    · exact ⟨[.turned .closed false], rfl, heard_one (by simp)⟩
  closed _ _ := hearing_noted (heard_one (by simp))
  looked _ := hearing_same id rfl
  outside _ _ := hearing_same id rfl
  sender _ _ _ := hearing_same id rfl
  host _ _ := hearing_same id rfl
  context _ _ := hearing_same id rfl
  opening _ := hearing_noted (heard_one (by simp))
  connected _ := hearing_noted (heard_one (by simp))
  encoded _ _ := hearing_noted (heard_one (by simp))
  ready _ _ hb := ⟨hb, _, rfl, heard_one (by simp)⟩
  lost _ _ _ := hearing_same id rfl
  unheard _ _ hr := hearing_noted (heard_one fun _ h => by cases h; exact hr)
  sending _ _ := hearing_noted (heard_one (by simp))
  sent _ _ := hearing_noted (heard_one (by simp))

theorem along_hooks_hearing (n : Nat) (e : Errand) : Along hearing (hooks n e) :=
  along_hooks broad_hearing.toDiscreet.modest
    (fun _ _ r => along_handle_deaf (fun _ hb => .inl hb) r) n e

theorem report_notBuilt (f : Fault) {w : World} (hb : Busy w) :
    ∃ ds, ((report (hooks n) ⟨notBuilt, some f, .formatting⟩).perform w).2.history =
        w.history ++ ds ∧
      ((∃ u, ((report (hooks n) ⟨notBuilt, some f, .formatting⟩).perform w).1 = .ok u) ↔
        Heard ds) := by
  by_cases hp : w.reporter = .absent
  · rw [perform_report_absent hp]
    exact ⟨[], (List.append_nil _).symm, fun _ => heard_nil, fun _ => ⟨_, rfl⟩⟩
  · let r : Report := ⟨notBuilt, some f, .formatting⟩
    obtain ⟨w', hq, hx⟩ := report_cases broad_hearing.written (along_hooks_hearing n) r hp
    obtain ⟨-, ds, hds, hd⟩ := hq hb
    obtain hx | ⟨g, hx⟩ := hx
    · rw [hx]
      exact ⟨ds, hds, fun _ => hd, fun _ => ⟨_, rfl⟩⟩
    · rw [hx]
      refine ⟨ds ++ [.escaped r], ?_, ?_, ?_⟩
      · rw [World.noted_history, hds, List.append_assoc]
      · rintro ⟨_, h⟩
        cases h
      · intro h
        exact absurd rfl (h r (List.mem_append_right _ (List.mem_singleton_self _)))

/-! ## What the code that logged gets to see -/

/-- Processing with reports comes back if nothing but an ordinary fault ends the processing and its
report does not fail. -/
theorem processReported_returns (r : Record) {w : World} (hb : Busy w) :
    ∃ ds, ((processReported (hooks n) r).perform w).2.history = w.history ++ ds ∧
      ((∃ u, ((processReported (hooks n) r).perform w).1 = .ok u) ↔
        Ordinary ((process (hooks n) r).perform w).1 ∧ Heard ds) := by
  obtain ⟨hb', ds, hds, hd⟩ := broad_hearing.along_process (along_hooks_hearing n) r w hb
  rw [perform_processReported]
  generalize (process (hooks n) r).perform w = p at *
  obtain ⟨x, w'⟩ := p
  cases x with
  | ok u => exact ⟨ds, hds, fun _ => ⟨nofun, hd⟩, fun _ => ⟨_, rfl⟩⟩
  | error f =>
    dsimp only
    split
    · rename_i hf
      exact ⟨ds, hds, nofun, fun h => absurd h.1 (not_ordinary hf)⟩
    · rename_i hf
      obtain ⟨ds', hds', hreport⟩ := report_notBuilt (n := n) f hb'
      refine ⟨ds ++ ds', ?_, ?_⟩
      · rw [hds', hds, List.append_assoc]
      · rw [hreport]
        constructor
        · intro h
          exact ⟨ordinary hf, hd.append h⟩
        · rintro ⟨-, h⟩ r hr
          exact h r (List.mem_append_right _ hr)

theorem emit_returns (r : Record) {w : World} (hi : w.handler.emitting = false) :
    ∃ ds, ((emit (hooks n) r).perform w).2.history = w.history ++ ds ∧
      ((∃ u, ((emit (hooks n) r).perform w).1 = .ok u) ↔
        ∃ below, belowLevel w r = .ok below ∧ (below = false → ¬ Closed w →
          Ordinary ((process (hooks n) r).perform (setEmitting true w)).1 ∧ Heard ds)) := by
  rw [perform_emit]
  cases hb : belowLevel w r with
  | error f =>
    refine ⟨[], (List.append_nil _).symm, nofun, ?_⟩
    rintro ⟨_, h, -⟩
    cases h
  | ok below =>
    cases below with
    | true =>
      refine ⟨[], (List.append_nil _).symm, fun _ => ⟨true, rfl, nofun⟩, fun _ => ⟨_, rfl⟩⟩
    | false =>
      dsimp only
      by_cases hc : Closed w
      · rw [if_pos (.inr hc)]
        refine ⟨[], (List.append_nil _).symm, fun _ => ⟨false, rfl, ?_⟩, fun _ => ⟨_, rfl⟩⟩
        exact fun _ hn => absurd hc hn
      · have hd : ¬ Deaf w := fun hd => hd.elim (fun he => by simp [hi] at he) hc
        rw [if_neg hd]
        obtain ⟨ds, hds, hreturns⟩ := processReported_returns (n := n) r
          (w := setEmitting true w) rfl
        refine ⟨ds, hds, ?_⟩
        rw [hreturns]
        constructor
        · intro h
          exact ⟨false, rfl, fun _ _ => h⟩
        · rintro ⟨_, ⟨⟩, h⟩
          exact h rfl hc

/-- The step's record comes back: the filters answer without a fault, and so does the comparison of
levels if they accept the record; if it is processed, nothing but an ordinary fault ends that, and
no report of it fails. -/
def Visit.Sheltered (h : Hooks) (v : Visit) (r : Record) : Prop :=
  ∃ accepted r', runFilters r v.before.handler.filters = .ok (accepted, r') ∧ (accepted = true →
    ∃ below, belowLevel v.before r' = .ok below ∧ (below = false → ¬ Closed v.before →
      Ordinary ((process h r').perform v.busy).1 ∧ Heard v.deeds))

theorem handle_returns_iff {w : World} (hw : Reached n w) (r : Record) {v : Visit}
    (hv : v = visit (hooks n) (.handle r) w) :
    ((∃ x, v.outcome = .ok x) ↔ v.Sheltered (hooks n) r) ∧
      ∀ f, runFilters r w.handler.filters = .error f → v.outcome = .error f := by
  have hi := hw.idle
  unfold Visit.Sheltered Visit.busy
  rw [visit_handle, perform_handle] at hv
  cases hf : runFilters r w.handler.filters with
  | error f =>
    rw [hf] at hv
    subst hv
    refine ⟨⟨nofun, ?_⟩, ?_⟩
    · rintro ⟨_, _, h, -⟩
      exact absurd (hf.symm.trans h) nofun
    · rintro _ ⟨⟩
      rfl
  | ok pair =>
    obtain ⟨accepted, r'⟩ := pair
    rw [hf] at hv
    refine ⟨?_, nofun⟩
    cases accepted with
    | false =>
      subst hv
      exact ⟨fun _ => ⟨false, r', hf, nofun⟩, fun _ => ⟨_, rfl⟩⟩
    | true =>
      obtain ⟨ds, hds, hreturns⟩ := emit_returns (n := n) r' hi
      have hdeeds : v.deeds = ds := by
        subst hv
        exact (congrArg (List.drop w.history.length) hds).trans List.drop_left
      have hv₁ : v.before = w := by rw [hv]
      have hv₂ : (∃ x, v.outcome = .ok x) ↔ ∃ u, ((emit (hooks n) r').perform w).1 = .ok u := by
        subst hv
        dsimp only
        cases ((emit (hooks n) r').perform w).1 with
        | ok u => exact ⟨fun _ => ⟨u, rfl⟩, fun _ => ⟨_, rfl⟩⟩
        | error f => exact ⟨nofun, nofun⟩
      rw [hv₂, hreturns, hv₁, hdeeds, hf]
      constructor
      · intro h
        exact ⟨true, r', rfl, fun _ => h⟩
      · rintro ⟨_, _, ⟨⟩, h⟩
        exact h rfl

theorem handle_returns_iff_calm :
    Reached 8 (started ⟨[]⟩ [("graylog_host", .str "h")] .calm) ∧
      ((∃ x, (visit (hooks 8) (.handle (.plainly (.str "app") (.str "hello")))
          (started ⟨[]⟩ [("graylog_host", .str "h")] .calm)).outcome = .ok x) ↔
        (visit (hooks 8) (.handle (.plainly (.str "app") (.str "hello")))
          (started ⟨[]⟩ [("graylog_host", .str "h")] .calm)).Sheltered (hooks 8)
            (.plainly (.str "app") (.str "hello"))) := by
  have hw : Reached 8 (started ⟨[]⟩ [("graylog_host", .str "h")] .calm) :=
    .made (started_calm rfl)
  exact ⟨hw, (handle_returns_iff hw _ rfl).1⟩

def brittle : Catalog :=
  ⟨[{ name := "probes", isPackage := false, members := [("Broken", .callable "Broken"
    (.done (.other "Broken" (.fail (.raised (.builtin "RuntimeError") [.str "filter broke"]))
      false)))] }]⟩

def filtered : World :=
  started brittle [("graylog_host", .str "h"), ("filter_class", .str "probes.Broken")] .calm

/-- What the filter raises reaches the code that logged. -/
theorem filtered_raises :
    Reached 8 filtered ∧
      (Record.plainly (.str "app") (.str "hello")).get "levelno" = .ok (.int 20) ∧
      (visit (hooks 8) (.handle (.plainly (.str "app") (.str "hello"))) filtered).fault? =
        some (.builtin "RuntimeError") := by
  refine ⟨.made (started_calm rfl), rfl, ?_⟩
  decide +kernel

end Handler

end Gelf
