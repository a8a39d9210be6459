import Gelf.Proofs.Accounting
import Gelf.Proofs.Finality

/-!
# Gelf.Proofs.Opening

What becomes of a message for which no sender can be got.

* `create`: what a handler does to get a sender, and no more.
* `Caught`: the handler reports this fault as a failure to open its sender. Over a host that is so of
  system errors only.
* `ensureSender_made`, `ensureSender_missed`: what is done besides, noting and reporting.
* `Telling`, `Tells`: on the way from one world to another just these major reports were made, and
  nothing else happened to the handler; unless it was closed or a report failed for good.
* `Visit.Attempts`: the record of a step became a message, and this came of getting a sender for it.
* `opening_failures`: over every run, what is reported of a failed attempt, and that there is another
  one until one succeeds.
-/

namespace Gelf

open Act

/-- The handler is closed, or a report has failed for good. -/
def Deed.disturbs : Deed → Bool
  | .escaped _ => true
  | d => d.ends

/-- The reports so far that there is no sender, or that a message is lost. -/
def World.majors (w : World) : List Report := w.reports.filter Report.isMajor

/-! ## Classes of system errors -/

theorem ancestors_cases {p : List String → Prop} (hl : ∀ e ∈ FaultKind.lineage, p e.2)
    (ho : p ["Exception", "BaseException"]) (hs : p ["OSError", "Exception", "BaseException"])
    (k : FaultKind) : p k.ancestors := by
  cases k with
  | builtin name =>
    show p ((FaultKind.lineage.lookup name).getD ["Exception", "BaseException"])
    cases h : FaultKind.lineage.lookup name with
    | none => exact ho
    | some above =>
      obtain ⟨l₁, l₂, he, -⟩ := List.lookup_eq_some_iff.mp h
      refine hl (name, above) ?_
      rw [he]
      exact List.mem_append_right _ List.mem_cons_self
  | addressLookup => exact hs
  | own home name => exact ho

theorem system_of_connection {f : Fault} (h : f.isA "ConnectionError" = true) :
    f.isA "OSError" = true := by
  have ha : f.kind.ancestors.contains "ConnectionError" = true →
      f.kind.ancestors.contains "OSError" = true :=
    ancestors_cases (p := fun above => above.contains "ConnectionError" = true →
      above.contains "OSError" = true) (by decide) (by decide) (by decide) f.kind
  unfold Fault.isA FaultKind.isA at h ⊢
  rw [Bool.or_eq_true] at h ⊢
  rcases h with h | h
  · rw [eq_of_beq h]
    decide
  · exact .inr (ha h)

theorem ordinary_of_system {f : Fault} (h : f.isA "OSError" = true) :
    f.isA "Exception" = true := by
  have ha : f.kind.ancestors.contains "OSError" = true →
      f.kind.ancestors.contains "Exception" = true :=
    ancestors_cases (p := fun above => above.contains "OSError" = true →
      above.contains "Exception" = true) (by decide) (by decide) (by decide) f.kind
  unfold Fault.isA FaultKind.isA at h ⊢
  rw [Bool.or_eq_true] at h ⊢
  rcases h with h | h
  · rw [eq_of_beq h]
    decide
  · exact .inr (ha h)

namespace Handler

/-! ## Getting a sender -/

/-- Makes a sender with the factory, if there is one, or opens one for the configured host. -/
def create (h : Hooks) (k : Handler) : Act Bool :=
  match k.factory with
  | some factory => callFactory h factory
  | none => do
    Sender.openFor h (k.config.value .host) (k.config.value .port) (k.config.value .timeout)
    return true

/-- The handler has a factory, or the name of a host with a port that can be written out. -/
def Dialable (k : Handler) : Prop :=
  k.factory.isSome = true ∨ ∃ name n, name ≠ "" ∧ k.config.value .host = .str name ∧
    k.config.value .port = .int n ∧ n.natAbs < intLimit

/-- Is this fault reported as a failure to open the sender? -/
def Caught (k : Handler) (f : Fault) : Prop :=
  f.isA (if k.factory.isSome then "Exception" else "OSError") = true

instance (k : Handler) (f : Fault) : Decidable (Caught k f) := inferInstanceAs (Decidable (_ = _))

variable {h : Hooks} {w w' : World}

/-- System errors are reported, each with a text of its own, and no other faults. -/
theorem openingReport_plain (name : String) {n : Int} (hn : n.natAbs < intLimit) (f : Fault) :
    ∃ text, openingReport (.str name) (.int n) f =
      .done (if f.isA "OSError" = true then some ⟨text, some f, .opening⟩ else none) := by
  unfold openingReport
  split
  · rename_i hk
    have hs : f.isA "OSError" = true := by
      rw [Fault.isA, eq_of_beq hk]
      decide
    refine ⟨"Unknown GELF hostname: " ++ name, ?_⟩
    rw [if_pos hs]
    rfl
  · split
    · rename_i hc
      have hp : (Value.int n).text = .done (toString n) := by
        simp [Value.text, Value.quoted, intText, hn, Script.ofExcept]
      refine ⟨"Could not connect to GELF host " ++ name ++ ":" ++ toString n, ?_⟩
      rw [if_pos (system_of_connection hc), hp]
      rfl
    · split
      · exact ⟨_, rfl⟩
      · exact ⟨"", rfl⟩

theorem ensureSender_made (hd : Dialable w.handler) (ha : w.handler.attached = false) {made : Bool}
    (hr : (create h w.handler).perform (w.noted .opening) = (.ok made, w')) :
    (ensureSender h).perform w = (.ok made, w'.turned .ready made) := by
  unfold ensureSender
  rw [perform_get_bind]
  dsimp only
  rw [ha, if_neg Bool.false_ne_true]
  unfold create at hr
  cases hf : w.handler.factory with
  | some factory =>
    rw [hf] at hr
    dsimp only at hr ⊢
    unfold openByFactory
    rw [perform_note_bind, perform_attempt_bind, hr]
    cases made <;> rfl
  | none =>
    rw [hf] at hr
    dsimp only at hr ⊢
    obtain ⟨name, n, hne, hhost, -⟩ := hd.resolve_left (by simp [hf])
    have ht : (w.handler.config.value .host).truthy = true := by
      simp [hhost, Value.truthy, hne]
    rw [if_pos ht]
    obtain ⟨x, v, ho, hv⟩ := bind_ok hr
    cases hv
    unfold openByHost
    rw [perform_note_bind, perform_attempt_bind, ho]
    rfl

theorem openByFactory_missed {factory : Importable} {f : Fault}
    (hr : (callFactory h factory).perform (w.noted .opening) = (.error f, w')) :
    (openByFactory h factory).perform w = if f.isA "Exception" = true
      then (report h ⟨"Could not create GELF sender", some f, .opening⟩ >>= fun _ =>
        pure false).perform w'
      else (.error f, w') := by
  unfold openByFactory
  rw [perform_note_bind, perform_attempt_bind, hr]
  dsimp only
  split
  · rfl
  · rfl

theorem openByHost_missed {name : String} {n : Int} (hn : n.natAbs < intLimit) {timeout : Value}
    {f : Fault} (ho : (Sender.openFor h (.str name) (.int n) timeout).perform (w.noted .opening) =
      (.error f, w')) :
    ∃ text, (openByHost h (.str name) (.int n) timeout).perform w = if f.isA "OSError" = true
      then (report h ⟨text, some f, .opening⟩ >>= fun _ => pure false).perform w'
      else (.error f, w') := by
  obtain ⟨text, hrep⟩ := openingReport_plain name hn f
  refine ⟨text, ?_⟩
  unfold openByHost
  rw [perform_note_bind, perform_attempt_bind, ho]
  dsimp only
  rw [hrep, perform_bind, perform_during]
  by_cases hs : f.isA "OSError" = true
  · rw [if_pos hs, if_pos hs]
    rfl
  · rw [if_neg hs, if_neg hs]
    rfl

/-- A fault that is not caught goes on, and one that is caught is reported. -/
theorem ensureSender_missed (hd : Dialable w.handler) (ha : w.handler.attached = false) {f : Fault}
    (hr : (create h w.handler).perform (w.noted .opening) = (.error f, w')) :
    ∃ text, (ensureSender h).perform w = if Caught w.handler f
      then (report h ⟨text, some f, .opening⟩ >>= fun _ => pure false).perform w'
      else (.error f, w') := by
  unfold ensureSender
  rw [perform_get_bind]
  dsimp only
  rw [ha, if_neg Bool.false_ne_true]
  unfold create at hr
  cases hf : w.handler.factory with
  | some factory =>
    rw [hf] at hr
    have hc : Caught w.handler f ↔ f.isA "Exception" = true := by
      simp [Caught, hf]
    simp only [hc]
    exact ⟨_, openByFactory_missed hr⟩
  | none =>
    rw [hf] at hr
    dsimp only at hr ⊢
    obtain ⟨name, n, hne, hhost, hport, hn⟩ := hd.resolve_left (by simp [hf])
    have ht : (w.handler.config.value .host).truthy = true := by
      simp [hhost, Value.truthy, hne]
    have hc : Caught w.handler f ↔ f.isA "OSError" = true := by
      simp [Caught, hf]
    rw [if_pos ht, hhost, hport]
    rw [hhost, hport] at hr
    simp only [hc]
    obtain ho | ⟨_, _, -, ho⟩ := bind_error hr
    · exact openByHost_missed hn ho
    · cases ho

/-! ## Reports on the way -/

/-- Just these major reports were made, and nothing else happened to the handler. -/
structure Telling (rs : List Report) (w w' : World) : Prop where
  handler : w'.handler = w.handler
  reporter : w'.reporter = w.reporter
  majors : w'.majors = w.majors ++ rs
  sendings : w'.sendings = w.sendings

theorem Telling.trans {rs ss : List Report} {w₁ w₂ w₃ : World} (h₁ : Telling rs w₁ w₂)
    (h₂ : Telling ss w₂ w₃) : Telling (rs ++ ss) w₁ w₃ where
  handler := h₂.handler.trans h₁.handler
  reporter := h₂.reporter.trans h₁.reporter
  majors := by rw [h₂.majors, h₁.majors, List.append_assoc]
  sendings := h₂.sendings.trans h₁.sendings

theorem Telling.hushed {rs : List Report} {w₁ w₂ w₃ : World} (h₁ : Telling rs w₁ w₂)
    (h₂ : Telling [] w₂ w₃) : Telling rs w₁ w₃ := by
  have h := h₁.trans h₂
  rwa [List.append_nil] at h

/-- No major report was made. -/
def telling : Passage where
  rel := Telling []
  refl _ := ⟨rfl, rfl, (List.append_nil _).symm, rfl⟩
  trans := Telling.trans

/-- So much was told, unless something disturbed it. What was answered may hang on that, too. -/
def Tells (rs : List Report) (answered : Prop) (w w' : World) : Prop :=
  ∃ ds, w'.history = w.history ++ ds ∧
    ((∀ d ∈ ds, d.disturbs = false) → answered ∧ Telling rs w w')

theorem Tells.mono {rs : List Report} {p q : Prop} {w₁ w₂ : World} (h : Tells rs p w₁ w₂)
    (hpq : p → q) : Tells rs q w₁ w₂ := by
  obtain ⟨ds, hh, ht⟩ := h
  exact ⟨ds, hh, fun hc => ⟨hpq (ht hc).1, (ht hc).2⟩⟩

theorem Tells.trans {rs ss : List Report} {p q : Prop} {w₁ w₂ w₃ : World} (h₁ : Tells rs p w₁ w₂)
    (h₂ : Tells ss q w₂ w₃) : Tells (rs ++ ss) (p ∧ q) w₁ w₃ := by
  obtain ⟨ds₁, hh₁, t₁⟩ := h₁
  obtain ⟨ds₂, hh₂, t₂⟩ := h₂
  refine ⟨ds₁ ++ ds₂, by rw [hh₂, hh₁, List.append_assoc], fun hc => ?_⟩
  rw [List.forall_mem_append] at hc
  obtain ⟨ha₁, ht₁⟩ := t₁ hc.1
  obtain ⟨ha₂, ht₂⟩ := t₂ hc.2
  exact ⟨⟨ha₁, ha₂⟩, ht₁.trans ht₂⟩

/-- What is told later may count on nothing having disturbed what came before. -/
theorem Tells.after {rs ss : List Report} {p q : Prop} {w₁ w₂ w₃ : World} (h₁ : Tells rs p w₁ w₂)
    (hs : w₂.history <+: w₃.history) (h₂ : p → Telling rs w₁ w₂ → Tells ss q w₂ w₃) :
    Tells (rs ++ ss) q w₁ w₃ := by
  obtain ⟨ds, hh, ht⟩ := h₁
  obtain ⟨es, hes⟩ := hs
  refine ⟨ds ++ es, by rw [← hes, hh, List.append_assoc], fun hc => ?_⟩
  rw [List.forall_mem_append] at hc
  obtain ⟨hp, ht₁⟩ := ht hc.1
  obtain ⟨es', hes', ht₂⟩ := h₂ hp ht₁
  rw [← hes] at hes'
  obtain rfl := List.append_cancel_left hes'
  exact ⟨(ht₂ hc.2).1, ht₁.trans (ht₂ hc.2).2⟩

/-- While a record is being processed, no major report is made, unless something disturbs it. -/
def hushed : Passage := (telling.barring Deed.disturbs).within Busy

theorem hushed_same {w w' : World} (ht : Telling [] w w') (hh : w'.history = w.history) :
    hushed.rel w w' := by
  intro hb
  refine ⟨?_, Passage.barring_same hh ht⟩
  rw [Busy, ht.handler]
  exact hb

theorem hushed_noted (w : World) {d : Deed} (hm : d.message? = none) : hushed.rel w (w.noted d) := by
  intro hb
  refine ⟨hb, Passage.barring_noted fun _ => ⟨rfl, rfl, (List.append_nil _).symm, ?_⟩⟩
  rw [World.sendings, World.noted_history, List.filterMap_append, List.filterMap_cons_none hm]
  exact List.append_nil _

theorem preparing_hushed : hushed.Preparing where
  told w r hr := hushed_same ⟨rfl, rfl, by simp [World.majors, hr], rfl⟩ rfl
  escaped w r _ hb := ⟨hb, Passage.barring_noted fun hd => by cases hd⟩
  written w s := hushed_same ⟨rfl, rfl, (List.append_nil _).symm, rfl⟩ rfl
  retired w _ hb := by
    obtain ⟨ds, hh, ⟨d, hm, he⟩, -⟩ := retire_history w
    refine ⟨(retire_emitting w).trans hb, ds, hh, fun hc => ?_⟩
    have hd := hc d hm
    cases d with
    | escaped r => cases he
    | _ => cases he.symm.trans hd
  closed w _ hb := ⟨hb, Passage.barring_noted fun hd => by cases hd⟩
  looked w := hushed_same ⟨rfl, rfl, (List.append_nil _).symm, rfl⟩ rfl
  host w n := hushed_same ⟨rfl, rfl, (List.append_nil _).symm, rfl⟩ rfl

variable {n : Nat}

theorem along_hooks_hushed (n : Nat) (e : Errand) : Along hushed (hooks n e) :=
  along_hooks preparing_hushed.toModest
    (fun _ _ r => along_handle_deaf (fun _ hb => .inl hb) r) n e

/-- A report is made, and then nothing fails unless that is noted. -/
theorem report_tells (r : Report) (hb : Busy w) (hp : w.reporter ≠ .absent) :
    Tells ([r].filter Report.isMajor) (((report (hooks n) r).perform w).1 = .ok ()) w
      ((report (hooks n) r).perform w).2 := by
  obtain ⟨w', hq, hx⟩ := report_cases preparing_hushed.written (along_hooks_hushed n) r hp
  obtain ⟨-, ds, hh, hs⟩ := hq hb
  have hr : Telling ([r].filter Report.isMajor) w { w with reports := w.reports ++ [r] } := by
    refine ⟨rfl, rfl, ?_, rfl⟩
    unfold World.majors
    rw [List.filter_append]
  obtain hx | ⟨f, hx⟩ := hx
  · rw [hx]
    exact ⟨ds, hh, fun hc => ⟨rfl, hr.hushed (hs hc)⟩⟩
  · rw [hx]
    refine ⟨ds ++ [.escaped r], ?_, fun hc => ?_⟩
    · rw [World.noted_history, hh, List.append_assoc]
    · have he := hc (.escaped r) (List.mem_append_right _ List.mem_cons_self)
      cases he

theorem wire_hushed : hushed.Wire where
  outside _ _ := hushed_same ⟨rfl, rfl, (List.append_nil _).symm, rfl⟩ rfl
  sender _ _ _ := hushed_same ⟨rfl, rfl, (List.append_nil _).symm, rfl⟩ rfl
  connected w := hushed_noted w rfl
  encoded w _ := hushed_noted w rfl

theorem along_create {P : Passage} (W : P.Wire) (hc : ∀ w c, P.rel w { w with context := c })
    (hh : ∀ e, Along P (h e)) (k : Handler) : Along P (create h k) := by
  unfold create
  cases k.factory with
  | some factory => exact W.along_callFactory hc (along_words hh _)
  | none =>
    refine along_bind (W.along_openFor (fun _ => ?_) (fun _ => ?_) _ _) fun _ => along_pure _
    · exact W.along_logLine hh _ _ _
    · exact W.along_logLine hh _ _ _

/-- While a sender is made no major report is, unless something disturbs it. -/
theorem create_tells (n : Nat) (k : Handler) (hb : Busy w) :
    Tells [] True w ((create (hooks n) k).perform (w.noted .opening)).2 := by
  have hc : Along hushed (create (hooks n) k) := along_create wire_hushed
    (fun _ _ => hushed_same ⟨rfl, rfl, (List.append_nil _).symm, rfl⟩ rfl) (along_hooks_hushed n) k
  have hopening : hushed.rel w (w.noted .opening) := hushed_noted w rfl
  obtain ⟨-, ds, hh, ht⟩ := hushed.trans hopening (hc _) hb
  exact ⟨ds, hh, fun hd => ⟨trivial, ht hd⟩⟩

theorem create_steady (n : Nat) (k : Handler) (w : World) :
    Steady w ((create (hooks n) k).perform w).2 :=
  along_create full_steady.toWire full_steady.context (along_hooks_steady n) k w

theorem create_busy (n : Nat) (k : Handler) (hb : Busy w) :
    Busy ((create (hooks n) k).perform w).2 :=
  (along_create broad_busyAsBefore.toWire broad_busyAsBefore.context (along_hooks_busy n) k w).trans hb

/-! ## One record -/

/-- The report of a message for which there is no sender. -/
def dropped : Report := ⟨noSender, none, .writing⟩

/-- The major reports that follow a failed attempt to get a sender. -/
def verdict (k : Handler) (f : Fault) (text : String) : List Report :=
  if Caught k f then [⟨text, some f, .opening⟩, dropped]
  else if f.isA "RecursionError" = true ∨ f.isA "Exception" = false then []
  else [⟨notBuilt, some f, .formatting⟩]

theorem report_steady (n : Nat) (r : Report) (w : World) :
    Steady w ((report (hooks n) r).perform w).2 :=
  Gelf.along_report (fun w => full_steady.reported w r) (fun w => full_steady.failed w r)
    full_steady.written (along_hooks_steady n) w

theorem report_busy (n : Nat) (r : Report) (hb : Busy w) :
    Busy ((report (hooks n) r).perform w).2 :=
  (Gelf.along_report (P := busyAsBefore) (fun _ => rfl) (fun _ => rfl) (fun _ _ => rfl)
    (along_hooks_busy n) w).trans hb

theorem perform_deliver_open (hc : ¬ Closed w) (m : Message) : (deliver h m).perform w =
    (ensureSender h >>= fun found => if found = true
      then (do
        Act.note (.sending m)
        let outcome ← Act.attempt (Sender.send h m)
        Act.note (.sent outcome)
        match outcome with
        | .ok sent => if !sent.truthy then report h ⟨notSent, none, .writing⟩
        | .error f =>
          if f.isA "Exception" then report h ⟨notSent, some f, .writing⟩ else Act.fault f)
      else report h dropped).perform w := by
  rw [Closed] at hc
  unfold deliver
  rw [perform_bind, perform_stageNow]
  dsimp only
  rw [if_neg hc]
  rfl

theorem perform_deliver_failed (hc : ¬ Closed w) (m : Message) {f : Fault}
    (he : (ensureSender h).perform w = (.error f, w')) :
    (deliver h m).perform w = (.error f, w') := by
  rw [perform_deliver_open hc, perform_bind, he]

theorem perform_deliver_none (hc : ¬ Closed w) (m : Message)
    (he : (ensureSender h).perform w = (.ok false, w')) :
    (deliver h m).perform w = (report h dropped).perform w' := by
  rw [perform_deliver_open hc, perform_bind, he]
  rfl

theorem deliver_found (n : Nat) (hc : ¬ Closed w) (m : Message)
    (he : (ensureSender (hooks n)).perform w = (.ok true, w')) :
    Steady (w'.noted (.sending m)) ((deliver (hooks n) m).perform w).2 := by
  rw [perform_deliver_open hc, perform_bind, he]
  dsimp only
  rw [if_pos rfl, perform_note_bind, perform_attempt_bind, perform_note_bind]
  have hsend : Steady (w'.noted (.sending m))
      ((Sender.send (hooks n) m).perform (w'.noted (.sending m))).2 :=
    full_steady.toWire.along_send (along_hooks_steady n) m _
  generalize (Sender.send (hooks n) m).perform (w'.noted (.sending m)) = p at *
  obtain ⟨x, v⟩ := p
  have hsent := steady.trans hsend (steady_noted v (.sent x))
  refine steady.trans hsent ?_
  cases x with
  | ok sent =>
    dsimp only
    split
    · exact report_steady n _ _
    · exact steady.refl _
  | error f =>
    dsimp only
    split
    · exact report_steady n _ _
    · exact steady.refl _

/-- The sender cannot be had, and the handler reports that before it reports the loss. -/
theorem deliver_missed (hb : Busy w) (hp : w.reporter ≠ .absent) (hc : ¬ Closed w)
    (hd : Dialable w.handler) (ha : w.handler.attached = false) {f : Fault} {v : World}
    (hr : (create (hooks n) w.handler).perform (w.noted .opening) = (.error f, v)) (m : Message) :
    ∃ text, if Caught w.handler f
      then Tells [⟨text, some f, .opening⟩, dropped]
        (((deliver (hooks n) m).perform w).1 = .ok ()) v ((deliver (hooks n) m).perform w).2
      else (deliver (hooks n) m).perform w = (.error f, v) := by
  have hbv : Busy v := by
    have h := create_busy n w.handler (w := w.noted .opening) hb
    rwa [hr] at h
  have hrep : v.reporter = w.reporter := by
    have h := (create_steady n w.handler (w.noted .opening)).reporter
    rwa [hr] at h
  have hpv : v.reporter ≠ .absent := fun h => hp (hrep.symm.trans h)
  obtain ⟨text, he⟩ := ensureSender_missed hd ha hr
  refine ⟨text, ?_⟩
  by_cases hcaught : Caught w.handler f
  · rw [if_pos hcaught] at he ⊢
    rw [perform_bind] at he
    have h₁ := report_tells (n := n) ⟨text, some f, .opening⟩ hbv hpv
    have hb₁ := report_busy n ⟨text, some f, .opening⟩ hbv
    have hs₁ := report_steady n ⟨text, some f, .opening⟩ v
    have hmajor : [(⟨text, some f, .opening⟩ : Report)].filter Report.isMajor =
        [⟨text, some f, .opening⟩] := by
      simp [Report.isMajor]
    rw [hmajor] at h₁
    cases hx : (report (hooks n) ⟨text, some f, .opening⟩).perform v with
    | mk x u =>
      rw [hx] at h₁ hb₁ hs₁ he
      cases x with
      | error g =>
        rw [perform_deliver_failed hc m he]
        obtain ⟨ds, hh, ht⟩ := h₁
        exact ⟨ds, hh, fun hc => by cases (ht hc).1⟩
      | ok _ =>
        rw [perform_deliver_none hc m he]
        have hpu : u.reporter ≠ .absent := fun h => hpv (hs₁.reporter.symm.trans h)
        exact (h₁.trans (report_tells dropped hb₁ hpu)).mono And.right
  · rw [if_neg hcaught] at he ⊢
    exact perform_deliver_failed hc m he

/-- A world in which a record is being processed and there is no sender, but something to make one
of. -/
structure Wanting (w : World) : Prop where
  busy : Busy w
  reporter : w.reporter ≠ .absent
  going : ¬ Closed w
  loose : w.handler.attached = false
  dialable : Dialable w.handler

theorem Wanting.told {rs : List Report} (hw : Wanting w) (ht : Telling rs w w') : Wanting w' where
  busy := by
    rw [Busy, ht.handler]
    exact hw.busy
  reporter h := hw.reporter (ht.reporter.symm.trans h)
  going := by
    rw [Closed, ht.handler]
    exact hw.going
  loose := by
    rw [ht.handler]
    exact hw.loose
  dialable := by
    rw [ht.handler]
    exact hw.dialable

/-- Work whose ordinary faults are reported, as those of processing a record are. -/
def contained (h : Hooks) (a : Act Unit) : Act Unit := do
  match ← Act.attempt a with
  | .ok () => pure ()
  | .error f =>
    if f.isA "RecursionError" then Act.fault f
    else if f.isA "Exception" then report h ⟨notBuilt, some f, .formatting⟩
    else Act.fault f

theorem perform_contained_ok {a : Act Unit} (ha : a.perform w = (.ok (), w')) :
    (contained h a).perform w = (.ok (), w') := by
  unfold contained
  rw [perform_attempt_bind, ha]
  rfl

theorem contained_error {a : Act Unit} {f : Fault} (ha : a.perform w = (.error f, w')) :
    ((contained h a).perform w).2 = if f.isA "RecursionError" = true ∨ f.isA "Exception" = false
      then w' else ((report h ⟨notBuilt, some f, .formatting⟩).perform w').2 := by
  unfold contained
  rw [perform_attempt_bind, ha]
  dsimp only
  cases hr : f.isA "RecursionError" with
  | true => rfl
  | false =>
    cases he : f.isA "Exception" with
    | true => rfl
    | false => rfl

theorem contained_grown (n : Nat) (a : Act Unit) (w : World) :
    (a.perform w).2.history <+: ((contained (hooks n) a).perform w).2.history := by
  cases ha : a.perform w with
  | mk x v =>
    cases x with
    | ok _ =>
      have hok := perform_contained_ok (h := hooks n) ha
      exact ⟨[], by rw [hok, List.append_nil]⟩
    | error f =>
      rw [contained_error ha]
      split
      · exact List.prefix_refl _
      · exact (report_steady n _ v).history

theorem along_contained_steady {n : Nat} {a : Act Unit} (ha : Along steady a) :
    Along steady (contained (hooks n) a) := by
  refine along_bind (along_attempt ha) fun x => ?_
  split
  · exact along_pure _
  · split
    · exact along_fault _
    · split
      · exact fun w => report_steady n _ w
      · exact along_fault _

theorem perform_contained_congr {a b : Act Unit} (hab : a.perform w = b.perform w') :
    (contained h a).perform w = (contained h b).perform w' := by
  unfold contained
  rw [perform_attempt_bind, perform_attempt_bind, hab]

/-- What is left of processing a record once it is a message, or has failed to become one. -/
theorem perform_processReported_eq {r : Record} {x : Except Fault Message}
    (hm : (script h (compose w r)).perform w = (x, w')) : (processReported h r).perform w =
      (contained h (Act.ofExcept x >>= deliver h)).perform w' := by
  refine perform_contained_congr (a := process h r) ?_
  unfold process
  rw [perform_get_bind, perform_bind, hm, perform_ofExcept_bind]
  cases x <;> rfl

/-- An ordinary fault is reported, and any other goes on. -/
theorem contained_tells (hw : Wanting w) {a : Act Unit} {f : Fault}
    (ha : a.perform w = (.error f, w')) (ht : Tells [] True w w') :
    Tells (if f.isA "RecursionError" = true ∨ f.isA "Exception" = false then []
      else [⟨notBuilt, some f, .formatting⟩]) True w ((contained (hooks n) a).perform w).2 := by
  rw [contained_error ha]
  split
  · exact ht
  · show Tells ([] ++ [⟨notBuilt, some f, .formatting⟩]) True w _
    refine ht.after (report_steady n _ _).history fun _ h => ?_
    have hw' := hw.told h
    exact (report_tells ⟨notBuilt, some f, .formatting⟩ hw'.busy hw'.reporter).mono fun _ => trivial

/-- A failed attempt to get a sender leaves the handler as it is. -/
theorem contained_missed (hw : Wanting w) {f : Fault}
    (hr : ((create (hooks n) w.handler).perform (w.noted .opening)).1 = .error f) (m : Message) :
    ∃ text, Tells (verdict w.handler f text) True w
      ((contained (hooks n) (deliver (hooks n) m)).perform w).2 := by
  have hv := create_tells n w.handler hw.busy
  generalize hc : (create (hooks n) w.handler).perform (w.noted .opening) = p at hr hv
  obtain ⟨x, v⟩ := p
  cases hr
  obtain ⟨text, hdel⟩ :=
    deliver_missed hw.busy hw.reporter hw.going hw.dialable hw.loose hc m
  refine ⟨text, ?_⟩
  unfold verdict
  by_cases hcaught : Caught w.handler f
  · rw [if_pos hcaught] at hdel ⊢
    cases hx : (deliver (hooks n) m).perform w with
    | mk x u =>
      rw [hx] at hdel
      have hall := hv.trans hdel
      cases x with
      | ok _ =>
        rw [perform_contained_ok hx]
        exact hall.mono fun _ => trivial
      | error g =>
        have hgrown := contained_grown n (deliver (hooks n) m) w
        rw [hx] at hgrown
        show Tells ([] ++ [⟨text, some f, .opening⟩, dropped] ++ []) True w _
        exact hall.after hgrown fun hp _ => by cases hp.2
  · rw [if_neg hcaught] at hdel ⊢
    exact contained_tells hw hdel hv

/-- Whatever comes of it, the attempt is noted, and if it succeeds the sender is given the message. -/
theorem deliver_attempted (hw : Wanting w) (m : Message) {x : Except Fault Bool}
    (hr : ((create (hooks n) w.handler).perform (w.noted .opening)).1 = x) :
    ∃ ds, ((deliver (hooks n) m).perform w).2.history = w.history ++ ds ∧ Deed.opening ∈ ds ∧
      (x = .ok true → Deed.sending m ∈ ds) := by
  have hsteady := create_steady n w.handler (w.noted .opening)
  generalize hc : (create (hooks n) w.handler).perform (w.noted .opening) = p at hr hsteady
  obtain ⟨y, v⟩ := p
  subst hr
  obtain ⟨ds, hh⟩ := hsteady.history
  have hv : v.history = w.history ++ (.opening :: ds) := by
    rw [← hh, World.noted_history, List.append_assoc]
    rfl
  cases y with
  | error f =>
    obtain ⟨text, hdel⟩ :=
      deliver_missed hw.busy hw.reporter hw.going hw.dialable hw.loose hc m
    split at hdel
    · obtain ⟨es, hes, -⟩ := hdel
      refine ⟨.opening :: ds ++ es, ?_, List.mem_append_left _ List.mem_cons_self, nofun⟩
      rw [hes, hv, List.append_assoc]
    · rw [hdel]
      exact ⟨_, hv, List.mem_cons_self, nofun⟩
  | ok made =>
    have he := ensureSender_made hw.dialable hw.loose hc
    cases made with
    | false =>
      rw [perform_deliver_none hw.going m he]
      obtain ⟨es, hes⟩ := (report_steady n dropped (v.turned .ready false)).history
      refine ⟨.opening :: ds ++ .turned .ready false :: es, ?_,
        List.mem_append_left _ List.mem_cons_self, nofun⟩
      rw [← hes, World.turned_history, hv]
      simp
    | true =>
      obtain ⟨es, hes⟩ := (deliver_found n hw.going m he).history
      refine ⟨.opening :: ds ++ .turned .ready true :: .sending m :: es, ?_,
        List.mem_append_left _ List.mem_cons_self, fun _ => ?_⟩
      · rw [← hes, World.noted_history, World.turned_history, hv]
        simp
      · simp

/-! ## One step of a run -/

/-- The record of the step is made the message `m`, and this comes of getting a sender for it. -/
def Visit.Attempts (h : Hooks) (v : Visit) (m : Message) (x : Except Fault Bool) : Prop :=
  ∃ r r' w₁, v.step = .handle r ∧ v.Admits r r' ∧
    (script h (compose v.busy r')).perform v.busy = (.ok m, w₁) ∧
    ((create h w₁.handler).perform (w₁.noted .opening)).1 = x

/-- The handler is not closed during the step, and no report fails for good. -/
def Visit.Undisturbed (v : Visit) : Prop := ∀ d ∈ v.deeds, d.disturbs = false

/-- The reports made during the step that there is no sender, or that a message is lost. -/
def Visit.majors (v : Visit) : List Report :=
  (v.after.reports.drop v.before.reports.length).filter Report.isMajor

/-- The fault is reported as a failure to open the sender, and then the message as lost. -/
def Visit.Classified (v : Visit) (f : Fault) : Prop :=
  ∃ text, v.majors = [⟨text, some f, .opening⟩, ⟨noSender, none, .writing⟩]

/-- The handler has no sender, but something to make one of. -/
structure Senderless (w : World) : Prop where
  idle : w.handler.emitting = false
  reporter : w.reporter ≠ .absent
  going : ¬ Closed w
  loose : w.handler.attached = false
  dialable : Dialable w.handler

theorem Senderless.wanting (hw : Senderless w) : Wanting (setEmitting true w) :=
  ⟨rfl, hw.reporter, hw.going, hw.loose, hw.dialable⟩

/-- What is left of a step that nothing disturbs, once its record is a message or has failed to become
one. -/
theorem visit_composed (hw : Senderless w) {r r' : Record} {v : Visit}
    (hv : v = visit (hooks n) (.handle r) w) (ha : v.Admits r r') {x : Except Fault Message}
    {w₁ : World} (hm : (script (hooks n) (compose v.busy r')).perform v.busy = (x, w₁))
    (hu : v.Undisturbed) : Telling [] v.busy w₁ ∧
      v.after = setEmitting false
        ((contained (hooks n) (Act.ofExcept x >>= deliver (hooks n))).perform w₁).2 ∧
      ∃ ds es, w₁.history = w.history ++ ds ∧ v.after.history = w₁.history ++ es ∧
        v.deeds = ds ++ es := by
  subst hv
  have hd : ¬ Deaf w := fun hd => hd.elim (fun he => by simp [hw.idle] at he) hw.going
  have hstep := visit_admitted ha hd
  have hafter : (visit (hooks n) (.handle r) w).after = setEmitting false
      ((contained (hooks n) (Act.ofExcept x >>= deliver (hooks n))).perform w₁).2 := by
    rw [hstep, ← perform_processReported_eq hm]
    rfl
  have hcomposed := preparing_hushed.along_compose (along_hooks_hushed n)
    (compose (setEmitting true w) r') (setEmitting true w)
  replace hm : (script (hooks n) (compose (setEmitting true w) r')).perform (setEmitting true w) =
    (x, w₁) := hm
  rw [hm] at hcomposed
  obtain ⟨-, ds, hh, hs⟩ := hcomposed rfl
  have hgrown : Steady w₁
      ((contained (hooks n) (Act.ofExcept x >>= deliver (hooks n))).perform w₁).2 := by
    refine along_contained_steady (along_bind (along_ofExcept _) fun m => ?_) w₁
    exact full_steady.along_deliver (along_hooks_steady n) m
  obtain ⟨es, hes⟩ := hgrown.history
  have hhistory : (visit (hooks n) (.handle r) w).after.history = w₁.history ++ es := by
    rw [hafter, hes]
    rfl
  have hdeeds : (visit (hooks n) (.handle r) w).deeds = ds ++ es := by
    show (visit (hooks n) (.handle r) w).after.history.drop w.history.length = ds ++ es
    rw [hhistory, hh, List.append_assoc]
    exact List.drop_left
  refine ⟨hs fun d hd => hu d ?_, hafter, ds, es, hh, hhistory, hdeeds⟩
  rw [hdeeds]
  exact List.mem_append_left _ hd

theorem visit_told (hi : w.handler.emitting = false) {s : Step} {v : Visit}
    (hv : v = visit (hooks n) s w) {z : World} (hz : v.after = setEmitting false z)
    {rs : List Report} (ht : Telling rs v.busy z) :
    v.after.handler = v.before.handler ∧ v.majors = rs ∧ v.sendings = [] := by
  subst hv
  have hs : Steady w (visit (hooks n) s w).after := visit_steady n s w
  refine ⟨?_, ?_, ?_⟩
  · rw [hz]
    show { z.handler with emitting := false } = w.handler
    rw [ht.handler]
    show { w.handler with emitting := false } = w.handler
    rw [← hi]
  · obtain ⟨new, hnew⟩ := hs.reports
    have hm : (visit (hooks n) s w).after.majors = w.majors ++ rs := by
      rw [hz]
      exact ht.majors
    unfold Visit.majors
    show ((visit (hooks n) s w).after.reports.drop w.reports.length).filter _ = rs
    rw [World.majors, World.majors, ← hnew, List.filter_append] at hm
    rw [← hnew, List.drop_left]
    exact List.append_cancel_left hm
  · have hm : (visit (hooks n) s w).after.sendings = w.sendings := by
      rw [hz]
      exact ht.sendings
    rw [World.sendings, World.sendings, Visit.history_deeds hs, List.filterMap_append] at hm
    exact List.append_cancel_left (hm.trans (List.append_nil _).symm)

/-- The handler is as it was when its record is a message, or has failed to become one. -/
theorem composed_wanting (hw : Senderless w) {r r' : Record} {v : Visit}
    (hv : v = visit (hooks n) (.handle r) w) (ha : v.Admits r r') {x : Except Fault Message}
    {w₁ : World} (hm : (script (hooks n) (compose v.busy r')).perform v.busy = (x, w₁))
    (hu : v.Undisturbed) : Wanting w₁ ∧ w₁.handler = v.busy.handler := by
  obtain ⟨ht, -⟩ := visit_composed hw hv ha hm hu
  subst hv
  exact ⟨hw.wanting.told ht, ht.handler⟩

/-- Only what is told from then on is told in the step. -/
theorem visit_tells (hw : Senderless w) {r r' : Record} {v : Visit}
    (hv : v = visit (hooks n) (.handle r) w) (ha : v.Admits r r') {x : Except Fault Message}
    {w₁ : World} (hm : (script (hooks n) (compose v.busy r')).perform v.busy = (x, w₁))
    (hu : v.Undisturbed) {rs : List Report} (ht : Tells rs True w₁
      ((contained (hooks n) (Act.ofExcept x >>= deliver (hooks n))).perform w₁).2) :
    v.after.handler = v.before.handler ∧ v.majors = rs ∧ v.sendings = [] := by
  obtain ⟨hbefore, hafter, ds, es, -, hes, hdeeds⟩ := visit_composed hw hv ha hm hu
  obtain ⟨ds', hds', htold⟩ := ht
  have hsame : ds' = es := by
    rw [hafter] at hes
    exact List.append_cancel_left (hds'.symm.trans hes)
  have hclean : ∀ d ∈ ds', d.disturbs = false := by
    intro d hd
    refine hu d ?_
    rw [hdeeds, ← hsame]
    exact List.mem_append_right _ hd
  exact visit_told hw.idle hv hafter (hbefore.trans (htold hclean).2)

/-- What a step comes to whose record becomes a message for which no sender can be had. -/
theorem attempt_missed (hw : Senderless w) {s : Step} {v : Visit} (hv : v = visit (hooks n) s w)
    (hu : v.Undisturbed) {m : Message} {f : Fault} (ha : v.Attempts (hooks n) m (.error f)) :
    v.after.handler = v.before.handler ∧ v.sendings = [] ∧
      ∃ text, v.majors = verdict v.before.handler f text := by
  obtain ⟨r, r', w₁, hs, hadm, hm, hx⟩ := ha
  have hs' : s = .handle r := by
    rw [hv] at hs
    exact hs
  rw [hs'] at hv
  obtain ⟨hwant, hsame⟩ := composed_wanting hw hv hadm hm hu
  obtain ⟨text, htell⟩ := contained_missed hwant hx m
  obtain ⟨hk, hmajors, hsendings⟩ := visit_tells hw hv hadm hm hu htell
  have hverdict : verdict w₁.handler f text = verdict v.before.handler f text := by
    rw [hsame]
    rfl
  exact ⟨hk, hsendings, text, hmajors.trans hverdict⟩

/-- The attempt is made, and if it succeeds the sender is given just the one message. -/
theorem attempt_noted (hw : Senderless w) {s : Step} {v : Visit} (hv : v = visit (hooks n) s w)
    (hu : v.Undisturbed) {m : Message} {x : Except Fault Bool} (ha : v.Attempts (hooks n) m x) :
    Deed.opening ∈ v.deeds ∧ (x = .ok true → v.sendings = [m]) := by
  obtain ⟨r, r', w₁, hs, hadm, hm, hx⟩ := ha
  have hs' : s = .handle r := by
    rw [hv] at hs
    exact hs
  rw [hs'] at hv
  obtain ⟨ht, hafter, ds, es, -, hes, hdeeds⟩ := visit_composed hw hv hadm hm hu
  have hwant : Wanting w₁ := by
    rw [hv] at ht
    exact hw.wanting.told ht
  obtain ⟨as, has, hopening, hsending⟩ := deliver_attempted hwant m hx
  have hgrown : as <+: es := by
    have hcontained : ((deliver (hooks n) m).perform w₁).2.history <+: v.after.history := by
      rw [hafter]
      exact contained_grown n (deliver (hooks n) m) w₁
    rw [has, hes] at hcontained
    exact (List.prefix_append_right_inj _).mp hcontained
  have hmem : ∀ d ∈ as, d ∈ v.deeds := by
    intro d hd
    rw [hdeeds]
    exact List.mem_append_right _ (hgrown.subset hd)
  refine ⟨hmem _ hopening, fun hmade => ?_⟩
  have hgiven : m ∈ v.sendings := List.mem_filterMap.mpr ⟨_, hmem _ (hsending hmade), rfl⟩
  have hone := (visit_sendings hw.idle hw.reporter _ hv).1
  cases hl : v.sendings with
  | nil =>
    rw [hl] at hgiven
    cases hgiven
  | cons m' rest =>
    rw [hl] at hone hgiven
    have hrest : rest = [] := List.eq_nil_of_length_eq_zero (by simpa using hone)
    rw [hrest] at hgiven ⊢
    rw [List.mem_singleton.mp hgiven]

theorem visit_close_disturbed (hc : ¬ Closed w) : ¬ (visit (hooks n) .close w).Undisturbed := by
  intro hu
  have hs : Steady w (visit (hooks n) .close w).after := visit_steady n .close w
  obtain ⟨ds, hds, ⟨d, hd, hends⟩, -⟩ := retire_history w
  have hgrown : (retire.perform w).2.history <+: (visit (hooks n) .close w).after.history := by
    rw [visit_close]
    exact (rel_close_open full_steady.toDiscreet.modest (along_hooks_steady n)
      (along_hooks_closed n) hc).history
  have hmem : d ∈ (visit (hooks n) .close w).deeds := by
    rw [hds, Visit.history_deeds hs] at hgrown
    exact ((List.prefix_append_right_inj _).mp hgrown).subset hd
  have hquiet := hu d hmem
  cases d with
  | escaped r => cases hends
  | _ => cases hends.symm.trans hquiet

/-- As long as no attempt succeeds, the handler stays as it is. -/
theorem visit_waits (hw : Senderless w) {s : Step} {v : Visit} (hv : v = visit (hooks n) s w)
    (hu : v.Undisturbed) (hx : ∀ m x, v.Attempts (hooks n) m x → ∃ f, x = .error f) :
    v.after.handler = v.before.handler := by
  cases s with
  | flush =>
    rw [hv]
    rfl
  | close =>
    rw [hv] at hu
    exact absurd hu (visit_close_disturbed hw.going)
  | handle r =>
    by_cases hsame : v.after = w
    · rw [hsame, hv]
      rfl
    · have hadmits := visit_admits (h := hooks n) (r := r) (w := w) fun he => hsame (by rw [hv]; exact he)
      obtain ⟨-, r', hadm⟩ := hadmits
      rw [← hv] at hadm
      cases hm : (script (hooks n) (compose v.busy r')).perform v.busy with
      | mk x w₁ =>
        cases x with
        | ok m =>
          have hatt : v.Attempts (hooks n) m _ := ⟨r, r', w₁, by rw [hv]; rfl, hadm, hm, rfl⟩
          obtain ⟨f, hf⟩ := hx m _ hatt
          rw [hf] at hatt
          exact (attempt_missed hw hv hu hatt).1
        | error f =>
          obtain ⟨hwant, -⟩ := composed_wanting hw hv hadm hm hu
          have hfail : (Act.ofExcept (.error f) >>= deliver (hooks n)).perform w₁ = (.error f, w₁) := rfl
          have htell := contained_tells (n := n) hwant hfail
            ⟨[], (List.append_nil _).symm, fun _ => ⟨trivial, telling.refl w₁⟩⟩
          exact (visit_tells hw hv hadm hm hu htell).1

/-! ## Whole runs -/

theorem Senderless.visit (hw : Senderless w) (s : Step)
    (hk : (visit (hooks n) s w).after.handler = w.handler) :
    Senderless (visit (hooks n) s w).after where
  idle := by
    rw [hk]
    exact hw.idle
  reporter h := hw.reporter ((visit_steady n s w).reporter.symm.trans h)
  going := by
    rw [Closed, hk]
    exact hw.going
  loose := by
    rw [hk]
    exact hw.loose
  dialable := by
    rw [hk]
    exact hw.dialable

theorem visits_kept (hw : Constructed w) (hd : Dialable w.handler) {steps : List Step} {v : Visit}
    (hv : v ∈ visits (hooks n) steps w) : v.before.handler.emitting = false ∧
      v.before.reporter ≠ .absent ∧ Dialable v.before.handler := by
  obtain ⟨hi, hp⟩ := visits_idle hw hv
  have hk := visits_keep (I := fun w => Dialable w.handler) (fun s w h => ?_) hd hv
  · exact ⟨hi, hp, hk.1⟩
  · obtain ⟨stage, attached, emitting, hs⟩ := (visit_steady n s w).handler
    rw [hs]
    exact h

/-- By induction on the steps: as long as no attempt succeeds, the next one is made by the same
handler. -/
theorem visits_wait {steps : List Step} {missed rest : List Visit} {v : Visit} (hw : Senderless w)
    (hv : visits (hooks n) steps w = missed ++ v :: rest)
    (hx : ∀ u ∈ missed, u.Undisturbed ∧ ∀ m x, u.Attempts (hooks n) m x → ∃ f, x = .error f) :
    Senderless v.before ∧ v.before.handler = w.handler := by
  induction missed generalizing steps w with
  | nil =>
    cases steps with
    | nil => cases hv
    | cons s steps =>
      cases hv
      exact ⟨hw, rfl⟩
  | cons u missed ih =>
    cases steps with
    | nil => cases hv
    | cons s steps =>
      rw [visits, List.cons_append, List.cons.injEq] at hv
      obtain ⟨hu, hrest⟩ := hv
      obtain ⟨hundisturbed, hfailed⟩ := hx u List.mem_cons_self
      have hk := visit_waits hw hu.symm hundisturbed hfailed
      rw [← hu] at hk
      obtain ⟨hsend, hsame⟩ := ih (hw.visit s hk) hrest fun u hm => hx u (List.mem_cons_of_mem _ hm)
      exact ⟨hsend, hsame.trans hk⟩

/-- Over every run of a new handler that has a factory, or a host with a port that can be written out.
A step that finds no sender and is not disturbed makes one attempt to get one for its message. If that
fails with an ordinary exception, no message is given away and the handler stays as it is; the
fault is reported as a failure to open, and the message as lost, just if there is a factory or the
fault is a system error, and otherwise as a message that could not be built. As long as no attempt
succeeds the next message makes another one, and is given to the sender if it succeeds. -/
theorem opening_failures (hw : Constructed w) (hd : Dialable w.handler) (n : Nat)
    (steps : List Step) :
    (∀ v ∈ visits (hooks n) steps w, v.before.handler.attached = false → ¬ Closed v.before →
      v.Undisturbed → ∀ m f, v.Attempts (hooks n) m (.error f) → f.isA "Exception" = true →
      f.isA "RecursionError" = false →
        v.sendings = [] ∧ v.after.handler = v.before.handler ∧
        (v.Classified f ↔ v.before.handler.factory.isSome = true ∨ f.isA "OSError" = true) ∧
        (¬ v.Classified f → v.majors = [⟨notBuilt, some f, .formatting⟩])) ∧
    ∀ missed v rest, visits (hooks n) steps w = missed ++ v :: rest →
      (∀ u ∈ missed, u.Undisturbed ∧ ∀ m x, u.Attempts (hooks n) m x → ∃ f, x = .error f) →
      v.before.handler = w.handler ∧ (v.Undisturbed → ∀ m x, v.Attempts (hooks n) m x →
        Deed.opening ∈ v.deeds ∧ (x = .ok true → v.sendings = [m])) := by
  constructor
  · intro v hv ha hc hu m f hatt he hr
    obtain ⟨hi, hp, hdial⟩ := visits_kept hw hd hv
    have hsend : Senderless v.before := ⟨hi, hp, hc, ha, hdial⟩
    obtain ⟨hk, hnone, text, hmajors⟩ := attempt_missed hsend (mem_visits_eq hv) hu hatt
    have hcaught : Caught v.before.handler f ↔
        v.before.handler.factory.isSome = true ∨ f.isA "OSError" = true := by
      unfold Caught
      cases v.before.handler.factory.isSome with
      | true => simp [he]
      | false => simp
    have hclass : v.Classified f ↔ Caught v.before.handler f := by
      unfold verdict at hmajors
      constructor
      · rintro ⟨other, ho⟩
        by_contra hn
        rw [if_neg hn, if_neg (by simp [hr, he]), ho] at hmajors
        cases hmajors
      · intro hcau
        rw [if_pos hcau] at hmajors
        exact ⟨text, hmajors⟩
    refine ⟨hnone, hk, hclass.trans hcaught, fun hn => ?_⟩
    rw [hclass] at hn
    rw [hmajors, verdict, if_neg hn, if_neg (by simp [hr, he])]
  · intro missed v rest hv hx
    have hf := hw.fresh
    have hstart : Senderless w := by
      refine ⟨hf.emitting, hf.reporter, fun hc => ?_, hf.attached, hd⟩
      cases hf.stage.symm.trans hc
    obtain ⟨hsend, hsame⟩ := visits_wait hstart hv hx
    have hmem : v ∈ visits (hooks n) steps w := by
      rw [hv]
      exact List.mem_append_right _ List.mem_cons_self
    exact ⟨hsame, fun hu m x hatt => attempt_noted hsend (mem_visits_eq hmem) hu hatt⟩

/-! ## Two hosts -/

/-- A UDP handler in a network where looking up its host comes to this. -/
def lookingUp (outcome : Except Fault (Option (List Address))) : World :=
  started ⟨[]⟩ [("graylog_host", .str "h")] { World.calm with
    outside := { Outside.calm with resolves := [outcome] } }

def hello : Record := .plainly (.str "app") (.str "hello")

def Visit.kind? (x : Except Fault Bool) : Option FaultKind :=
  match x with
  | .error f => some f.kind
  | .ok _ => none

/-- What the message of a record comes to, and where that leaves the world. -/
def Visit.made (v : Visit) (r : Record) : Except Fault Message × World :=
  (script (hooks 8) (compose v.busy r)).perform v.busy

theorem attempts_of_made {r : Record} {k : FaultKind} (hf : w.handler.filters.isEmpty = true)
    (hl : (belowLevel w r).toOption = some false)
    (hm : ((visit (hooks 8) (.handle r) w).made r).1.isOk = true)
    (hk : Visit.kind? ((create (hooks 8) ((visit (hooks 8) (.handle r) w).made r).2.handler).perform
      (((visit (hooks 8) (.handle r) w).made r).2.noted .opening)).1 = some k) :
    ∃ m f, (visit (hooks 8) (.handle r) w).Attempts (hooks 8) m (.error f) ∧ f.kind = k := by
  cases hp : (visit (hooks 8) (.handle r) w).made r with
  | mk x v =>
    rw [hp] at hm hk
    dsimp only at hk
    cases x with
    | error f => cases hm
    | ok m =>
      cases hx : ((create (hooks 8) v.handler).perform (v.noted .opening)).1 with
      | ok made =>
        rw [hx] at hk
        cases hk
      | error f =>
        rw [hx] at hk
        refine ⟨m, f, ⟨r, r, v, rfl, ⟨?_, ?_⟩, hp, hx⟩, Option.some.inj hk⟩
        · show runFilters r w.handler.filters = _
          rw [List.isEmpty_iff.mp hf]
          rfl
        · show belowLevel w r = _
          cases hb : belowLevel w r with
          | error g =>
            rw [hb] at hl
            cases hl
          | ok below =>
            rw [hb] at hl
            cases hl
            rfl

def unknownHost : World := lookingUp (.error (.raised .addressLookup []))

/-- A failed lookup is reported as a failure to open. -/
theorem opening_failures_unknown : Constructed unknownHost ∧ Dialable unknownHost.handler ∧
    ∃ v ∈ visits (hooks 8) [.handle hello] unknownHost, ∃ m f,
      v.Attempts (hooks 8) m (.error f) ∧ f.kind = .addressLookup ∧ v.Classified f := by
  have hw : Constructed unknownHost :=
    started_constructed rfl (by simp [World.calm, Reporter.silent]) rfl
  have hd : Dialable unknownHost.handler :=
    .inr ⟨"h", 12201, by decide, rfl, rfl, by decide +kernel⟩
  refine ⟨hw, hd, visit (hooks 8) (.handle hello) unknownHost, List.mem_cons_self, ?_⟩
  obtain ⟨m, f, hatt, hk⟩ := attempts_of_made (w := unknownHost) (r := hello) (k := .addressLookup)
    (by decide +kernel) (by decide +kernel) (by decide +kernel) (by decide +kernel)
  have hu : (visit (hooks 8) (.handle hello) unknownHost).Undisturbed := by
    unfold Visit.Undisturbed
    decide +kernel
  have hsystem : f.isA "OSError" = true := by
    rw [Fault.isA, hk]
    decide
  have hgoing : ¬ Closed unknownHost := by decide +kernel
  have hordinary : f.isA "RecursionError" = false := by
    rw [Fault.isA, hk]
    decide
  obtain ⟨-, -, hclass, -⟩ := (opening_failures hw hd 8 [.handle hello]).1 _ List.mem_cons_self rfl
    hgoing hu m f hatt (ordinary_of_system hsystem) hordinary
  exact ⟨m, f, hatt, hk, hclass.mpr (.inr hsystem)⟩

def noAddress : World := lookingUp (.ok (some []))

/-- A host without an address is reported as a message that could not be built. -/
theorem empty_lookup_not_classified : Constructed noAddress ∧ Dialable noAddress.handler ∧
    ∃ v ∈ visits (hooks 8) [.handle hello] noAddress,
      v.before.handler.attached = false ∧ ¬ Closed v.before ∧ v.Undisturbed ∧ ∃ m f,
        v.Attempts (hooks 8) m (.error f) ∧ f.kind = .builtin "IndexError" ∧ ¬ v.Classified f := by
  refine ⟨started_constructed rfl (by simp [World.calm, Reporter.silent]) rfl,
    .inr ⟨"h", 12201, by decide, rfl, rfl, by decide +kernel⟩,
    visit (hooks 8) (.handle hello) noAddress, List.mem_cons_self, rfl, ?_, ?_, ?_⟩
  · show ¬ Closed noAddress
    decide +kernel
  · unfold Visit.Undisturbed
    decide +kernel
  · obtain ⟨m, f, hatt, hk⟩ := attempts_of_made (w := noAddress) (r := hello)
      (k := .builtin "IndexError") (by decide +kernel) (by decide +kernel) (by decide +kernel)
      (by decide +kernel)
    have hcodes : (visit (hooks 8) (.handle hello) noAddress).majors.map Report.code =
        [.formatting] := by decide +kernel
    refine ⟨m, f, hatt, hk, ?_⟩
    rintro ⟨text, hmajors⟩
    rw [hmajors] at hcodes
    cases hcodes

end Handler

end Gelf
