import Gelf.Proofs.Opening
import Gelf.Proofs.Strict

/-!
# Gelf.Proofs.Outlet

What it takes for a reporter and its last resort to deal with a report.

* `Fault.Legible`: an exception whose own lines in a traceback can be written.
  `traceback_settled`: so can the whole traceback, if all that led to the exception is legible.
* `Outlet`: a reporter with the error stream behind it. `Outlet.Takes`: telling it of a report asks
  for nothing, and the guard around it can deal with any failure.
* `takes_of_legible`: where its own failures are legible it takes every report of a legible exception.
* `Outlet.Writes`: work that does nothing but write on the stream. `tellGuarded_writes`: to tell an
  outlet of a report that it takes is such work, and does not fail.
* `perform_report_at`: such a report is kept, and that is all.
-/

namespace Gelf

open Act

/-! ## Tracebacks -/

/-- The exception's text asks for nothing, and so do the lines of a syntax error, which can all be
written. -/
structure Fault.Legible (f : Fault) : Prop where
  text : f.text.Settled fun _ => True
  lines : f.isA "SyntaxError" = true → (shownLineOf f.args).Settled (fun _ => False) ∧
    ∀ line, (syntaxLines f.kind.qualified line f.args).Settled fun _ => False

/-- The exception is legible, and so is all that led to it. -/
def Fault.LegibleAll (f : Fault) : Prop := f.Legible ∧ ∀ e ∈ f.led, e.1.Legible

theorem Script.Settled.done {α : Type} {s : Script α} (hs : s.Settled fun _ => False) :
    ∃ a, s = .done a := by
  cases s with
  | done a => exact ⟨a, rfl⟩
  | fail f => exact hs.elim
  | ask q next => exact hs.elim

theorem safeText_settled {f : Fault} (hf : f.text.Settled fun _ => True) :
    f.safeText.Settled fun _ => False := by
  unfold Fault.safeText
  cases h : f.text with
  | done s => trivial
  | fail g => trivial
  | ask q next =>
    rw [h] at hf
    exact hf.elim

theorem shown_ofFault {f : Fault} (hf : f.Legible) (sentence : String) :
    ∃ s, Shown.ofFault f sentence = .done s ∧ s.fault = f := by
  obtain ⟨text, ht⟩ := (safeText_settled hf.text).done
  unfold Shown.ofFault
  rw [ht, Script.bind]
  split
  · rename_i hclass
    obtain ⟨line, hl⟩ := (hf.lines hclass).1.done
    rw [hl]
    exact ⟨_, rfl, rfl⟩
  · exact ⟨_, rfl, rfl⟩

/-- By induction on what led to an exception: all texts are there before anything is written. -/
theorem shown_ofAll {es : List (Fault × String)} (h : ∀ e ∈ es, e.1.Legible) :
    ∃ shown, Shown.ofAll es = .done shown ∧ ∀ s ∈ shown, s.fault.Legible := by
  induction es with
  | nil => exact ⟨[], rfl, nofun⟩
  | cons e rest ih =>
    obtain ⟨f, sentence⟩ := e
    rw [List.forall_mem_cons] at h
    obtain ⟨s, hs, hf⟩ := shown_ofFault h.1 sentence
    obtain ⟨shown, hrest, hall⟩ := ih h.2
    refine ⟨s :: shown, ?_, List.forall_mem_cons.mpr ⟨hf ▸ h.1, hall⟩⟩
    rw [Shown.ofAll, hs, hrest]
    rfl

theorem lines_settled {s : Shown} (hs : s.fault.Legible) (pick : List Frame → List Frame) :
    (s.lines pick).Settled fun _ => False := by
  refine Script.settled_bind ?_ fun _ => trivial
  unfold Shown.lastLines
  dsimp only
  split
  · rename_i hclass
    exact Script.settled_bind ((hs.lines hclass).2 _) fun _ => trivial
  · trivial

theorem allLines_settled {shown : List Shown} (h : ∀ s ∈ shown, s.fault.Legible)
    (pick : List Frame → List Frame) :
    (Shown.allLines pick shown).Settled fun _ => False := by
  induction shown with
  | nil => trivial
  | cons s rest ih =>
    rw [List.forall_mem_cons] at h
    refine Script.settled_bind (lines_settled h.1 pick) fun own => ?_
    exact Script.settled_bind (ih h.2) fun more => trivial

theorem traceback_settled {f : Fault} (hf : f.LegibleAll) :
    f.traceback.Settled fun _ => False := by
  have hlegible : ∀ e ∈ (f, "") :: f.led, e.1.Legible := List.forall_mem_cons.mpr ⟨hf.1, hf.2⟩
  obtain ⟨shown, hs, hall⟩ := shown_ofAll hlegible
  unfold Fault.traceback Fault.tracebackBy
  rw [hs]
  exact allLines_settled (fun s hm => hall s (List.mem_reverse.mp hm)) id

theorem text_raisedDuring (g : Fault) (handled : Option Fault) :
    (g.raisedDuring handled).text = g.text := by
  cases handled with
  | none => rfl
  | some f =>
    obtain ⟨kind, args, cause, context, suppress, notes, frames⟩ := g
    cases args with
    | nil => rfl
    | cons a rest => cases rest <;> rfl

/-- An exception that says nothing and that nothing led to. -/
def Fault.bare (f : Fault) : Bool :=
  f.args.isEmpty && f.cause.isNone && f.context.isNone && !f.isA "SyntaxError"

theorem legible_of_bare {f : Fault} (hf : f.bare = true) :
    f.LegibleAll ∧ ∀ p, f.text.Settled p := by
  obtain ⟨kind, args, cause, context, suppress, notes, frames⟩ := f
  simp only [Fault.bare, Bool.and_eq_true, List.isEmpty_iff, Option.isNone_iff_eq_none,
    Bool.not_eq_true'] at hf
  obtain ⟨⟨⟨rfl, rfl⟩, rfl⟩, hclass⟩ := hf
  refine ⟨⟨⟨trivial, fun hs => ?_⟩, nofun⟩, fun _ => trivial⟩
  rw [hclass] at hs
  cases hs

/-- What a legible exception is raised during does not make it illegible, if that is legible, too. -/
theorem Fault.LegibleAll.raisedDuring {g : Fault} (hg : g.LegibleAll) {handled : Option Fault}
    (hh : ∀ f, handled = some f → f.LegibleAll) : (g.raisedDuring handled).LegibleAll := by
  cases handled with
  | none => exact hg
  | some f =>
    have htext : (g.raisedDuring (some f)).text.Settled fun _ => True :=
      text_raisedDuring g (some f) ▸ hg.1.text
    refine ⟨⟨htext, hg.1.lines⟩, fun e he => ?_⟩
    obtain ⟨kind, args, cause, context, suppress, notes, frames⟩ := g
    cases cause with
    | some c => exact hg.2 e he
    | none =>
      cases suppress with
      | true => cases he
      | false =>
        have hf := hh f rfl
        cases he with
        | head => exact hf.1
        | tail _ he => exact hf.2 e he

/-! ## Outlets -/

/-- A reporter, and how the error stream behind it refuses texts, if there is a stream. -/
structure Outlet where
  reporter : Reporter
  refusal? : Option (String → String → Option Fault)

namespace Outlet

/-- The stream behind the reporter when this has been written on it. -/
def stream (o : Outlet) (written : String) : ErrorStream :=
  match o.refusal? with
  | some refusal => .present written refusal
  | none => .missing

/-- There is a reporter. It fails with exceptions at most, and the stream with system errors. -/
structure Civil (o : Outlet) : Prop where
  there : o.reporter ≠ .absent
  exceptions : ∀ answer, o.reporter = .other answer → ∀ earlier r f, answer earlier r = some f →
    f.isA "Exception" = true
  refusals : ∀ refusal, o.refusal? = some refusal → ∀ before text f, refusal before text = some f →
    f.isA "OSError" = true

/-- It is no harm if telling of the report ends with this: it is an exception, and the traceback of
it can be written, if there is a stream for that. -/
def Endures (o : Outlet) (r : Report) (f : Fault) : Prop :=
  f.isA "Exception" = true ∧
    (o.refusal?.isSome = true → (f.raisedDuring r.error).traceback.Settled fun _ => False)

/-- To tell of the report, when others came before it, asks for nothing, and whatever it ends with is
no harm. -/
def Takes (o : Outlet) (earlier : List Report) (r : Report) : Prop :=
  match o.reporter with
  | .absent => True
  | .console includeTraceback =>
    (headline r).Settled (o.Endures r) ∧
    (∀ f, r.error = some f → includeTraceback.truthy = true → f.traceback.Settled (o.Endures r)) ∧
    ∀ refusal before text f, o.refusal? = some refusal → refusal before text = some f →
      o.Endures r f
  | .other answer => ∀ f, answer earlier r = some f → o.Endures r f

/-- The outlet's own failures are legible. -/
structure Clear (o : Outlet) : Prop where
  answers : ∀ answer, o.reporter = .other answer → ∀ earlier r f, answer earlier r = some f →
    f.LegibleAll
  refusals : ∀ refusal, o.refusal? = some refusal → ∀ before text f, refusal before text = some f →
    f.LegibleAll

/-- Such an outlet takes every report of a legible exception whose text does not fail with one that
is worse. -/
theorem takes_of_legible {o : Outlet} (ho : o.Civil) (hc : o.Clear) (earlier : List Report)
    {r : Report} (hr : ∀ f, r.error = some f → f.LegibleAll ∧
      f.text.Settled fun g => g.isA "Exception" = true ∧ g.LegibleAll) : o.Takes earlier r := by
  have he : ∀ f, f.isA "Exception" = true → f.LegibleAll → o.Endures r f := fun f hx hf =>
    ⟨hx, fun _ => traceback_settled (hf.raisedDuring fun e h => (hr e h).1)⟩
  unfold Takes
  split
  · trivial
  · refine ⟨?_, fun f hf _ => ?_, fun refusal before text f hs hf => ?_⟩
    · unfold headline
      split
      · rename_i f hf
        exact Script.settled_bind ((hr f hf).2.mono fun g hg => he g hg.1 hg.2) fun _ => trivial
      · trivial
    · exact (traceback_settled (hr f hf).1).mono fun _ => False.elim
    · exact he f (ordinary_of_system (ho.refusals refusal hs before text f hf))
        (hc.refusals refusal hs before text f hf)
  · rename_i answer hanswer
    exact fun f hf => he f (ho.exceptions answer hanswer earlier r f hf)
      (hc.answers answer hanswer earlier r f hf)

/-! ### Work that only writes -/

variable {α β : Type} {o : Outlet} {bad bad' : Fault → Prop} {h : Hooks}

/-- Where the outlet's stream is, the work does nothing but write on it, and fails in this way at
most. -/
def Writes (o : Outlet) (bad : Fault → Prop) (a : Act α) : Prop :=
  ∀ w t, w.stream = o.stream t →
    ∃ t', (a.perform w).2 = { w with stream := o.stream t' } ∧
      ∀ f, (a.perform w).1 = .error f → bad f

theorem Writes.mono {a : Act α} (ha : o.Writes bad a) (hb : ∀ f, bad f → bad' f) :
    o.Writes bad' a := by
  intro w t hw
  obtain ⟨t', hw', hf⟩ := ha w t hw
  exact ⟨t', hw', fun f hr => hb f (hf f hr)⟩

theorem writes_ofExcept {x : Except Fault α} (hx : ∀ f, x = .error f → bad f) :
    o.Writes bad (Act.ofExcept x) := by
  intro w t hw
  have hsame : w = { w with stream := o.stream t } := by rw [← hw]
  exact ⟨t, hsame, hx⟩

theorem writes_pure (x : α) : o.Writes bad (pure x) := writes_ofExcept nofun

theorem writes_fault {f : Fault} (hf : bad f) : o.Writes bad (Act.fault f : Act α) :=
  writes_ofExcept fun g hg => by cases hg; exact hf

theorem writes_bind {a : Act α} {k : α → Act β} (ha : o.Writes bad a)
    (hk : ∀ x, o.Writes bad (k x)) : o.Writes bad (a >>= k) := by
  intro w t hw
  obtain ⟨t', hw', hx⟩ := ha w t hw
  rw [perform_bind]
  cases hr : a.perform w with
  | mk x w' =>
    rw [hr] at hw' hx
    dsimp only at hw' hx
    subst hw'
    cases x with
    | ok x => exact hk x { w with stream := o.stream t' } t' rfl
    | error f =>
      exact ⟨t', rfl, fun g hg => hx g (congrArg Except.error (Except.error.inj hg))⟩

theorem writes_get_bind {k : World → Act α}
    (hk : ∀ w t, w.stream = o.stream t → o.Writes bad (k w)) : o.Writes bad (get >>= k) := by
  intro w t hw
  rw [perform_get_bind]
  exact hk w t hw w t hw

theorem writes_attempt_bind {a : Act α} {k : Except Fault α → Act β} (ha : o.Writes bad a)
    (hok : ∀ x, o.Writes bad' (k (.ok x))) (hf : ∀ f, bad f → o.Writes bad' (k (.error f))) :
    o.Writes bad' (Act.attempt a >>= k) := by
  intro w t hw
  obtain ⟨t', hw', hx⟩ := ha w t hw
  rw [perform_attempt_bind, hw']
  cases hr : (a.perform w).1 with
  | ok x => exact hok x { w with stream := o.stream t' } t' rfl
  | error f => exact hf f (hx f hr) { w with stream := o.stream t' } t' rfl

theorem writes_during {a : Act α} {handled : Option Fault} (ha : o.Writes bad a)
    (hb : ∀ f, bad f → bad' (f.raisedDuring handled)) : o.Writes bad' (a.during handled) := by
  intro w t hw
  obtain ⟨t', hw', hx⟩ := ha w t hw
  refine ⟨t', by rw [during_snd, hw'], fun g hg => ?_⟩
  rw [perform_during] at hg
  cases hr : a.perform w with
  | mk x w' =>
    rw [hr] at hg hx
    cases x with
    | ok x => cases hg
    | error f =>
      cases hg
      exact hb f (hx f rfl)

theorem writes_words {s : Script α} (hs : s.Settled bad) : o.Writes bad (Act.words h s) := by
  cases s with
  | done a => exact writes_pure a
  | fail f => exact writes_fault hs
  | ask q next => exact hs.elim

/-- What writing on the outlet's stream may fail with. -/
def Refuses (o : Outlet) (f : Fault) : Prop :=
  match o.refusal? with
  | some refusal => ∃ before text, refusal before text = some f
  | none => f = (Defect.noAttribute "NoneType" "write").toFault

theorem write_writes (text : String) : o.Writes o.Refuses (write text) := by
  refine writes_get_bind fun w t hw => ?_
  unfold stream at hw
  unfold Refuses
  split at hw
  · rename_i refusal hrefusal
    rw [hw]
    dsimp only
    split
    · rename_i f hf
      exact writes_fault ⟨_, _, hf⟩
    · intro w₁ t₁ hw₁
      refine ⟨t ++ text, ?_, nofun⟩
      rw [perform_modify, stream, hrefusal]
  · rw [hw]
    exact writes_fault rfl

/-! ### Telling an outlet -/

variable {earlier : List Report} {r : Report}

theorem tell_writes (ht : o.Takes earlier r) :
    o.Writes (o.Endures r) (o.reporter.tell h earlier r) := by
  unfold Takes at ht
  cases hreporter : o.reporter with
  | absent => exact writes_pure _
  | console includeTraceback =>
    rw [hreporter] at ht
    obtain ⟨hline, htrace, hrefusal⟩ := ht
    have hwrite : ∀ text, o.Writes (o.Endures r) (write text) := by
      refine fun text => (write_writes text).mono fun f hf => ?_
      unfold Refuses at hf
      split at hf
      · rename_i refusal hsome
        obtain ⟨before, text, hf⟩ := hf
        exact hrefusal refusal before text f hsome hf
      · rename_i hnone
        subst hf
        refine ⟨rfl, fun hsome => ?_⟩
        rw [hnone] at hsome
        cases hsome
    refine writes_bind (writes_words hline) fun line => writes_bind (hwrite line) fun _ => ?_
    split
    · rename_i f hf
      split
      · rename_i hwanted
        exact writes_bind (writes_words (htrace f hf hwanted)) hwrite
      · exact writes_pure _
    · exact writes_pure _
  | other answer =>
    rw [hreporter] at ht
    simp only [Reporter.tell]
    split
    · rename_i f hf
      exact writes_fault (ht f hf)
    · exact writes_pure _

theorem isA_raisedDuring (f : Fault) (handled : Option Fault) (name : String) :
    (f.raisedDuring handled).isA name = f.isA name := by
  cases handled <;> rfl

/-- The last resort fails only where the stream does, and puts up with that. -/
theorem lastResort_writes (ho : o.Civil) {f : Fault} (hf : o.Endures r f) :
    o.Writes (fun _ => False) (lastResort h r (f.raisedDuring r.error)) := by
  refine writes_get_bind fun w t hw => ?_
  cases hrefusal : o.refusal? with
  | none =>
    rw [hw, stream, hrefusal]
    exact writes_pure _
  | some refusal =>
    have htrace := hf.2 (by rw [hrefusal]; rfl)
    have hwrite : ∀ text, o.Writes (fun g => g.isA "OSError" = true) (write text) := by
      refine fun text => (write_writes text).mono fun g hg => ?_
      rw [Refuses, hrefusal] at hg
      obtain ⟨before, text, hg⟩ := hg
      exact ho.refusals refusal hrefusal before text g hg
    have hcomplain : o.Writes (fun g => g.isA "OSError" = true)
        (complain h r (f.raisedDuring r.error)) := by
      refine writes_bind (hwrite _) fun _ => writes_bind ?_ hwrite
      exact writes_words (htrace.mono fun _ => False.elim)
    have hduring : o.Writes (fun g => g.isA "OSError" = true)
        ((complain h r (f.raisedDuring r.error)).during (some (f.raisedDuring r.error))) :=
      writes_during hcomplain fun g hg => by rwa [isA_raisedDuring]
    rw [hw, stream, hrefusal]
    refine writes_attempt_bind hduring (fun _ => writes_pure _) fun g hg => ?_
    dsimp only
    rw [if_pos hg]
    exact writes_pure _

/-- The guard around a reporter lets nothing out, if the report is one that the outlet takes. -/
theorem tellGuarded_writes (ho : o.Civil) (ht : o.Takes earlier r) :
    o.Writes (fun _ => False) (o.reporter.tellGuarded h earlier r) := by
  have htell : o.Writes (fun g => ∃ f, g = f.raisedDuring r.error ∧ o.Endures r f)
      ((o.reporter.tell h earlier r).during r.error) :=
    writes_during (tell_writes ht) fun f hf => ⟨f, rfl, hf⟩
  refine writes_attempt_bind htell (fun _ => writes_pure _) ?_
  rintro _ ⟨f, rfl, hf⟩
  have hx : (f.raisedDuring r.error).isA "Exception" = true := by
    rw [isA_raisedDuring]
    exact hf.1
  dsimp only
  rw [if_pos hx]
  exact lastResort_writes ho hf

/-! ### Reporting at an outlet -/

/-- The world's reporter and its error stream are those of the outlet. -/
def At (o : Outlet) (w : World) : Prop := w.reporter = o.reporter ∧ ∃ t, w.stream = o.stream t

theorem At.reporter {w : World} (hw : o.At w) (ho : o.Civil) : w.reporter ≠ .absent := by
  rw [hw.1]
  exact ho.there

theorem perform_report_at (ho : o.Civil) {w : World} (hw : o.At w) (ht : o.Takes w.reports r) :
    ∃ t, (report h r).perform w =
      (.ok (), { w with reports := w.reports ++ [r], stream := o.stream t }) := by
  obtain ⟨hr, t, hs⟩ := hw
  obtain ⟨t', hw', hx⟩ :=
    tellGuarded_writes (h := h) ho ht { w with reports := w.reports ++ [r] } t hs
  rw [← hr] at hw' hx
  rw [perform_report (hr ▸ ho.there)]
  refine ⟨t', ?_⟩
  cases hp : (w.reporter.tellGuarded h w.reports r).perform
      { w with reports := w.reports ++ [r] } with
  | mk x w' =>
    rw [hp] at hw' hx
    cases x with
    | ok _ => exact congrArg (Prod.mk _) hw'
    | error f => exact (hx f rfl).elim

/-! ### Some outlets -/

/-- Nothing fails. -/
def sound : Outlet := ⟨.silent, some fun _ _ => none⟩

/-- The reporter always fails, and the stream takes everything. -/
def exploding : Outlet :=
  ⟨.other fun _ _ => some (.raised (.builtin "RuntimeError") []), some fun _ _ => none⟩

/-- The console, on a stream that takes nothing. -/
def cutOff : Outlet :=
  ⟨.console (.bool true), some fun _ _ => some (.raised (.builtin "BrokenPipeError") [])⟩

theorem sound_civil : sound.Civil where
  there := by simp [sound, Reporter.silent]
  exceptions := by
    rintro answer ⟨⟩ earlier r f ⟨⟩
  refusals := by
    rintro refusal ⟨⟩ before text f ⟨⟩

theorem exploding_civil : exploding.Civil where
  there := by simp [exploding]
  exceptions := by
    rintro answer ⟨⟩ earlier r f ⟨⟩
    decide
  refusals := by
    rintro refusal ⟨⟩ before text f ⟨⟩

theorem exploding_clear : exploding.Clear where
  answers := by
    rintro answer ⟨⟩ earlier r f ⟨⟩
    exact (legible_of_bare (by decide)).1
  refusals := by
    rintro refusal ⟨⟩ before text f ⟨⟩

theorem cutOff_civil : cutOff.Civil where
  there := by simp [cutOff]
  exceptions := by
    rintro answer ⟨⟩
  refusals := by
    rintro refusal ⟨⟩ before text f ⟨⟩
    decide

theorem cutOff_clear : cutOff.Clear where
  answers := by
    rintro answer ⟨⟩
  refusals := by
    rintro refusal ⟨⟩ before text f ⟨⟩
    exact (legible_of_bare (by decide)).1

end Outlet

end Gelf
