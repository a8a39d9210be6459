import Gelf.Proofs.Precheck

/-!
# Gelf.Proofs.StackTraces

What the exception of a record shows in: the end of the full message, and nothing else.

* `Record.SameButException`: two records that differ in what they tell of an exception at most.
  `text_eq_of_same`: their texts are the same, whatever lays out their lines.
* `Attached`, `tracebackOf`: when a record has an exception attached to it, and the traceback of that,
  which is never empty.
* `FullForm`: what a full message looks like.
* `exception_at_end`: both together, for two records and two wishes for stack traces.
-/

namespace Gelf

open Script

/-! ## Records that differ in their exceptions -/

namespace Record

variable {r₁ r₂ : Record} {name : String}

/-- The record, where it tells of this exception, with this text kept for it. -/
def carrying (r : Record) (info text : Value) : Record :=
  (r.set "exc_info" info).set "exc_text" text

/-- Given the same exception the records would be the same. -/
def SameButException (r₁ r₂ : Record) : Prop :=
  ∃ info text, r₁.carrying info text = r₂.carrying info text

theorem carrying_carrying (r : Record) (info text info' text' : Value) :
    (r.carrying info text).carrying info' text' = r.carrying info' text' := by
  unfold carrying set
  dsimp only
  rw [Named.put_put_of_ne _ (by decide), Named.put_put_of_ne _ (by decide)]

theorem get?_carrying (r : Record) (info text : Value) (hi : name ≠ "exc_info")
    (ht : name ≠ "exc_text") : (r.carrying info text).attributes.get? name = r.attributes.get? name := by
  unfold carrying set
  dsimp only
  rw [Named.get?_put_of_ne _ _ ht, Named.get?_put_of_ne _ _ hi]

theorem withoutException_eq (r : Record) : withoutException r = r.carrying .null .null := rfl

theorem SameButException.withoutException (h : r₁.SameButException r₂) :
    Gelf.withoutException r₁ = Gelf.withoutException r₂ := by
  obtain ⟨info, text, heq⟩ := h
  rw [withoutException_eq, withoutException_eq, ← carrying_carrying r₁ info text, heq,
    carrying_carrying]

theorem SameButException.get? (h : r₁.SameButException r₂) (name : String)
    (hi : name ≠ "exc_info") (ht : name ≠ "exc_text") :
    r₁.attributes.get? name = r₂.attributes.get? name := by
  obtain ⟨info, text, heq⟩ := h
  rw [← get?_carrying r₁ info text hi ht, heq, get?_carrying r₂ info text hi ht]

theorem SameButException.get (h : r₁.SameButException r₂) (name : String)
    (hi : name ≠ "exc_info") (ht : name ≠ "exc_text") : r₁.get name = r₂.get name := by
  unfold Record.get
  rw [h.get? name hi ht]

theorem SameButException.copied (h : r₁.SameButException r₂) :
    ∃ x : Except Fault Unit, r₁.copied = x.map (fun _ => r₁) ∧ r₂.copied = x.map fun _ => r₂ := by
  unfold Record.copied checkOldCopy checkOperation
  rw [h.get? "__reduce_ex__" (by decide) (by decide),
    h.get? "__reduce__" (by decide) (by decide),
    h.get? "__slots__" (by decide) (by decide),
    h.get? "__getstate__" (by decide) (by decide)]
  exact ⟨_, rfl, rfl⟩

end Record

/-- A record's text hangs neither on its exception nor on whether a stack trace is wanted. -/
theorem text_eq_of_same {r₁ r₂ : Record} (h : r₁.SameButException r₂) (layout : Option Formatter)
    (tells : Bool) (stack₁ stack₂ : Value) :
    Renderer.text ⟨stack₁, layout, tells⟩ r₁ = Renderer.text ⟨stack₂, layout, tells⟩ r₂ := by
  cases layout with
  | none =>
    show Renderer.freeText _ r₁ = Renderer.freeText _ r₂
    unfold Renderer.freeText Renderer.conversionsOr
    rw [h.get "msg" (by decide) (by decide), h.get "args" (by decide) (by decide)]
  | some l =>
    obtain ⟨x, h₁, h₂⟩ := h.copied
    show (Script.ofExcept r₁.copied).bind _ = (Script.ofExcept r₂.copied).bind _
    rw [h₁, h₂]
    cases x with
    | error f => rfl
    | ok _ =>
      show l.format (withoutException r₁) = l.format (withoutException r₂)
      rw [h.withoutException]

/-! ## Tracebacks -/

theorem Shown.lastLines_yields (s : Shown) : s.lastLines.Yields (· ≠ "") := by
  unfold lastLines
  dsimp only
  split
  · refine yields_bind (q := (· ≠ "")) ?_ fun lines hlines => ?_
    · refine yields_bind (yields_any _) fun place _ => ?_
      refine yields_bind (yields_any _) fun source _ => ?_
      refine yields_bind (yields_any _) fun message _ => ?_
      simp [Yields, String.append_eq_empty_iff]
    · simp [Yields, String.append_eq_empty_iff, hlines]
  · simp [Yields, String.append_eq_empty_iff]

theorem Shown.allLines_yields (pick : List Frame → List Frame) {shown : List Shown}
    (h : shown ≠ []) : (allLines pick shown).Yields (· ≠ "") := by
  cases shown with
  | nil => exact absurd rfl h
  | cons s rest =>
    have hlines : (s.lines pick).Yields (· ≠ "") := by
      refine yields_bind s.lastLines_yields fun last hlast => ?_
      simp [Yields, String.append_eq_empty_iff, hlast]
    refine yields_bind hlines fun own hown => yields_bind (yields_any _) fun more _ => ?_
    simp [Yields, String.append_eq_empty_iff, hown]

theorem Fault.tracebackBy_yields (pick : List Frame → List Frame) (chained : Bool) (f : Fault) :
    (f.tracebackBy pick chained).Yields (· ≠ "") := by
  have hall : (Shown.ofAll ((f, "") :: f.led)).Yields (· ≠ []) := by
    refine yields_bind (yields_any _) fun s _ => yields_bind (yields_any _) fun shown _ => ?_
    exact List.cons_ne_nil s shown
  refine yields_bind hall fun shown hshown => Shown.allLines_yields pick ?_
  split
  · simpa using hshown
  · cases shown with
    | nil => exact absurd rfl hshown
    | cons s rest => exact List.cons_ne_nil s _

theorem stackTraceOf_yields (v frames limit chain : Value) :
    (stackTraceOf v frames limit chain).Yields (· ≠ "") := by
  refine yields_bind (yields_any _) fun shown _ => yields_bind (yields_any _) fun frames _ => ?_
  split
  · exact Fault.tracebackBy_yields _ _ _
  · simp [Yields, String.append_eq_empty_iff]
  · exact yields_bind (yields_any _) fun _ _ => trivial

/-- A row of items, the first of which is something, stands for an exception. -/
inductive Attached : Value → List Value → Prop where
  | row {v : Value} (rest : List Value) (h : v.isNull = false) : Attached (.tuple (v :: rest)) (v :: rest)

/-- The traceback for a class, an exception, its places, and what limits them: one item is an exception
by itself. -/
def tracebackOf : List Value → Script String
  | [.fault f] => f.traceback
  | [v] => .fail (Defect.notAnException v.className).toFault
  | [_, _] => .fail Defect.unevenTraceback.toFault
  | [_, v, frames] => stackTraceOf v frames .null (.bool true)
  | [_, v, frames, limit] => stackTraceOf v frames limit (.bool true)
  | [_, v, frames, limit, chain] => stackTraceOf v frames limit chain
  | items =>
    .fail (Defect.tooManyPositional "format_exception" "from 1 to 5 positional arguments"
      items.length).toFault

theorem tracebackOf_yields (items : List Value) : (tracebackOf items).Yields (· ≠ "") := by
  unfold tracebackOf
  split
  case h_1 => exact Fault.tracebackBy_yields _ _ _
  case h_4 | h_5 | h_6 => exact stackTraceOf_yields _ _ _ _
  all_goals trivial

theorem stackTraceIn_attached {info : Value} {items : List Value} (h : Attached info items) :
    stackTraceIn info = (tracebackOf items).bind fun trace => .done (some trace) := by
  obtain @⟨v, rest, hv⟩ := h
  match rest with
  | [] | [_] | [_, _] | [_, _, _] | [_, _, _, _] | _ :: _ :: _ :: _ :: _ :: _ =>
    cases v with
    | null => cases hv
    | _ => rfl

theorem stackTraceIn_plain {info : Value} (h : ∀ items, ¬ Attached info items) :
    stackTraceIn info = .done none := by
  cases info with
  | tuple items =>
    cases items with
    | nil => rfl
    | cons v rest =>
      cases v with
      | null => rfl
      | _ => exact absurd (.row rest rfl) (h _)
  | _ => rfl

/-! ## Full messages -/

section

variable {σ : Type} {answer : (q : Request) → σ → Except Fault q.Answer × σ} {w w' : σ}

/-- What the full message of a record looks like, where its text is known in the state `w`: with the
traceback behind the text if one is wanted and an exception is attached, else the text alone. -/
inductive FullForm (answer : (q : Request) → σ → Except Fault q.Answer × σ) (stack : Value)
    (r : Record) (text : String) (w w' : σ) : String → Prop where
  | traced {info : Value} {items : List Value} {trace : String} (hw : stack.truthy = true)
      (hr : r.get "exc_info" = .ok info) (ha : Attached info items)
      (ht : (tracebackOf items).run answer w = (.ok trace, w')) :
      FullForm answer stack r text w w' (text ++ "\n\r" ++ trace)
  | plain (h : stack.truthy = true → ∀ info, r.get "exc_info" = .ok info →
      ∀ items, ¬ Attached info items) : FullForm answer stack r text w w' text

theorem fullForm_of_run {renderer : Renderer} {r : Record} {text full : String}
    (h : (renderer.fullText r text).run answer w = (.ok full, w')) :
    FullForm answer renderer.wantsStack r text w w' full := by
  unfold Renderer.fullText at h
  split at h
  · rename_i hwants
    obtain ⟨info, w₁, hinfo, htrace⟩ := run_bind_ok h
    obtain ⟨hget, rfl⟩ := run_ofExcept_ok hinfo
    obtain ⟨found, w₂, hfound, hfull⟩ := run_bind_ok htrace
    by_cases ha : ∃ items, Attached info items
    · obtain ⟨items, ha⟩ := ha
      rw [stackTraceIn_attached ha] at hfound
      obtain ⟨trace, w₃, hrun, hfound⟩ := run_bind_ok hfound
      cases hfound
      have hne : trace ≠ "" := run_yields _ (tracebackOf_yields items) hrun
      dsimp only at hfull
      rw [if_neg (by simpa using hne)] at hfull
      cases hfull
      exact .traced hwants hget ha hrun
    · rw [stackTraceIn_plain fun items hi => ha ⟨items, hi⟩] at hfound
      cases hfound
      cases hfull
      refine .plain fun _ info' hget' items hi => ha ⟨items, ?_⟩
      cases hget.symm.trans hget'
      exact hi
  · rename_i hwants
    cases h
    exact .plain fun hw => absurd hw hwants

theorem render_ok {renderer : Renderer} {r : Record} {x : Rendered}
    (h : (renderer.render r).run answer w = (.ok x, w')) :
    ∃ w₁, (renderer.text r).run answer w = (.ok x.text, w₁) ∧ x.short = shorten x.text ∧
      FullForm answer renderer.wantsStack r x.text w₁ w' x.full := by
  obtain ⟨text, w₁, htext, h⟩ := run_bind_ok h
  obtain ⟨full, w₂, hfull, h⟩ := run_bind_ok h
  cases h
  exact ⟨w₁, htext, rfl, fullForm_of_run hfull⟩

/-- Two records that differ in their exceptions at most are rendered, in the same circumstances, as
the same text, short and whole, if they are rendered at all, whether or not stack traces are wanted.
What differs is the end of the full message: a traceback follows the text just where one is wanted and
an exception is attached. -/
theorem exception_at_end {layout : Option Formatter} {tells : Bool} {stack₁ stack₂ : Value}
    {r₁ r₂ : Record} {x₁ x₂ : Rendered} {w₁ w₂ : σ} (hr : r₁.SameButException r₂)
    (h₁ : (Renderer.render ⟨stack₁, layout, tells⟩ r₁).run answer w = (.ok x₁, w₁))
    (h₂ : (Renderer.render ⟨stack₂, layout, tells⟩ r₂).run answer w = (.ok x₂, w₂)) :
    x₁.text = x₂.text ∧ x₁.short = x₂.short ∧
      ∃ w', FullForm answer stack₁ r₁ x₁.text w' w₁ x₁.full ∧
        FullForm answer stack₂ r₂ x₂.text w' w₂ x₂.full := by
  obtain ⟨v₁, htext₁, hshort₁, hfull₁⟩ := render_ok h₁
  obtain ⟨v₂, htext₂, hshort₂, hfull₂⟩ := render_ok h₂
  rw [text_eq_of_same hr layout tells stack₁ stack₂, htext₂] at htext₁
  obtain ⟨htext, rfl⟩ := Prod.mk.inj htext₁
  have hsame : x₁.text = x₂.text := (Except.ok.inj htext).symm
  exact ⟨hsame, by rw [hshort₁, hshort₂, hsame], v₂, hfull₁, hfull₂⟩

end

/-! ## A record with an exception, and the same record without one -/

/-- A layout that asks for what is kept of an exception. -/
def nosyLayout : Layout := ⟨"%(message)s [%(exc_info)s, %(exc_text)s]"⟩

def uneventful : Record :=
  ⟨[("msg", .str "lost %s"), ("args", .tuple [.str "it"]), ("exc_info", .null), ("exc_text", .null),
    ("stack_info", .null)]⟩

def eventful : Record :=
  uneventful.carrying
    (.tuple [.faultClass (.builtin "ValueError"), .fault (.raised (.builtin "ValueError") [.str "x"]),
      .stack [⟨"/srv/app/worker.py", 42, "run"⟩]])
    (.str "an older traceback")

theorem exception_at_end_nosy : eventful.SameButException uneventful ∧ ∃ x₁ x₂,
    (Renderer.render ⟨.bool true, some nosyLayout.formatter, true⟩ eventful).run Printf.undisturbed () =
      (.ok x₁, ()) ∧
    (Renderer.render ⟨.bool false, some nosyLayout.formatter, true⟩ uneventful).run Printf.undisturbed () =
      (.ok x₂, ()) ∧
    x₁.text = x₂.text ∧ x₁.short = x₂.short ∧ x₁.text = "lost it [None, None]" ∧
    x₁.full = "lost it [None, None]\n\rTraceback (most recent call last):\n" ++
      "  File \"/srv/app/worker.py\", line 42, in run\nValueError: x\n" := by
  have hr : eventful.SameButException uneventful :=
    ⟨.null, .null, Record.carrying_carrying uneventful _ _ _ _⟩
  have h₁ : ((Renderer.render ⟨.bool true, some nosyLayout.formatter, true⟩ eventful).run Printf.undisturbed
      ()).1.toOption.map (fun x => (x.text, x.full)) = some ("lost it [None, None]",
        "lost it [None, None]\n\rTraceback (most recent call last):\n" ++
          "  File \"/srv/app/worker.py\", line 42, in run\nValueError: x\n") := by
    decide +kernel
  have h₂ : ((Renderer.render ⟨.bool false, some nosyLayout.formatter, true⟩ uneventful).run
      Printf.undisturbed ()).1.toOption.isSome = true := by
    decide +kernel
  cases hx₁ : (Renderer.render ⟨.bool true, some nosyLayout.formatter, true⟩ eventful).run
      Printf.undisturbed () with
  | mk y₁ _ =>
    cases hx₂ : (Renderer.render ⟨.bool false, some nosyLayout.formatter, true⟩ uneventful).run
        Printf.undisturbed () with
    | mk y₂ _ =>
      rw [hx₁] at h₁
      rw [hx₂] at h₂
      cases y₁ with
      | error f => cases h₁
      | ok x₁ =>
        cases y₂ with
        | error f => cases h₂
        | ok x₂ =>
          obtain ⟨htext, hshort, -⟩ := exception_at_end hr hx₁ hx₂
          obtain ⟨hfirst, hsecond⟩ := Prod.mk.inj (Option.some.inj h₁)
          exact ⟨hr, x₁, x₂, rfl, rfl, htext, hshort, hfirst, hsecond⟩

end Gelf
