import Gelf.Proofs.Passage

/-!
# Gelf.Proofs.Strict

Scripts that give up where a request fails, and scripts that ask for nothing.

* `Script.Strict`: no fault that answers a request is put up with.
* `Script.strict_run`, `Script.quiet_of_words`: such a script succeeds only if all it asked for did,
  and then with what it comes to where nothing is in its way.
* `Script.Verbal`: a strict script that only runs errands, and so cannot come to two results.
* `Script.Settled`: a script that asks for nothing, and how it may fail.
* `Script.quiet_bind_ok_iff`: where nothing is in its way, a script comes to something just if all its
  parts do.
* `verbal_text`, `verbal_format`: asking for a text and filling in a format are verbal.
* `strict_encode`, `strict_make`: encoding a message and making a record are strict.
* `verbal_ofRecord`: making a message whose host is configured is verbal.
-/

namespace Gelf

def Request.IsErrand : Request → Prop
  | .errand _ => True
  | _ => False

namespace Script

variable {σ α β : Type}

/-! ## Scripts that put up with no fault -/

/-- Where a request fails, so does the script. -/
def Strict : Script α → Prop
  | .done _ => True
  | .fail _ => True
  | .ask _ next => (∀ f, ∃ g, next (.error f) = .fail g) ∧ ∀ a, (next (.ok a)).Strict

theorem strict_bind {s : Script α} {k : α → Script β} (hs : s.Strict) (hk : ∀ a, (k a).Strict) :
    (s.bind k).Strict := by
  induction s with
  | done a => exact hk a
  | fail f => trivial
  | ask q next ih =>
    obtain ⟨hf, ha⟩ := hs
    refine ⟨fun f => ?_, fun a => ih _ (ha a)⟩
    obtain ⟨g, hg⟩ := hf f
    refine ⟨g, ?_⟩
    show (next (.error f)).bind k = _
    rw [hg]
    rfl

theorem strict_ofExcept (x : Except Fault α) : (Script.ofExcept x).Strict := by
  cases x <;> trivial

/-- What every request that succeeds keeps, a strict script that succeeds keeps. -/
theorem strict_run {answer : (q : Request) → World → Except Fault q.Answer × World}
    {I : World → Prop} (hI : ∀ q w a w', answer q w = (.ok a, w') → I w → I w') {s : Script α}
    (hs : s.Strict) {w w' : World} {a : α} (h : s.run answer w = (.ok a, w')) (hw : I w) :
    I w' := by
  induction s generalizing w with
  | done b =>
    cases h
    exact hw
  | fail f => cases h
  | ask q next ih =>
    obtain ⟨hf, ha⟩ := hs
    simp only [run] at h
    cases hq : answer q w with
    | mk x w₁ =>
      rw [hq] at h
      cases x with
      | ok b => exact ih _ (ha b) h (hI q w b w₁ hq hw)
      | error f =>
        obtain ⟨g, hg⟩ := hf f
        dsimp only at h
        rw [hg] at h
        cases h

/-- If nothing but the usual answer can succeed, a strict script that succeeds was given these. -/
theorem quiet_of_run {p : Request → Prop}
    {answer : (q : Request) → σ → Except Fault q.Answer × σ}
    (hq : ∀ q, p q → ∀ w b w', answer q w = (.ok b, w') → quietAnswer q = .ok b) {s : Script α}
    (ha : s.Asks p) (hs : s.Strict) {w w' : σ} {a : α} (hr : s.run answer w = (.ok a, w')) :
    s.quiet = .ok a := by
  induction s generalizing w with
  | done b =>
    cases hr
    rfl
  | fail f => cases hr
  | ask q next ih =>
    obtain ⟨hf, hk⟩ := hs
    simp only [run] at hr
    cases hx : answer q w with
    | mk x w₁ =>
      rw [hx] at hr
      cases x with
      | error f =>
        obtain ⟨g, hg⟩ := hf f
        dsimp only at hr
        rw [hg] at hr
        cases hr
      | ok b =>
        rw [quiet, hq q ha.1 w b w₁ hx]
        exact ih _ (ha.2 _) (hk b) hr

theorem quiet_of_words {h : Hooks} {s : Script α} (hs : s.Strict) {w w' : World} {a : α}
    (hr : (Act.words h s).perform w = (.ok a, w')) : s.quiet = .ok a := by
  refine quiet_of_run (fun q _ w b w₁ hq => ?_) (asks_any s) hs hr
  cases q with
  | errand e => rfl
  | unformatted raw f => rfl
  | localHost =>
    cases hq
    rfl

/-! ## Scripts that only run errands -/

section

/-- Nothing is asked for but errands, and one that fails ends the script. -/
structure Verbal (s : Script α) : Prop where
  asks : s.Asks Request.IsErrand
  strict : s.Strict

theorem verbal_done (a : α) : (done a).Verbal := ⟨trivial, trivial⟩

theorem verbal_fail (f : Fault) : (fail f : Script α).Verbal := ⟨trivial, trivial⟩

theorem verbal_ofExcept (x : Except Fault α) : (ofExcept x).Verbal :=
  ⟨asks_ofExcept x, strict_ofExcept x⟩

theorem verbal_bind {s : Script β} {k : β → Script α} (hs : s.Verbal) (hk : ∀ b, (k b).Verbal) :
    (s.bind k).Verbal :=
  ⟨asks_bind hs.asks fun b => (hk b).asks, strict_bind hs.strict fun b => (hk b).strict⟩

variable {s : Script α} {a : α}

theorem Verbal.quiet {answer : (q : Request) → σ → Except Fault q.Answer × σ} {w w' : σ}
    (hs : s.Verbal) (h : s.run answer w = (.ok a, w')) : s.quiet = .ok a := by
  refine quiet_of_run (fun q hq _ b _ _ => ?_) hs.asks hs.strict h
  cases q with
  | errand e => rfl
  | unformatted raw f | localHost => cases hq

theorem Verbal.yields (hs : s.Verbal) (h : s.quiet = .ok a) : s.Yields (· = a) := by
  obtain ⟨ha, hs⟩ := hs
  induction s with
  | done b =>
    cases h
    rfl
  | fail f => trivial
  | ask q next ih =>
    cases q with
    | unformatted raw f | localHost => exact ha.1.elim
    | errand e =>
      intro x
      cases x with
      | ok _ => exact ih _ h (ha.2 _) (hs.2 _)
      | error f =>
        obtain ⟨g, hg⟩ := hs.1 f
        rw [hg]
        trivial

end

/-! ## Scripts that ask for nothing -/

variable {p q : Fault → Prop}

/-- The script asks for nothing, and fails only in this way. -/
def Settled (p : Fault → Prop) : Script α → Prop
  | .done _ => True
  | .fail f => p f
  | .ask _ _ => False

theorem settled_bind {s : Script α} {k : α → Script β} (hs : s.Settled p)
    (hk : ∀ a, (k a).Settled p) : (s.bind k).Settled p := by
  cases s with
  | done a => exact hk a
  | fail f => exact hs
  | ask q next => exact hs

theorem settled_ofExcept {x : Except Fault α} (h : ∀ f, x = .error f → p f) :
    (ofExcept x).Settled p := by
  cases x with
  | ok a => trivial
  | error f => exact h f rfl

theorem Settled.mono {s : Script α} (hs : s.Settled p) (h : ∀ f, p f → q f) : s.Settled q := by
  cases s with
  | done a => trivial
  | fail f => exact h f hs
  | ask q next => exact hs

theorem Settled.eq {s : Script α} (hs : s.Settled p) : s = ofExcept s.quiet := by
  cases s with
  | done a => rfl
  | fail f => rfl
  | ask q next => exact hs.elim

theorem Settled.fault {s : Script α} (hs : s.Settled p) {f : Fault} (h : s.quiet = .error f) :
    p f := by
  cases s with
  | done a => cases h
  | fail g =>
    cases h
    exact hs
  | ask q next => exact hs.elim

theorem quiet_bind (s : Script α) (k : α → Script β) :
    (s.bind k).quiet = s.quiet.bind fun a => (k a).quiet := by
  induction s with
  | done a => rfl
  | fail f => rfl
  | ask q next ih => exact ih _

/-- A script comes to something just if all its parts do. -/
theorem quiet_bind_ok_iff {s : Script α} {k : α → Script β} :
    (∃ b, (s.bind k).quiet = .ok b) ↔ ∃ a, s.quiet = .ok a ∧ ∃ b, (k a).quiet = .ok b := by
  rw [quiet_bind]
  cases s.quiet with
  | ok a =>
    refine ⟨fun h => ⟨a, rfl, h⟩, fun ⟨_, ha, h⟩ => ?_⟩
    cases ha
    exact h
  | error f =>
    constructor
    · rintro ⟨_, h⟩
      cases h
    · rintro ⟨_, h, _⟩
      cases h

theorem quiet_bind_done_iff {s : Script α} {g : α → β} :
    (∃ b, (s.bind fun a => .done (g a)).quiet = .ok b) ↔ ∃ a, s.quiet = .ok a := by
  rw [quiet_bind_ok_iff]
  exact ⟨fun ⟨a, ha, _⟩ => ⟨a, ha⟩, fun ⟨a, ha⟩ => ⟨a, ha, g a, rfl⟩⟩

theorem quiet_ofExcept (x : Except Fault α) : (ofExcept x).quiet = x := by
  cases x <;> rfl

end Script

open Script

/-! ## Texts -/

theorem intText_ok_iff (n : Int) : (∃ t, intText n = .ok t) ↔ n.natAbs < intLimit := by
  unfold intText
  generalize intLimit = limit
  split
  · rename_i hn
    exact ⟨fun _ => hn, fun _ => ⟨_, rfl⟩⟩
  · rename_i hn
    refine ⟨fun h => ?_, fun h => absurd h hn⟩
    obtain ⟨t, ht⟩ := h
    cases ht

theorem verbal_say (o : Object) : o.say.Verbal := by
  unfold Object.say
  cases o.errand? with
  | none =>
    cases o.failure? with
    | none => exact verbal_done _
    | some f => exact verbal_fail f
  | some e =>
    cases o.failure? <;>
      exact ⟨⟨trivial, fun x => by cases x <;> trivial⟩, fun f => ⟨f, rfl⟩, fun _ => trivial⟩

mutual

theorem verbal_text (v : Value) : v.text.Verbal := by
  cases v with
  | str s =>
    simp only [Value.text]
    exact verbal_done s
  | object o =>
    simp only [Value.text]
    exact verbal_say o
  | fault f =>
    simp only [Value.text]
    exact verbal_faultText f
  | _ =>
    -- without this the text of a number would be worked out
    simp only [Value.text]
    generalize Value.quoted _ = x
    exact verbal_ofExcept x

theorem verbal_faultText (f : Fault) : f.text.Verbal := by
  obtain ⟨kind, args, _, _, _, _, _⟩ := f
  match args with
  | [] =>
    simp only [Fault.text]
    exact verbal_done _
  | [a] =>
    simp only [Fault.text]
    split
    · exact verbal_ofExcept _
    · exact verbal_text a
  | a :: b :: more =>
    simp only [Fault.text]
    split
    · exact verbal_bind (verbal_text a) fun _ => verbal_done _
    · split
      · refine verbal_bind (verbal_text a) fun _ => verbal_bind (verbal_text b) fun _ => ?_
        exact verbal_bind (verbal_ofExcept _) fun _ => verbal_done _
      · split
        · exact verbal_done _
        · exact verbal_ofExcept _

end

/-! ## Formats -/

theorem verbal_convert (spec : Printf.Spec) (index : Nat) (v : Value) :
    (spec.convert index v).Verbal := by
  unfold Printf.Spec.convert
  dsimp only
  split
  · exact verbal_bind (verbal_text v) fun _ => verbal_done _
  all_goals
    first
    | exact verbal_done _
    | exact verbal_fail _
    | exact verbal_bind (verbal_ofExcept _) fun _ => verbal_done _
    | exact verbal_bind (verbal_ofExcept _) fun _ => verbal_ofExcept _

theorem verbal_formatFrom (size : Nat) (s : Printf.Supply) (text : List Char) :
    (Printf.formatFrom size s text).Verbal := by
  fun_induction Printf.formatFrom size s text with
  | case1 s => exact verbal_bind (verbal_ofExcept _) fun _ => verbal_done _
  | case2 s rest ih => exact verbal_bind ih fun _ => verbal_done _
  | case3 => exact verbal_fail _
  | case4 s text hn spec s' rest hr ih =>
    refine verbal_bind (verbal_ofExcept _) fun pair => ?_
    refine verbal_bind (verbal_convert _ _ _) fun piece => ?_
    exact verbal_bind (verbal_ofExcept _) fun field => verbal_bind (ih _) fun _ => verbal_done _
  | case5 s c rest _ _ ih => exact verbal_bind ih fun _ => verbal_done _

theorem verbal_format (text : String) (args : Value) : (Printf.format text args).Verbal :=
  verbal_bind (verbal_formatFrom _ _ _) fun _ => verbal_done _

theorem verbal_nameOf (levels : LevelNames) (level : Value) : (levels.nameOf level).Verbal := by
  unfold LevelNames.nameOf
  split
  · exact verbal_fail _
  · split
    · exact verbal_done _
    · exact verbal_done _
    · exact verbal_bind (verbal_format _ _) fun _ => verbal_done _

/-! ## Messages -/

theorem strict_memberName (key : Value) : (Message.memberName key).Strict := by
  unfold Message.memberName
  split
  · trivial
  · exact strict_bind (verbal_text _).strict fun _ => trivial

theorem strict_addMembers (members : Named Value) (es : List (Value × Value)) :
    (Message.addMembers members es).Strict := by
  induction es generalizing members with
  | nil => trivial
  | cons e rest ih => exact strict_bind (strict_memberName e.1) fun _ => ih _

mutual

theorem strict_write (v : Value) : (Json.write v).Strict := by
  cases v with
  | int n =>
    simp only [Json.write]
    generalize intText n = x
    exact strict_ofExcept x
  | list xs =>
    simp only [Json.write]
    exact strict_bind (strict_writeItems xs) fun _ => trivial
  | tuple xs =>
    simp only [Json.write]
    exact strict_bind (strict_writeItems xs) fun _ => trivial
  | dict es =>
    simp only [Json.write]
    exact strict_bind (strict_writeMembers es) fun _ => trivial
  | null => simp only [Json.write, Strict]
  | bool b => simp only [Json.write, Strict]
  | float x => simp only [Json.write, Strict]
  | str s => simp only [Json.write, Strict]
  | _ =>
    simp only [Json.write]
    exact strict_bind (verbal_text _).strict fun _ => trivial

theorem strict_writeItems (xs : List Value) : (Json.writeItems xs).Strict := by
  cases xs with
  | nil => simp only [Json.writeItems, Strict]
  | cons v rest =>
    simp only [Json.writeItems]
    exact strict_bind (strict_write v) fun _ =>
      strict_bind (strict_writeItems rest) fun _ => trivial

theorem strict_writeMembers (es : List (Value × Value)) : (Json.writeMembers es).Strict := by
  cases es with
  | nil => simp only [Json.writeMembers, Strict]
  | cons e rest =>
    simp only [Json.writeMembers]
    exact strict_bind (strict_writeMember e) fun _ =>
      strict_bind (strict_writeMembers rest) fun _ => trivial

theorem strict_writeMember (e : Value × Value) : (Json.writeMember e).Strict := by
  cases e with
  | mk k v =>
    simp only [Json.writeMember]
    exact strict_bind (strict_ofExcept _) fun _ => strict_bind (strict_write v) fun _ => trivial

end

theorem strict_encode (m : Message) : m.encode.Strict := by
  refine strict_bind ?_ fun members => strict_write _
  refine strict_bind (strict_ofExcept _) fun time => strict_bind (strict_ofExcept _) fun fields => ?_
  exact strict_addMembers _ _

/-! ## Records -/

theorem strict_make (levels : LevelNames) (call : LogCall) : (Record.make levels call).Strict := by
  refine strict_bind (strict_ofExcept _) fun args => strict_bind (verbal_nameOf _ _).strict fun name => ?_
  exact strict_bind (strict_ofExcept _) fun _ => trivial

/-! ## Messages of records -/

theorem verbal_severity (levels : LevelNames) (level : Value) :
    (levels.severity level).Verbal := by
  unfold LevelNames.severity
  split
  · exact verbal_done _
  · exact verbal_bind (verbal_nameOf _ _) fun _ => verbal_done _
  · refine verbal_bind (verbal_text _) fun _ => ?_
    exact verbal_bind (verbal_nameOf _ _) fun _ => verbal_done _

theorem verbal_timeAndSeverity (levels : LevelNames) (r : Record) :
    (timeAndSeverity levels r).Verbal :=
  verbal_bind (verbal_ofExcept _) fun _ => verbal_bind (verbal_ofExcept _) fun _ =>
    verbal_bind (verbal_severity _ _) fun _ => verbal_done _

theorem verbal_addField (m : Message) (key v : Value) : (m.addField key v).Verbal := by
  unfold Message.addField
  split
  · exact verbal_done _
  · refine verbal_bind (verbal_text _) fun _ => ?_
    exact verbal_bind (verbal_ofExcept _) fun _ => verbal_done _

theorem verbal_addFields (m : Message) (more : List (Value × Value)) :
    (addFields m more).Verbal := by
  induction more generalizing m with
  | nil => exact verbal_done _
  | cons e rest ih => exact verbal_bind (verbal_addField _ _ _) fun _ => ih _

theorem verbal_operation (r : Record) (name : String) : (r.operation name).Verbal := by
  refine verbal_bind ?_ fun _ => verbal_done _
  exact verbal_bind (verbal_ofExcept _) fun _ => verbal_format _ _

theorem verbal_saying (r : Record) (name : String) : (r.saying name).Verbal := by
  unfold Record.saying
  split
  · exact verbal_done _
  · exact verbal_bind (verbal_text _) fun _ => verbal_done _
  · unfold Record.inherited
    split
    all_goals
      first
      | exact verbal_done _
      | exact verbal_operation _ _

theorem verbal_diagnosticValue (context : Context) (r : Record) (key : Value) :
    (diagnosticValue context r key).Verbal := by
  unfold diagnosticValue
  split
  · refine verbal_bind (verbal_saying _ _) fun said => ?_
    cases said with
    | some s => exact verbal_done _
    | none => exact verbal_done _
  · exact verbal_fail _

theorem verbal_addTag (context : Context) (r : Record) (tag : Value) (m : Message) :
    (addTag context r tag m).Verbal := by
  unfold addTag
  split
  · refine verbal_bind (verbal_diagnosticValue _ _ _) fun said => ?_
    cases said with
    | some s => exact verbal_addField _ _ _
    | none => exact verbal_done _
  · exact verbal_done _

theorem originHost_null {config : Config} (h : config.value .originHost = .null) :
    originHost config = (request .localHost).bind fun
      | some s => .done (.str s)
      | none => .done .null := by
  unfold originHost
  split
  · rfl
  · contradiction

theorem originHost_given {config : Config} (h : config.value .originHost ≠ .null) :
    originHost config = .done (config.value .originHost) := by
  unfold originHost
  split
  · contradiction
  · rfl

/-- A message of a configured host is made without looking for the local one. -/
theorem verbal_ofRecord {config : Config} (h : config.value .originHost ≠ .null)
    (levels : LevelNames) (context : Context) (r : Record) (rendered : Rendered) :
    (Message.ofRecord levels config context r rendered).Verbal := by
  have hhost : (originHost config).Verbal := by
    rw [originHost_given h]
    exact verbal_done _
  refine verbal_bind (verbal_timeAndSeverity _ _) fun _ => verbal_bind (verbal_ofExcept _) fun _ => ?_
  refine verbal_bind hhost fun _ => verbal_bind (verbal_addField _ _ _) fun _ => ?_
  refine verbal_bind (verbal_addTag _ _ _ _) fun _ => ?_
  exact verbal_bind (verbal_ofExcept _) fun _ => verbal_addFields _ _

end Gelf
