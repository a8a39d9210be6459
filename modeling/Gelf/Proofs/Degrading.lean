import Gelf.Proofs.Precheck
import Gelf.World

/-!
# Gelf.Proofs.Degrading

What becomes of a message whose arguments are texts, numbers, truth values and nothing.

* `format_settled`: a percent format of such arguments fails in four ways, of which the renderer
  handles two. `fill_ok_iff`: when a template can be filled.
* `degrades_iff`: the message is rendered as well as it can be, and a failure is reported once,
  unless it is `Lost` in one of four ways. `out_of_range_lost`: one of them.
-/

namespace Gelf

open Gelf.Printf Gelf.Number

open Script

/-! ## Arguments -/

/-- Texts, numbers, truth values and nothing. -/
def Value.Simple : Value → Prop
  | .null | .bool _ | .int _ | .float _ | .str _ => True
  | _ => False

/-- Values of the language's own types; whatever they hold. -/
def Value.Standard : Value → Prop
  | .object _ | .fault _ | .faultClass _ | .stack _ => False
  | _ => True

theorem Value.Simple.standard {v : Value} (hv : v.Simple) : v.Standard := by
  cases v with
  | object o | fault f | faultClass k | stack frames => cases hv
  | _ => trivial

/-- Can the value be written out? Only a number can be too long. -/
def Value.Writable : Value → Prop
  | .int n => n.natAbs < intLimit
  | _ => True

def ValueFault (f : Fault) : Prop := f.kind = .builtin "ValueError"

theorem intText_fault {n : Int} {f : Fault} (h : intText n = .error f) : ValueFault f := by
  unfold intText at h
  generalize intLimit = limit at h
  split at h
  · cases h
  · cases h
    rfl

mutual

/-- Only a number somewhere inside can keep a value from being quoted. -/
theorem quoted_fault (v : Value) {f : Fault} (h : v.quoted = .error f) : ValueFault f := by
  cases v with
  | int n =>
    simp only [Value.quoted] at h
    exact intText_fault h
  | list xs | tuple xs =>
    simp only [Value.quoted] at h
    split at h
    · cases h
    · rename_i hx
      cases h
      exact quotedItems_fault xs hx
  | dict es =>
    simp only [Value.quoted] at h
    split at h
    · cases h
    · rename_i hx
      cases h
      exact quotedEntries_fault es hx
  | fault g =>
    simp only [Value.quoted] at h
    exact faultQuoted_fault g h
  | _ =>
    simp only [Value.quoted] at h
    cases h

theorem quotedItems_fault (xs : List Value) {f : Fault} (h : quotedItems xs = .error f) :
    ValueFault f := by
  cases xs with
  | nil =>
    simp only [quotedItems] at h
    cases h
  | cons v rest =>
    simp only [quotedItems] at h
    split at h
    · rename_i hv
      cases h
      exact quoted_fault v hv
    · split at h
      · rename_i hrest
        cases h
        exact quotedItems_fault rest hrest
      · cases h

theorem quotedEntries_fault (es : List (Value × Value)) {f : Fault}
    (h : quotedEntries es = .error f) : ValueFault f := by
  cases es with
  | nil =>
    simp only [quotedEntries] at h
    cases h
  | cons e rest =>
    simp only [quotedEntries] at h
    split at h
    · rename_i he
      cases h
      exact quotedEntry_fault e he
    · split at h
      · rename_i hrest
        cases h
        exact quotedEntries_fault rest hrest
      · cases h

theorem quotedEntry_fault (e : Value × Value) {f : Fault} (h : quotedEntry e = .error f) :
    ValueFault f := by
  obtain ⟨k, v⟩ := e
  simp only [quotedEntry] at h
  split at h
  · rename_i hk
    cases h
    exact quoted_fault k hk
  · split at h
    · rename_i hv
      cases h
      exact quoted_fault v hv
    · cases h

theorem faultQuoted_fault (g : Fault) {f : Fault} (h : g.quoted = .error f) : ValueFault f := by
  obtain ⟨kind, args, _, _, _, _, _⟩ := g
  simp only [Fault.quoted] at h
  split at h
  · rename_i hx
    cases h
    exact quotedItems_fault args hx
  · cases h

end

theorem text_settled {v : Value} (hv : v.Standard) : v.text.Settled ValueFault := by
  cases v with
  | str s => simp only [Value.text, Settled]
  | object o | fault f | faultClass k | stack frames => cases hv
  | _ =>
    -- without this the text of a number would be worked out
    simp only [Value.text]
    generalize hx : Value.quoted _ = x
    exact settled_ofExcept fun f hf => quoted_fault _ (hx.trans hf)

theorem text_ok_iff {v : Value} (hv : v.Simple) : (∃ t, v.text.quiet = .ok t) ↔ v.Writable := by
  cases v with
  | int n =>
    simp only [Value.text, Value.quoted, quiet_ofExcept, Value.Writable]
    exact intText_ok_iff n
  | str s =>
    simp only [Value.text]
    exact ⟨fun _ => trivial, fun _ => ⟨_, rfl⟩⟩
  | null | bool b | float x =>
    simp only [Value.text, Value.quoted]
    exact ⟨fun _ => trivial, fun _ => ⟨_, rfl⟩⟩
  | _ => cases hv

/-! ## Templates -/

namespace Template

/-- The digits of every placeholder, in order. -/
def placeholders : List Char → List (List Char)
  | [] => []
  | c :: text =>
    if c == '\x7b' then
      match _h : scanPlaceholder text with
      | some (digits, rest) => digits :: placeholders rest
      | none => placeholders text
    else placeholders text
termination_by text => text.length
decreasing_by
  · have := scanPlaceholder_length _h
    simp only [List.length_cons]
    omega
  · simp only [List.length_cons]
    omega
  · simp only [List.length_cons]
    omega

/-- A placeholder of not too many digits, whose argument, if there is one, can be written out. -/
def Fillable (items : List Value) (digits : List Char) : Prop :=
  digits.length ≤ maxDigits ∧
    ∀ k v, placeholderIndex digits = .ok k → items[k]? = some v → v.Writable

variable {items : List Value}

theorem replacement_settled (hp : ∀ v ∈ items, v.Simple) (digits : List Char) :
    (replacement digits items).Settled ValueFault ∧
      ((∃ out, (replacement digits items).quiet = .ok out) ↔ Fillable items digits) := by
  unfold replacement Fillable
  by_cases hd : maxDigits < digits.length
  · have hi : placeholderIndex digits = raise (.intTextTooLong digits.length) := by
      rw [placeholderIndex, if_pos hd]
    rw [hi]
    refine ⟨rfl, fun h => ?_, fun h => absurd hd (Nat.not_lt.mpr h.1)⟩
    obtain ⟨out, ho⟩ := h
    cases ho
  · obtain ⟨k, hk⟩ : ∃ k, placeholderIndex digits = .ok k := by
      rw [placeholderIndex, if_neg hd]
      exact ⟨_, rfl⟩
    rw [hk]
    dsimp only
    cases hv : items[k]? with
    | none =>
      refine ⟨trivial, fun _ => ⟨Nat.le_of_not_lt hd, fun k' v hk' hv' => ?_⟩, fun _ => ⟨_, rfl⟩⟩
      cases hk'
      cases hv.symm.trans hv'
    | some v =>
      have hs := hp v (List.mem_of_getElem? hv)
      have hiff := text_ok_iff hs
      refine ⟨settled_bind (text_settled hs.standard) fun _ => trivial, ?_⟩
      rw [quiet_bind_done_iff, hiff]
      refine ⟨fun hw => ⟨Nat.le_of_not_lt hd, fun k' v' hk' hv' => ?_⟩, fun h => h.2 k v rfl hv⟩
      cases hk'
      cases hv.symm.trans hv'
      exact hw

theorem placeholders_some {text digits rest : List Char} {c : Char} (hc : (c == '\x7b') = true)
    (h : scanPlaceholder text = some (digits, rest)) :
    placeholders (c :: text) = digits :: placeholders rest := by
  rw [placeholders, if_pos hc]
  split
  · rename_i hs
    cases h.symm.trans hs
    rfl
  · rename_i hs
    cases h.symm.trans hs

theorem placeholders_none {text : List Char} {c : Char}
    (h : (c == '\x7b') = true → scanPlaceholder text = none) :
    placeholders (c :: text) = placeholders text := by
  rw [placeholders]
  split
  · rename_i hc
    split
    · rename_i hs
      cases (h hc).symm.trans hs
    · rfl
  · rfl

/-- By the recursion of the template: it can be filled just if each placeholder can. -/
theorem fillFrom_settled (hp : ∀ v ∈ items, v.Simple) (text : List Char) :
    (fillFrom items text).Settled ValueFault ∧ ((∃ out, (fillFrom items text).quiet = .ok out) ↔
      ∀ digits ∈ placeholders text, Fillable items digits) := by
  fun_induction fillFrom items text with
  | case1 =>
    rw [placeholders]
    exact ⟨trivial, fun _ => nofun, fun _ => ⟨_, rfl⟩⟩
  | case2 c text hc digits rest hs ih =>
    obtain ⟨hset, hiff⟩ := replacement_settled hp digits
    refine ⟨settled_bind hset fun _ => settled_bind ih.1 fun _ => trivial, ?_⟩
    rw [placeholders_some hc hs, List.forall_mem_cons, quiet_bind_ok_iff, ← hiff, ← ih.2]
    constructor
    · rintro ⟨part, hpart, hrest⟩
      exact ⟨⟨part, hpart⟩, quiet_bind_done_iff.mp hrest⟩
    · rintro ⟨⟨part, hpart⟩, hrest⟩
      exact ⟨part, hpart, quiet_bind_done_iff.mpr hrest⟩
  | case3 c text hc hs ih =>
    refine ⟨settled_bind ih.1 fun _ => trivial, ?_⟩
    rw [placeholders_none fun _ => hs, quiet_bind_done_iff]
    exact ih.2
  | case4 c text hc ih =>
    refine ⟨settled_bind ih.1 fun _ => trivial, ?_⟩
    rw [placeholders_none fun h => absurd h hc, quiet_bind_done_iff]
    exact ih.2

theorem fill_settled (hp : ∀ v ∈ items, v.Simple) (text : String) :
    (fill text items).Settled ValueFault :=
  settled_bind (fillFrom_settled hp _).1 fun _ => trivial

theorem fill_ok_iff (hp : ∀ v ∈ items, v.Simple) (text : String) :
    (∃ out, (fill text items).quiet = .ok out) ↔
      ∀ digits ∈ placeholders text.toList, Fillable items digits := by
  unfold fill
  rw [quiet_bind_done_iff]
  exact (fillFrom_settled hp _).2

end Template

/-! ## Percent formats -/

/-- The ways in which a percent format of such arguments can fail. -/
def FormatFault (f : Fault) : Prop :=
  f.kind ∈ [.builtin "TypeError", .builtin "ValueError", .builtin "OverflowError",
    .builtin "MemoryError"]

instance (f : Fault) : Decidable (FormatFault f) := inferInstanceAs (Decidable (_ ∈ _))

/-- The ways in which it can fail whose arguments are of the right types. -/
def RangeFault (f : Fault) : Prop :=
  f.kind ∈ [.builtin "ValueError", .builtin "OverflowError", .builtin "MemoryError"]

instance (f : Fault) : Decidable (RangeFault f) := inferInstanceAs (Decidable (_ ∈ _))

theorem RangeFault.format {f : Fault} (h : RangeFault f) : FormatFault f := List.mem_cons_of_mem _ h

theorem RangeFault.not_type {f : Fault} (h : RangeFault f) : f.isA "TypeError" = false := by
  have hall : ∀ k ∈ [.builtin "ValueError", .builtin "OverflowError", .builtin "MemoryError"],
      FaultKind.isA k "TypeError" = false := List.all_iff_forall_prop.mp (by decide)
  exact hall f.kind h

theorem rangeFault_of_value {f : Fault} (h : ValueFault f) : RangeFault f := by
  rw [RangeFault, h]
  decide

theorem formatFault_of_type {f : Fault} (h : f.kind = .builtin "TypeError") : FormatFault f := by
  rw [FormatFault, h]
  decide

namespace Printf

theorem readKey_fault {s : Supply} {text : List Char} {f : Fault} (hm : s.mapping = none)
    (h : readKey s text = .error f) : FormatFault f := by
  unfold readKey at h
  split at h
  · rw [hm] at h
    cases h
    decide
  · cases h

theorem starred_fault {s : Supply} {f : Fault} (h : starred s = .error f) : FormatFault f := by
  obtain ⟨items, m⟩ := s
  unfold starred Supply.next at h
  cases items with
  | nil =>
    cases h
    decide
  | cons v rest =>
    dsimp only at h
    split at h
    · cases h
    · cases h
      decide

theorem readWidth_fault {s : Supply} {text : List Char} {f : Fault}
    (h : readWidth s text = .error f) : FormatFault f := by
  unfold readWidth at h
  split at h
  · split at h
    · rename_i hs
      cases h
      exact starred_fault hs
    · split at h
      · cases h
        decide
      · cases h
  · split at h
    · split at h
      · cases h
      · cases h
        decide
    · cases h

theorem readPrecision_fault {s : Supply} {text : List Char} {f : Fault}
    (h : readPrecision s text = .error f) : FormatFault f := by
  unfold readPrecision at h
  split at h
  · split at h
    · rename_i hs
      cases h
      exact starred_fault hs
    · split at h
      · cases h
        decide
      · cases h
  · split at h
    · cases h
    · cases h
      decide
  · cases h

theorem read_fault {s : Supply} {text : List Char} {f : Fault} (hm : s.mapping = none)
    (h : Spec.read s text = .error f) : FormatFault f := by
  unfold Spec.read at h
  split at h
  · rename_i hk
    cases h
    exact readKey_fault hm hk
  · dsimp only at h
    split at h
    · rename_i hw
      cases h
      exact readWidth_fault hw
    · split at h
      · rename_i hp
        cases h
        exact readPrecision_fault hp
      · split at h
        · cases h
          decide
        · cases h

theorem charArgument_fault {v : Value} {f : Fault} (h : charArgument v = .error f) :
    FormatFault f := by
  unfold charArgument at h
  split at h
  · split at h
    · cases h
    · cases h
      decide
  · split at h
    · cases h
      decide
    · split at h
      · cases h
        decide
      · cases h

theorem truncated_fault {x : Float} {f : Fault} (h : Value.truncated x = .error f) :
    RangeFault f := by
  unfold Value.truncated at h
  split at h
  · cases h
    decide
  · cases h
    decide
  · cases h

theorem decimalArgument_fault {c : Char} {v : Value} {f : Fault} (hv : v.Standard)
    (h : decimalArgument c v = .error f) : FormatFault f := by
  unfold decimalArgument at h
  split at h
  · rename_i hoffers
    split at h
    · cases h
    · rename_i g hg
      split at h
      · cases h
        exact formatFault_of_type rfl
      · cases h
        cases v with
        | float x => exact (truncated_fault hg).format
        | bool b | int n => cases hg
        | object o | fault f | faultClass k | stack frames => cases hv
        | _ => cases hoffers
  · cases h
    exact formatFault_of_type rfl

theorem wholeArgument_fault {c : Char} {v : Value} {f : Fault} (h : wholeArgument c v = .error f) :
    FormatFault f := by
  unfold wholeArgument at h
  split at h
  · cases h
  · cases h
    exact formatFault_of_type rfl

theorem intToFloat_fault {n : Int} {f : Fault} (h : Value.intToFloat n = .error f) :
    RangeFault f := by
  unfold Value.intToFloat at h
  split at h
  · cases h
  · cases h
    decide

theorem asReal_fault {v : Value} {f : Fault} (hv : v.Standard) (h : v.asReal = .error f) :
    FormatFault f := by
  cases v with
  | int n => exact (intToFloat_fault h).format
  | bool b | float x => cases h
  | object o | fault f | faultClass k | stack frames => cases hv
  | _ =>
    cases h
    exact formatFault_of_type rfl

theorem integerPiece_fault {spec : Spec} {n : Int} {f : Fault} (h : integerPiece spec n = .error f) :
    RangeFault f := by
  unfold integerPiece at h
  dsimp only at h
  split at h
  · cases h
    decide
  · split at h
    · rename_i hb
      cases h
      unfold baseDigits at hb
      split at hb
      · cases hb
      · cases hb
      · cases hb
      · generalize hx : intText _ = x at hb
        cases x with
        | ok t => cases hb
        | error g =>
          cases hb
          exact rangeFault_of_value (intText_fault hx)
    · split at h
      · cases h
        decide
      · cases h

theorem realPiece_fault {spec : Spec} {x : Float} {f : Fault} (h : realPiece spec x = .error f) :
    RangeFault f := by
  unfold realPiece at h
  dsimp only at h
  split at h
  · cases h
    decide
  · cases h

theorem place_fault {spec : Spec} {p : Piece} {f : Fault} (h : spec.place p = .error f) :
    RangeFault f := by
  unfold Spec.place at h
  split at h
  · cases h
    decide
  · cases h

/-- One case for each group of letters. -/
theorem convert_settled {v : Value} (hv : v.Standard) (spec : Spec) (index : Nat) :
    (spec.convert index v).Settled FormatFault := by
  have hvalue : ∀ f, ValueFault f → FormatFault f := fun _ h => (rangeFault_of_value h).format
  have hinteger : ∀ n f, integerPiece spec n = .error f → FormatFault f := fun _ _ h =>
    (integerPiece_fault h).format
  have hreal : ∀ x f, realPiece spec x = .error f → FormatFault f := fun _ _ h =>
    (realPiece_fault h).format
  unfold Spec.convert
  dsimp only
  split
  case h_1 => exact settled_bind ((text_settled hv).mono hvalue) fun _ => trivial
  case h_2 | h_3 =>
    exact settled_bind (settled_ofExcept fun f hf => hvalue f (quoted_fault v hf)) fun _ => trivial
  case h_4 => exact settled_bind (settled_ofExcept fun _ => charArgument_fault) fun _ => trivial
  case h_5 | h_6 | h_7 =>
    exact settled_bind (settled_ofExcept fun _ => decimalArgument_fault hv) fun n =>
      settled_ofExcept (hinteger n)
  case h_8 | h_9 | h_10 =>
    exact settled_bind (settled_ofExcept fun _ => wholeArgument_fault) fun n =>
      settled_ofExcept (hinteger n)
  case h_17 => exact hvalue _ rfl
  all_goals
    exact settled_bind (settled_ofExcept fun _ => asReal_fault hv) fun x =>
      settled_ofExcept (hreal x)

/-- By induction along the format; no more arguments are left than there were. -/
theorem formatFrom_settled {size : Nat} {s : Supply} {text : List Char}
    (hp : ∀ v ∈ s.items, v.Standard) (hm : s.mapping = none) :
    (formatFrom size s text).Settled FormatFault := by
  fun_induction formatFrom size s text with
  | case1 s =>
    refine settled_bind (settled_ofExcept fun f hf => ?_) fun _ => trivial
    unfold Supply.finish at hf
    split at hf
    · cases hf
      decide
    · cases hf
  | case2 s rest ih => exact settled_bind (ih hp hm) fun _ => trivial
  | case3 s text hn f hr => exact read_fault hm hr
  | case4 s text hn spec s' rest hr ih =>
    have hleft : s.Left s' := by
      obtain ⟨c, -, -, -, ⟨-, hleft, -⟩ | ⟨_, m, _, _, hsome, -⟩⟩ := read_conversion hr
      · exact hleft
      · cases hm.symm.trans hsome
    cases hnext : s'.next with
    | error f =>
      obtain ⟨items, m⟩ := s'
      cases items with
      | nil =>
        cases hnext
        show FormatFault _
        decide
      | cons v more => cases hnext
    | ok taken =>
      obtain ⟨v, s''⟩ := taken
      obtain ⟨hitems, hmapping⟩ := next_ok hnext
      have hstandard : ∀ u ∈ s'.items, u.Standard := fun u hu => hp u (hleft.1.subset hu)
      rw [hitems, List.forall_mem_cons] at hstandard
      show Settled FormatFault ((spec.convert _ v).bind _)
      refine settled_bind (convert_settled hstandard.1 _ _) fun piece => ?_
      refine settled_bind (settled_ofExcept fun _ hf => (place_fault hf).format) fun field => ?_
      exact settled_bind (ih s'' hstandard.2 (hmapping.trans (hleft.2.trans hm))) fun _ => trivial
  | case5 s c rest _ _ ih => exact settled_bind (ih hp hm) fun _ => trivial

theorem format_standard {items : List Value} (hp : ∀ v ∈ items, v.Standard) (text : String) :
    (format text (.tuple items)).Settled FormatFault := by
  have hs : Supply.ofArgs (.tuple items) = ⟨items, none⟩ := rfl
  unfold format
  rw [hs]
  exact settled_bind (formatFrom_settled hp rfl) fun _ => trivial

theorem format_settled {items : List Value} (hp : ∀ v ∈ items, v.Simple) (text : String) :
    (format text (.tuple items)).Settled FormatFault :=
  format_standard (fun v hv => (hp v hv).standard) text

end Printf

/-! ## Rendering -/

/-- A failure that the renderer leaves to its caller. -/
def Unhandled (f : Fault) : Prop :=
  f.kind = .builtin "OverflowError" ∨ f.kind = .builtin "MemoryError"

theorem isFormatFault_iff {f : Fault} (hf : FormatFault f) :
    isFormatFault f = true ↔ ¬ Unhandled f := by
  have hk : isFormatFault f =
    (f.kind.isA "TypeError" || f.kind.isA "ValueError" || f.kind.isA "KeyError") := rfl
  rw [hk, Unhandled]
  unfold FormatFault at hf
  generalize f.kind = kind at hf ⊢
  simp only [List.mem_cons, List.not_mem_nil, or_false] at hf
  rcases hf with rfl | rfl | rfl | rfl <;> decide

/-- One report that the message could not be formatted, if failures are reported. -/
def Renderer.told (renderer : Renderer) (h : Hooks) (raw : String) (f : Fault) (w : World) :
    Except Fault Unit × World :=
  if renderer.tellsFailures then (report h (notFormatted raw f)).perform w else (.ok (), w)

/-- What comes of a message that no template has changed: by whether the look lets it pass, and by
what its percent format comes to. -/
def Renderer.converted (renderer : Renderer) (h : Hooks) (raw : String) (w : World) :
    Bool → Except Fault String → Except Fault String × World
  | false, _ => (.ok raw, w)
  | true, .ok t => (.ok t, w)
  | true, .error f =>
    if isFormatFault f then
      ((renderer.told h raw f w).1.map fun _ => raw, (renderer.told h raw f w).2)
    else (.error f, w)

section

variable {h : Hooks} {w : World} {renderer : Renderer} {r : Record} {raw : String}
  {items : List Value}

theorem perform_conversionsOr (hp : ∀ v ∈ items, v.Simple) {accepted : Bool}
    (ha : accepts raw (.tuple items) = .ok accepted) :
    (Act.script h (renderer.conversionsOr raw raw (.tuple items))).perform w =
      renderer.converted h raw w accepted (format raw (.tuple items)).quiet := by
  unfold Renderer.conversionsOr formatChecked
  rw [ha]
  cases accepted with
  | false => rfl
  | true =>
    have heq := (format_settled hp raw).eq
    generalize (format raw (.tuple items)).quiet = percent at heq ⊢
    rw [heq]
    cases percent with
    | ok t => rfl
    | error f =>
      show (Act.script h (if !isFormatFault f then .fail f
        else if renderer.tellsFailures then
          (Script.request (.unformatted raw f)).bind fun _ => .done raw
        else .done raw)).perform w = renderer.converted h raw w true (.error f)
      rw [Renderer.converted]
      cases isFormatFault f with
      | false => rfl
      | true =>
        rw [Bool.not_true, if_neg Bool.false_ne_true, if_pos rfl, Renderer.told]
        cases renderer.tellsFailures with
        | false => rfl
        | true =>
          show ((Script.ofExcept ((report h (notFormatted raw f)).perform w).1).bind fun _ =>
            .done raw).run _ ((report h (notFormatted raw f)).perform w).2 = _
          rw [if_pos rfl]
          cases ((report h (notFormatted raw f)).perform w).1 <;> rfl

theorem text_eq (hl : renderer.layout = none) (hm : r.get "msg" = .ok (.str raw))
    (ha : r.get "args" = .ok (.tuple items)) (hne : items ≠ []) :
    renderer.text r = (Template.fill raw items).bind fun message =>
      if message ≠ raw then .done message else renderer.conversionsOr raw message (.tuple items) := by
  have htruthy : (Value.tuple items).truthy = true := by
    cases items with
    | nil => exact absurd rfl hne
    | cons v rest => rfl
  have hraw : rawMessage (.str raw) = .done raw := by
    simp only [rawMessage, Value.text]
  unfold Renderer.text
  rw [hl]
  unfold Renderer.freeText
  rw [hm, ha]
  simp only [Script.ofExcept, Script.bind, hraw, htruthy, Bool.not_true, argumentList]
  rfl

theorem perform_text (hl : renderer.layout = none) (hm : r.get "msg" = .ok (.str raw))
    (ha : r.get "args" = .ok (.tuple items)) (hne : items ≠ []) (hp : ∀ v ∈ items, v.Simple)
    {accepted : Bool} (hacc : accepts raw (.tuple items) = .ok accepted) :
    (Act.script h (renderer.text r)).perform w = match (Template.fill raw items).quiet with
      | .error f => (.error f, w)
      | .ok filled =>
        if filled ≠ raw then (.ok filled, w)
        else renderer.converted h raw w accepted (format raw (.tuple items)).quiet := by
  have hfill := (Template.fill_settled hp raw).eq
  rw [text_eq hl hm ha hne]
  cases hq : (Template.fill raw items).quiet with
  | error f =>
    rw [hq] at hfill
    rw [hfill]
    rfl
  | ok filled =>
    rw [hq] at hfill
    rw [hfill]
    show (Act.script h (if filled ≠ raw then .done filled
      else renderer.conversionsOr raw filled (.tuple items))).perform w =
        if filled ≠ raw then (.ok filled, w) else _
    by_cases hf : filled = raw
    · subst hf
      rw [if_neg (not_not_intro rfl), if_neg (not_not_intro rfl)]
      exact perform_conversionsOr hp hacc
    · rw [if_pos hf, if_pos hf]
      rfl

/-- The best text for a message: the filled template if that changed anything, else the percent
format, else the message as it was written. -/
def bestText (raw filled : String) (percent : Except Fault String) : String :=
  if filled ≠ raw then filled
  else match percent with
    | .ok t => t
    | .error _ => raw

/-- The failure that a report has to tell: that of a percent format which the look let pass. -/
def failure? (raw filled : String) (accepted : Bool) (percent : Except Fault String) :
    Option Fault :=
  if filled ≠ raw then none
  else match accepted, percent with
    | true, .error f => some f
    | _, _ => none

/-- The message comes to the best text, and a failure is reported once. -/
def Degrades (h : Hooks) (renderer : Renderer) (r : Record) (raw : String) (items : List Value)
    (w : World) : Prop :=
  ∃ filled accepted, (Template.fill raw items).quiet = .ok filled ∧
    accepts raw (.tuple items) = .ok accepted ∧
    (Act.script h (renderer.text r)).perform w =
      (.ok (bestText raw filled (format raw (.tuple items)).quiet),
        match failure? raw filled accepted (format raw (.tuple items)).quiet with
        | some f => (renderer.told h raw f w).2
        | none => w)

/-- The ways in which a message does not come to that. -/
inductive Lost (h : Hooks) (renderer : Renderer) (raw : String) (items : List Value) (w : World) :
    Prop where
  /-- A placeholder has too many digits, or its argument is a number that is too long. -/
  | unfilled {digits : List Char} (hm : digits ∈ Template.placeholders raw.toList)
      (hn : ¬ Template.Fillable items digits)
  /-- The percent format fails in a way that is not handled. -/
  | unhandled {f : Fault} (hfill : (Template.fill raw items).quiet = .ok raw)
      (ha : accepts raw (.tuple items) = .ok true)
      (hf : (format raw (.tuple items)).quiet = .error f) (hu : Unhandled f)
  /-- The failure is handled, and the report of it raises an exception. -/
  | untold {f g : Fault} (hfill : (Template.fill raw items).quiet = .ok raw)
      (ha : accepts raw (.tuple items) = .ok true)
      (hf : (format raw (.tuple items)).quiet = .error f) (hh : ¬ Unhandled f)
      (ht : (renderer.told h raw f w).1 = .error g)
  /-- The look does not let a percent format pass that would have succeeded. -/
  | suppressed {t : String} (hfill : (Template.fill raw items).quiet = .ok raw)
      (ha : accepts raw (.tuple items) = .ok false)
      (ht : (format raw (.tuple items)).quiet = .ok t) (hne : t ≠ raw)

section

variable (hl : renderer.layout = none) (hm : r.get "msg" = .ok (.str raw))
  (ha : r.get "args" = .ok (.tuple items)) (hne : items ≠ []) (hp : ∀ v ∈ items, v.Simple)

include hl hm ha hne hp

theorem not_lost_of_degrades (hd : Degrades h renderer r raw items w) : ¬ Lost h renderer raw items w := by
  obtain ⟨filled, accepted, hfill, hacc, hgood⟩ := hd
  have hperform := perform_text (h := h) (w := w) hl hm ha hne hp hacc
  rw [hfill] at hperform
  intro hlost
  cases hlost with
  | unfilled hm hn => exact hn ((Template.fill_ok_iff hp raw).mp ⟨filled, hfill⟩ _ hm)
  | unhandled hfill' ha' hf hu =>
    cases hfill.symm.trans hfill'
    cases hacc.symm.trans ha'
    have hno : ¬ isFormatFault _ = true := fun h =>
      (isFormatFault_iff ((format_settled hp raw).fault hf)).mp h hu
    rw [hf] at hperform
    dsimp only at hperform
    rw [if_neg (not_not_intro rfl), Renderer.converted, if_neg hno] at hperform
    cases hgood.symm.trans hperform
  | untold hfill' ha' hf hh ht =>
    cases hfill.symm.trans hfill'
    cases hacc.symm.trans ha'
    have hyes : isFormatFault _ = true :=
      (isFormatFault_iff ((format_settled hp raw).fault hf)).mpr hh
    rw [hf] at hperform
    dsimp only at hperform
    rw [if_neg (not_not_intro rfl), Renderer.converted, if_pos hyes, ht] at hperform
    cases congrArg Prod.fst (hgood.symm.trans hperform)
  | suppressed hfill' ha' ht hne =>
    cases hfill.symm.trans hfill'
    cases hacc.symm.trans ha'
    rw [ht] at hperform hgood
    dsimp only at hperform
    rw [if_neg (not_not_intro rfl), Renderer.converted] at hperform
    have hsame := congrArg Prod.fst (hgood.symm.trans hperform)
    simp only [bestText, ne_eq, not_true, if_false] at hsame
    cases hsame
    exact hne rfl

theorem degrades_of_not_lost {accepted : Bool} (hacc : accepts raw (.tuple items) = .ok accepted)
    (hlost : ¬ Lost h renderer raw items w) : Degrades h renderer r raw items w := by
  obtain ⟨filled, hfill⟩ : ∃ filled, (Template.fill raw items).quiet = .ok filled :=
    (Template.fill_ok_iff hp raw).mpr fun digits hd =>
      Classical.byContradiction fun hn => hlost (.unfilled hd hn)
  have hperform := perform_text (h := h) (w := w) hl hm ha hne hp hacc
  rw [hfill] at hperform
  refine ⟨filled, accepted, hfill, hacc, hperform.trans ?_⟩
  dsimp only
  unfold bestText failure?
  by_cases hf : filled = raw
  · subst hf
    rw [if_neg (not_not_intro rfl), if_neg (not_not_intro rfl), if_neg (not_not_intro rfl)]
    cases hq : (format filled (.tuple items)).quiet with
    | ok t =>
      cases accepted with
      | true => rfl
      | false =>
        have ht : t = filled := Classical.byContradiction fun hne =>
          hlost (.suppressed hfill hacc hq hne)
        rw [ht]
        rfl
    | error f =>
      cases accepted with
      | false => rfl
      | true =>
        have hhandled : ¬ Unhandled f := fun hu => hlost (.unhandled hfill hacc hq hu)
        have hyes : isFormatFault f = true :=
          (isFormatFault_iff ((format_settled hp filled).fault hq)).mpr hhandled
        rw [Renderer.converted, if_pos hyes]
        cases ht : (renderer.told h filled f w).1 with
        | ok _ => rfl
        | error g => exact absurd (.untold hfill hacc hq hhandled ht) hlost
  · rw [if_pos hf, if_pos hf, if_pos hf]

theorem text_fault {accepted : Bool} (hacc : accepts raw (.tuple items) = .ok accepted) {f : Fault}
    (hf : ((Act.script h (renderer.text r)).perform w).1 = .error f) :
    ValueFault f ∨ Unhandled f ∨ ∃ g, (renderer.told h raw g w).1 = .error f := by
  rw [perform_text hl hm ha hne hp hacc] at hf
  cases hfill : (Template.fill raw items).quiet with
  | error g =>
    rw [hfill] at hf
    cases hf
    exact .inl ((Template.fill_settled hp raw).fault hfill)
  | ok filled =>
    rw [hfill] at hf
    dsimp only at hf
    split at hf
    · cases hf
    · cases hq : (format raw (.tuple items)).quiet with
      | ok t =>
        rw [hq] at hf
        cases accepted <;> cases hf
      | error g =>
        rw [hq] at hf
        cases accepted with
        | false => cases hf
        | true =>
          rw [Renderer.converted] at hf
          split at hf
          · cases ht : (renderer.told h raw g w).1 with
            | ok _ =>
              rw [ht] at hf
              cases hf
            | error g' =>
              rw [ht] at hf
              cases hf
              exact .inr (.inr ⟨g, ht⟩)
          · rename_i hno
            cases hf
            have hiff := isFormatFault_iff ((format_settled hp raw).fault hq)
            exact .inr (.inl (Classical.byContradiction fun hu => hno (hiff.mpr hu)))

end

/-- Whatever a text with simple arguments says: it is rendered as the best text, and a failure is
reported once, unless the message is lost. Three classes of exceptions can come out, and what the
report raises. -/
theorem degrades_iff (hl : renderer.layout = none) (hm : r.get "msg" = .ok (.str raw))
    (ha : r.get "args" = .ok (.tuple items)) (hne : items ≠ []) (hp : ∀ v ∈ items, v.Simple) :
    (Degrades h renderer r raw items w ↔ ¬ Lost h renderer raw items w) ∧
      ∀ f, ((Act.script h (renderer.text r)).perform w).1 = .error f →
        ValueFault f ∨ Unhandled f ∨ ∃ g, (renderer.told h raw g w).1 = .error f := by
  obtain ⟨accepted, hacc⟩ : ∃ b, accepts raw (.tuple items) = .ok b :=
    acceptsFrom_answers (.inl ⟨items, rfl⟩) 0 _
  exact ⟨⟨not_lost_of_degrades hl hm ha hne hp, degrades_of_not_lost hl hm ha hne hp hacc⟩,
    fun _ => text_fault hl hm ha hne hp hacc⟩

end

def plainRenderer : Renderer := ⟨.bool false, none, true⟩

def recordOf (raw : String) (items : List Value) : Record :=
  ⟨[("msg", .str raw), ("args", .tuple items)]⟩

/-- One argument too few is reported, and the message stays as it was written. -/
theorem degrades_iff_too_few : plainRenderer.layout = none ∧
    (recordOf "%d %d" [.int 1]).get "msg" = .ok (.str "%d %d") ∧
    (recordOf "%d %d" [.int 1]).get "args" = .ok (.tuple [.int 1]) ∧ (∀ v ∈ [Value.int 1], v.Simple) ∧
    Degrades idle plainRenderer (recordOf "%d %d" [.int 1]) "%d %d" [.int 1] .calm := by
  have hp : ∀ v ∈ [Value.int 1], v.Simple := by
    intro v hv
    rw [List.mem_singleton.mp hv]
    trivial
  have hkind : (match (format "%d %d" (.tuple [.int 1])).quiet with
    | .ok _ => none
    | .error f => some f.kind) = some (.builtin "TypeError") := by decide +kernel
  refine ⟨rfl, rfl, rfl, hp,
    (degrades_iff rfl rfl rfl (List.cons_ne_nil _ _) hp).1.mpr fun hlost => ?_⟩
  cases hlost with
  | unfilled hm hn =>
    have hnone : Template.placeholders "%d %d".toList = [] := by decide +kernel
    rw [hnone] at hm
    cases hm
  | unhandled _ _ hf hu =>
    rw [hf] at hkind
    have htype := Option.some.inj hkind
    rcases hu with h | h
    · exact absurd (h.symm.trans htype) (by decide)
    · exact absurd (h.symm.trans htype) (by decide)
  | untold _ _ _ _ ht => cases ht
  | suppressed _ _ ht _ =>
    rw [ht] at hkind
    cases hkind

/-- A number that is no character raises an exception that nobody handles. -/
theorem out_of_range_lost : (∀ v ∈ [Value.int 1114112], v.Simple) ∧
    ¬ Degrades idle plainRenderer (recordOf "%c" [.int 1114112]) "%c" [.int 1114112] .calm := by
  refine ⟨fun v hv => ?_, ?_⟩
  · rw [List.mem_singleton.mp hv]
    trivial
  · rintro ⟨filled, accepted, -, -, hgood⟩
    have hfails : ((Act.script idle (plainRenderer.text
      (recordOf "%c" [.int 1114112]))).perform .calm).1.isOk = false := by decide +kernel
    rw [hgood] at hfails
    cases hfails

end Gelf
