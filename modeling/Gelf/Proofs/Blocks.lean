import Gelf.Context.Program
import Gelf.Proofs.Strict

/-!
# Gelf.Proofs.Blocks

Blocks of the diagnostic context: what was there when a block was entered is there again when it has
been left, whatever was done in between.

* `Machine.Sound`, `Machine.Later`: every number of a machine stands for a mapping; what a machine can
  become still has all its mappings.
* `Step.change`, `context_step`: what a step makes of the context that is seen.
* `runSteps_alike`: what a program shows hangs on the context that is seen, not on the numbers.
* `Balanced`: steps that leave the blocks that they open, and no others.
* `Matched`: where the block was entered that the next exit leaves.
* `leave_matched`, `matched_or_closed`: every exit puts back what was there before its block, or there
  is no block to leave.
* `holds_after`: every text in a context is the text of a value that was given to it.
-/

namespace Gelf

theorem Named.erase_of_not_has {α : Type} {ns : Named α} {k : String} (h : ns.has k = false) :
    ns.erase k = ns := by
  refine List.filter_eq_self.mpr fun n hn => ?_
  rw [bne_iff_ne]
  intro hk
  rw [Named.has, List.any_eq_false] at h
  exact h n hn (beq_iff_eq.mpr hk)

namespace Context

open Script

/-! ## Mappings -/

namespace Machine

variable {m m' m'' : Machine}

/-- Every number stands for a mapping, and the first mapping is empty. -/
structure Sound (m : Machine) : Prop where
  empty : m.mappings[0]? = some []
  current : m.current < m.mappings.length
  saved : ∀ n ∈ m.saved, n < m.mappings.length

/-- The machine is sound, and the mappings of the earlier one are still there. -/
structure Later (m m' : Machine) : Prop where
  kept : m.mappings <+: m'.mappings
  sound : m'.Sound

theorem Later.refl (hm : m.Sound) : m.Later m := ⟨List.prefix_rfl, hm⟩

theorem Later.trans (h : m.Later m') (h' : m'.Later m'') : m.Later m'' :=
  ⟨h.kept.trans h'.kept, h'.sound⟩

theorem read_of_kept (h : m.mappings <+: m'.mappings) {n : Nat} (hn : n < m.mappings.length) :
    m'.read n = m.read n := by
  obtain ⟨rest, hrest⟩ := h
  unfold read
  rw [← hrest, List.getD_eq_getElem?_getD, List.getElem?_append_left hn,
    ← List.getD_eq_getElem?_getD]

theorem context_of_kept (hm : m.Sound) (h : m.mappings <+: m'.mappings)
    (hc : m'.current = m.current) (hs : m'.saved = m.saved) : m'.context = m.context := by
  unfold context texts
  rw [hc, hs, read_of_kept h hm.current]
  congr 1
  exact List.map_congr_left fun n hn => read_of_kept h (hm.saved n hn)

theorem sound_start : start.Sound := ⟨rfl, Nat.zero_lt_one, by simp [start]⟩

theorem Sound.first (hm : m.Sound) : 0 < m.mappings.length :=
  Nat.lt_of_le_of_lt (Nat.zero_le _) hm.current

theorem later_of_kept (hm : m.Sound) (h : m.mappings <+: m'.mappings)
    (hc : m'.current = m.current) (hs : m'.saved = m.saved) : m.Later m' := by
  have hempty : m'.mappings[0]? = some [] := by
    obtain ⟨rest, hrest⟩ := h
    rw [← hrest, List.getElem?_append_left hm.first, hm.empty]
  have hle := h.length_le
  refine ⟨h, hempty, ?_, fun n hn => ?_⟩
  · rw [hc]
    exact Nat.lt_of_lt_of_le hm.current hle
  · rw [hs] at hn
    exact Nat.lt_of_lt_of_le (hm.saved n hn) hle

theorem later_make (hm : m.Sound) (ts : Named String) : m.Later (m.make ts) :=
  later_of_kept hm (List.prefix_append _ _) rfl rfl

theorem context_make (hm : m.Sound) (ts : Named String) : (m.make ts).context = m.context :=
  context_of_kept hm (later_make hm ts).kept rfl rfl

theorem later_set (hm : m.Sound) (ts : Named String) : m.Later (m.set ts) := by
  obtain ⟨hkept, hs⟩ := later_make hm ts
  refine ⟨hkept, hs.empty, ?_, hs.saved⟩
  simp [set, make]

theorem context_set (hm : m.Sound) (ts : Named String) :
    (m.set ts).context = ⟨ts, m.context.saved⟩ := by
  have htexts : (m.set ts).texts = ts := by simp [texts, read, set, make]
  exact congr (congrArg Context.mk htexts) (congrArg Context.saved (context_make hm ts))

theorem later_remove (hm : m.Sound) (key : String) : m.Later (m.remove key) := by
  unfold remove
  split
  · exact later_set hm _
  · exact .refl hm

theorem context_remove (hm : m.Sound) (key : String) :
    (m.remove key).context = m.context.remove key := by
  unfold remove
  split
  · exact context_set hm _
  · rename_i h
    show m.context = ⟨m.texts.erase key, m.context.saved⟩
    rw [Named.erase_of_not_has (Bool.eq_false_iff.mpr h)]
    rfl

theorem later_clear (hm : m.Sound) : m.Later m.clear :=
  ⟨List.prefix_rfl, hm.empty, hm.first, hm.saved⟩

theorem context_clear (hm : m.Sound) : m.clear.context = m.context.clear := by
  have htexts : m.clear.texts = [] := by
    simp [texts, clear, read, hm.empty]
  exact congrArg (Context.mk · m.context.saved) htexts

theorem later_enter (hm : m.Sound) (ts : Named String) : m.Later (m.enter ts) := by
  obtain ⟨hkept, hs⟩ := later_set hm (m.texts.update ts)
  refine ⟨hkept, hs.empty, hs.current, fun n hn => ?_⟩
  cases List.mem_cons.mp hn with
  | inl hn => exact hn ▸ Nat.lt_of_lt_of_le hm.current hkept.length_le
  | inr hn => exact hs.saved n hn

theorem context_enter (hm : m.Sound) (ts : Named String) :
    (m.enter ts).context = m.context.enter ts := by
  have hset := context_set hm (m.texts.update ts)
  have hbefore : (m.set (m.texts.update ts)).read m.current = m.texts :=
    read_of_kept (later_set hm _).kept hm.current
  have hsaved : (m.enter ts).context.saved = m.texts :: m.context.saved :=
    congr (congrArg List.cons hbefore) (congrArg Context.saved hset)
  exact congr (congrArg Context.mk (congrArg Context.current hset)) hsaved

theorem later_reset (hm : m.Sound) : m.Later m.reset := by
  unfold reset
  split
  · rename_i before rest hs
    have hall := hm.saved
    rw [hs] at hall
    exact ⟨List.prefix_rfl, hm.empty, hall before List.mem_cons_self,
      fun n hn => hall n (List.mem_cons_of_mem _ hn)⟩
  · exact .refl hm

theorem context_reset (m : Machine) : m.reset.context = m.context.leave := by
  obtain ⟨mappings, current, saved⟩ := m
  cases saved <;> rfl

theorem editCopy_eq (m : Machine) (edit : Named String → Named String) :
    m.editCopy edit = m.make (edit m.texts) := by
  simp [editCopy, make, List.modify_eq_set]

theorem sound_child (hm : m.Sound) (copied : Bool) : (m.child copied).Sound := by
  refine ⟨hm.empty, ?_, fun n hn => ?_⟩
  · cases copied
    · exact hm.first
    · exact hm.current
  · cases hn

theorem context_child (hm : m.Sound) (copied : Bool) :
    (m.child copied).context = m.context.child copied := by
  cases copied
  · exact congrArg (Context.mk · []) (congrArg Context.current (context_clear hm))
  · rfl

theorem sound_ofContext (c : Context) : (ofContext c).Sound := by
  refine ⟨rfl, by simp [ofContext], fun n hn => ?_⟩
  have hn : n ∈ List.range' 2 c.saved.length := hn
  have := List.mem_range'_1.mp hn
  simp only [ofContext, List.length_cons]
  omega

theorem context_ofContext (c : Context) : (ofContext c).context = c := by
  have hread : ∀ i, (ofContext c).read (2 + i) = c.saved.getD i [] := by
    intro i
    simp [ofContext, read, Nat.add_comm 2 i]
  have hsaved : (List.range' 2 c.saved.length).map (ofContext c).read = c.saved := by
    refine List.ext_getElem (by simp) fun i hi hi' => ?_
    simp [hread, hi']
  exact congrArg (Context.mk c.current) hsaved

end Machine

/-! ## Steps -/

/-- The context after a step. What is done to a copy or in another thread leaves it as it is. -/
def change (c : Context) : Step → Context
  | .put key value => value.text.quiet.toOption.elim c (c.put key)
  | .remove key => c.remove key
  | .clear => c.clear
  | .enter values => (texts values).quiet.toOption.elim c c.enter
  | .exit _ => c.leave
  | .get _ | .editCopy _ | .child _ _ => c

def after (c : Context) (steps : List Step) : Context := steps.foldl change c

namespace Machine

/-- The machine that a program leaves. -/
def after (m : Machine) (steps : List Step) : Machine := (runSteps m steps).2

theorem after_cons (m : Machine) (s : Step) (rest : List Step) :
    m.after (s :: rest) = (runStep m s).2.after rest := by
  simp only [after, runSteps]

/-- An exception that a block is left with is never swallowed, not even the end of an iteration. -/
theorem runStep_exit (m : Machine) (thrown : Option Fault) :
    runStep m (.exit thrown) = (.swallowed false, m.reset) := by
  have hnot : swallows thrown (m.resume thrown).1 = .ok false := by
    cases thrown with
    | none => rfl
    | some f =>
      simp only [resume]
      split
      · rename_i hstop
        simp [swallows, hstop]
      · rfl
  simp only [runStep]
  rw [hnot]
  rfl

mutual

theorem later_step {m : Machine} (hm : m.Sound) (s : Step) : m.Later (runStep m s).2 := by
  cases s with
  | put key value =>
    simp only [runStep]
    split
    · exact later_set hm _
    · exact .refl hm
  | enter values =>
    simp only [runStep]
    split
    · exact later_enter hm _
    · exact .refl hm
  | get key =>
    simp only [runStep]
    exact .refl hm
  | remove key =>
    simp only [runStep]
    exact later_remove hm key
  | clear =>
    simp only [runStep]
    exact later_clear hm
  | exit thrown =>
    rw [runStep_exit]
    exact later_reset hm
  | editCopy edit =>
    simp only [runStep, shown, editCopy_eq]
    exact later_make hm _
  | child copied steps =>
    simp only [runStep]
    exact later_of_kept hm (later_steps (sound_child hm copied) steps).kept rfl rfl

theorem later_steps {m : Machine} (hm : m.Sound) (steps : List Step) : m.Later (runSteps m steps).2 := by
  cases steps with
  | nil =>
    simp only [runSteps]
    exact .refl hm
  | cons s rest =>
    simp only [runSteps]
    have hs := later_step hm s
    exact hs.trans (later_steps hs.sound rest)

end

/-- By cases on the step. A thread or a copy leaves mappings behind, but none that this machine sees. -/
theorem context_step {m : Machine} (hm : m.Sound) (s : Step) :
    (runStep m s).2.context = m.context.change s := by
  cases s with
  | put key value =>
    simp only [runStep, change]
    split
    · rename_i s hs
      rw [hs]
      exact context_set hm _
    · rename_i f hf
      rw [hf]
      rfl
  | enter values =>
    simp only [runStep, change]
    split
    · rename_i ts hts
      rw [hts]
      exact context_enter hm ts
    · rename_i f hf
      rw [hf]
      rfl
  | get key => simp only [runStep, change]
  | remove key =>
    simp only [runStep, change]
    exact context_remove hm key
  | clear =>
    simp only [runStep, change]
    exact context_clear hm
  | exit thrown =>
    rw [runStep_exit]
    exact context_reset m
  | editCopy edit =>
    simp only [runStep, shown, editCopy_eq]
    exact context_make hm _
  | child copied steps =>
    simp only [runStep]
    exact context_of_kept hm (later_steps (sound_child hm copied) steps).kept rfl rfl

theorem context_after {m : Machine} (hm : m.Sound) (steps : List Step) :
    (m.after steps).context = m.context.after steps := by
  induction steps generalizing m with
  | nil => simp only [after, runSteps, Context.after, List.foldl_nil]
  | cons s rest ih =>
    rw [after_cons, ih (later_step hm s).sound, context_step hm]
    rfl

mutual

/-- Two machines that see the same show the same. -/
theorem runStep_alike {m m' : Machine} (hm : m.Sound) (hm' : m'.Sound)
    (h : m.context = m'.context) (s : Step) : (runStep m s).1 = (runStep m' s).1 := by
  have hc : (runStep m s).2.context = (runStep m' s).2.context := by
    rw [context_step hm, context_step hm', h]
  have ht : (runStep m s).2.texts = (runStep m' s).2.texts := congrArg Context.current hc
  cases s with
  | put key value | enter values =>
    simp only [runStep] at ht ⊢
    split at ht
    · exact congrArg Outcome.context ht
    · rfl
  | get key =>
    simp only [runStep] at ht ⊢
    rw [ht]
  | remove key | clear | editCopy edit =>
    simp only [runStep] at ht ⊢
    exact congrArg Outcome.context ht
  | exit thrown => rw [runStep_exit, runStep_exit]
  | child copied steps =>
    simp only [runStep]
    refine congrArg Outcome.inner (runSteps_alike (sound_child hm copied) (sound_child hm' copied)
      ?_ steps)
    rw [context_child hm, context_child hm', h]

theorem runSteps_alike {m m' : Machine} (hm : m.Sound) (hm' : m'.Sound)
    (h : m.context = m'.context) (steps : List Step) : (runSteps m steps).1 = (runSteps m' steps).1 := by
  cases steps with
  | nil => simp only [runSteps]
  | cons s rest =>
    simp only [runSteps]
    rw [runStep_alike hm hm' h s, runSteps_alike (later_step hm s).sound (later_step hm' s).sound
      (by rw [context_step hm, context_step hm', h]) rest]

end

end Machine

theorem after_append (c : Context) (front rest : List Step) :
    c.after (front ++ rest) = (c.after front).after rest := List.foldl_append

theorem after_concat (c : Context) (front : List Step) (s : Step) :
    c.after (front ++ [s]) = (c.after front).change s := by
  rw [after_append]
  rfl

/-! ## Blocks -/

namespace Step

/-- Does the step open a block? It does if all its values have texts. -/
def opens : Step → Bool
  | .enter values => (texts values).quiet.isOk
  | _ => false

def isExit : Step → Bool
  | .exit _ => true
  | _ => false

end Step

/-- The steps leave the blocks that they open, and no others. -/
inductive Balanced : List Step → Prop
  | nil : Balanced []
  | plain {s : Step} {rest : List Step} :
      s.opens = false → s.isExit = false → Balanced rest → Balanced (s :: rest)
  | block {values : List (String × Value)} {thrown : Option Fault} {body rest : List Step} :
      (Step.enter values).opens = true → Balanced body → Balanced rest →
      Balanced (.enter values :: (body ++ .exit thrown :: rest))

/-- The block that the next exit leaves was entered after the steps `pre`. -/
def Matched (before pre : List Step) : Prop :=
  ∃ values body, (Step.enter values).opens = true ∧ Balanced body ∧
    before = pre ++ .enter values :: body

theorem Balanced.append {front rest : List Step} (hf : Balanced front) (hr : Balanced rest) :
    Balanced (front ++ rest) := by
  induction hf with
  | nil => exact hr
  | plain ho he _ ih => exact .plain ho he ih
  | block ho hb _ _ ih =>
    rw [List.cons_append, List.append_assoc, List.cons_append]
    exact .block ho hb ih

theorem saved_of_plain {s : Step} (ho : s.opens = false) (he : s.isExit = false) (c : Context) :
    (c.change s).saved = c.saved := by
  cases s with
  | put key value =>
    simp only [change]
    cases value.text.quiet <;> rfl
  | enter values =>
    simp only [Step.opens] at ho
    simp only [change]
    cases hq : (texts values).quiet with
    | error f => rfl
    | ok ts =>
      rw [hq] at ho
      cases ho
  | exit thrown => cases he
  | _ => rfl

theorem saved_of_enter {values : List (String × Value)} (ho : (Step.enter values).opens = true)
    (c : Context) : (c.change (.enter values)).saved = c.current :: c.saved := by
  simp only [Step.opens] at ho
  simp only [change]
  cases hq : (texts values).quiet with
  | ok ts => rfl
  | error f =>
    rw [hq] at ho
    cases ho

theorem leave_of_saved {c d : Context} (h : d.saved = c.current :: c.saved) : d.leave = c := by
  unfold leave
  rw [h]

/-- By induction on how the steps are balanced: a block that is entered and left adds nothing to what
open blocks have to put back. -/
theorem Balanced.saved {steps : List Step} (h : Balanced steps) (c : Context) :
    (c.after steps).saved = c.saved := by
  induction h generalizing c with
  | nil => rfl
  | @plain s rest ho he _ ih =>
    show ((c.change s).after rest).saved = _
    rw [ih, saved_of_plain ho he]
  | @block values thrown body rest ho _ _ ihb ihr =>
    have hs : ((c.change (.enter values)).after body).saved = c.current :: c.saved := by
      rw [ihb, saved_of_enter ho]
    show ((c.change (.enter values)).after (body ++ .exit thrown :: rest)).saved = _
    rw [after_append]
    show (((c.change (.enter values)).after body).leave.after rest).saved = _
    rw [ihr, leave_of_saved hs]

theorem leave_matched {before pre : List Step} (h : Matched before pre) (c : Context) :
    (c.after before).leave = c.after pre := by
  obtain ⟨values, body, ho, hb, rfl⟩ := h
  rw [after_append]
  show (((c.after pre).change (.enter values)).after body).leave = _
  exact leave_of_saved ((hb.saved _).trans (saved_of_enter ho _))

/-- What was entered after `pre` and left again is a block of the body that goes on. -/
theorem Matched.left {before pre pre' : List Step} (h : Matched before pre) (h' : Matched pre pre')
    (thrown : Option Fault) : Matched (before ++ [.exit thrown]) pre' := by
  obtain ⟨values, body, ho, hb, rfl⟩ := h
  obtain ⟨values', body', ho', hb', rfl⟩ := h'
  refine ⟨values', body' ++ .enter values :: (body ++ [.exit thrown]), ho',
    hb'.append (.block ho hb .nil), ?_⟩
  simp only [List.append_assoc, List.cons_append]

theorem Matched.plain {before pre : List Step} (h : Matched before pre) {s : Step}
    (ho : s.opens = false) (he : s.isExit = false) : Matched (before ++ [s]) pre := by
  obtain ⟨values, body, hv, hb, rfl⟩ := h
  refine ⟨values, body ++ [s], hv, hb.append (.plain ho he .nil), ?_⟩
  simp only [List.append_assoc, List.cons_append]

theorem Matched.length_lt {before pre : List Step} (h : Matched before pre) :
    pre.length < before.length := by
  obtain ⟨values, body, -, -, rfl⟩ := h
  simp only [List.length_append, List.length_cons]
  omega

/-- Where a program begins in no block, each of its exits leaves a block that it entered, or there is no
block to leave. -/
theorem matched_or_closed {c : Context} (hc : c.saved = []) (before : List Step) :
    (∃ pre, Matched before pre) ∨ (c.after before).saved = [] := by
  -- the block around the one that the last step leaves was entered in a shorter program
  induction hn : before.length using Nat.strongRecOn generalizing before with
  | ind n ih =>
    obtain rfl | ⟨front, s, rfl⟩ := List.eq_nil_or_concat before
    · exact .inr hc
    · rw [List.concat_eq_append] at hn ⊢
      have hfront : front.length < n := by
        rw [← hn, List.length_append, List.length_singleton]
        omega
      cases ho : s.opens with
      | true =>
        cases s with
        | enter values => exact .inl ⟨front, values, [], ho, .nil, rfl⟩
        | _ => cases ho
      | false =>
        cases he : s.isExit with
        | false =>
          rw [after_concat, saved_of_plain ho he]
          exact (ih _ hfront front rfl).imp_left fun ⟨pre, h⟩ => ⟨pre, h.plain ho he⟩
        | true =>
          cases s with
          | exit thrown =>
            obtain ⟨pre, h⟩ | hs := ih _ hfront front rfl
            · rw [after_concat, change, leave_matched h]
              exact (ih _ (Nat.lt_trans h.length_lt hfront) pre rfl).imp_left
                fun ⟨pre', h'⟩ => ⟨pre', h.left h' thrown⟩
            · refine .inr ?_
              rw [after_concat, change, leave, hs]
              exact hs
          | _ => cases he

/-! ## Other contexts -/

/-- Is the step about another context, a thread's or a copy's? -/
def Step.isElsewhere : Step → Bool
  | .child _ _ => true
  | .editCopy _ => true
  | _ => false

theorem change_elsewhere {s : Step} (hs : s.isElsewhere = true) (c : Context) : c.change s = c := by
  cases s with
  | child copied steps => rfl
  | editCopy edit => rfl
  | _ => cases hs

theorem after_here (c : Context) (steps : List Step) :
    c.after (steps.filter fun s => !s.isElsewhere) = c.after steps := by
  induction steps generalizing c with
  | nil => rfl
  | cons s rest ih =>
    show _ = (c.change s).after rest
    cases hs : s.isElsewhere with
    | true => rw [List.filter_cons_of_neg (by simp [hs]), change_elsewhere hs, ih]
    | false =>
      rw [List.filter_cons_of_pos (by simp [hs]), ← ih]
      rfl

/-! ## Texts -/

/-- The text stands under the key, or will when a block has been left. -/
def Holds (c : Context) (key text : String) : Prop :=
  (key, text) ∈ c.current ∨ ∃ texts ∈ c.saved, (key, text) ∈ texts

/-- The values that a step gives to the context. -/
def Step.given : Step → List (String × Value)
  | .put key value => [(key, value)]
  | .enter values => values
  | _ => []

theorem mem_texts {values : List (String × Value)} {ts : Named String}
    (h : (texts values).quiet = .ok ts) {key text : String} (hn : (key, text) ∈ ts) :
    ∃ v, (key, v) ∈ values ∧ v.text.quiet = .ok text := by
  induction values generalizing ts with
  | nil =>
    cases h
    cases hn
  | cons e rest ih =>
    obtain ⟨k, v⟩ := e
    simp only [texts, quiet_bind] at h
    cases hv : v.text.quiet with
    | error f =>
      rw [hv] at h
      cases h
    | ok s =>
      cases hr : (texts rest).quiet with
      | error f =>
        rw [hv, hr] at h
        cases h
      | ok more =>
        rw [hv, hr] at h
        cases h
        cases List.mem_cons.mp hn with
        | inl hn =>
          cases hn
          exact ⟨v, List.mem_cons_self, hv⟩
        | inr hn =>
          obtain ⟨w, hw, ht⟩ := ih hr hn
          exact ⟨w, List.mem_cons_of_mem _ hw, ht⟩

theorem holds_step {c : Context} {s : Step} {key text : String} (h : (c.change s).Holds key text) :
    c.Holds key text ∨ ∃ v, (key, v) ∈ s.given ∧ v.text.quiet = .ok text := by
  cases s with
  | put k value =>
    simp only [change] at h
    cases hq : value.text.quiet with
    | error f =>
      rw [hq] at h
      exact .inl h
    | ok s =>
      rw [hq] at h
      obtain hn | hs := h
      · cases Named.mem_put hn with
        | inl hn =>
          cases hn
          exact .inr ⟨value, List.mem_singleton_self _, hq⟩
        | inr hn => exact .inl (.inl hn)
      · exact .inl (.inr hs)
  | enter values =>
    simp only [change] at h
    cases hq : (texts values).quiet with
    | error f =>
      rw [hq] at h
      exact .inl h
    | ok ts =>
      rw [hq] at h
      obtain hn | ⟨saved, hs, hn⟩ := h
      · cases Named.mem_update hn with
        | inl hn => exact .inr (mem_texts hq hn)
        | inr hn => exact .inl (.inl hn)
      · cases List.mem_cons.mp hs with
        | inl hs =>
          subst hs
          exact .inl (.inl hn)
        | inr hs => exact .inl (.inr ⟨saved, hs, hn⟩)
  | remove k =>
    obtain hn | hs := h
    · exact .inl (.inl (List.mem_filter.mp hn).1)
    · exact .inl (.inr hs)
  | clear =>
    obtain hn | hs := h
    · cases hn
    · exact .inl (.inr hs)
  | exit thrown =>
    rw [change, leave] at h
    cases hs : c.saved with
    | nil =>
      rw [hs] at h
      exact .inl h
    | cons before rest =>
      rw [hs] at h
      refine .inl (.inr ?_)
      rw [hs]
      obtain hn | ⟨saved, hm, hn⟩ := h
      · exact ⟨before, List.mem_cons_self, hn⟩
      · exact ⟨saved, List.mem_cons_of_mem _ hm, hn⟩
  | get _ | editCopy _ | child _ _ => exact .inl h

theorem holds_after {c : Context} {steps : List Step} {key text : String}
    (h : (c.after steps).Holds key text) :
    c.Holds key text ∨ ∃ s ∈ steps, ∃ v, (key, v) ∈ s.given ∧ v.text.quiet = .ok text := by
  induction steps generalizing c with
  | nil => exact .inl h
  | cons s rest ih =>
    obtain hs | ⟨t, ht, hv⟩ := ih h
    · obtain hc | hv := holds_step hs
      · exact .inl hc
      · exact .inr ⟨s, List.mem_cons_self, hv⟩
    · exact .inr ⟨t, List.mem_cons_of_mem _ ht, hv⟩

/-! ## Programs of steps -/

/-- Every exit, whatever was raised in its block, passes that on and makes the context what it was when
the block was entered, entry for entry and in order; where a program begins in no block, an exit
without a block finds none to leave. A thread begins with no texts and a copy with those of its
parent, and what they show hangs on nothing else; what is done there or to a copy of the texts has no
bearing on the context. And all that is stored is the text of a value. -/
theorem blocks_restore {m : Machine} (hm : m.Sound) :
    (∀ before pre thrown, Matched before pre →
      ∃ m', runStep (m.after before) (.exit thrown) = (.swallowed false, m') ∧
        m'.context = (m.after pre).context) ∧
    (m.saved = [] → ∀ before, (∃ pre, Matched before pre) ∨ (m.after before).saved = []) ∧
    (∀ before copied steps,
      ∃ m', runStep (m.after before) (.child copied steps) =
          (.inner (runSteps (.ofContext ⟨if copied then (m.after before).texts else [], []⟩) steps).1,
            m') ∧
        m'.context = (m.after before).context) ∧
    (∀ steps, (m.after (steps.filter fun s => !s.isElsewhere)).context = (m.after steps).context) ∧
    ∀ steps key text, (m.after steps).context.Holds key text →
      m.context.Holds key text ∨ ∃ s ∈ steps, ∃ v, (key, v) ∈ s.given ∧ v.text.quiet = .ok text := by
  refine ⟨fun before pre thrown h => ?_, fun hs before => ?_, fun before copied steps => ?_,
    fun steps => ?_, fun steps key text h => ?_⟩
  · refine ⟨_, Machine.runStep_exit _ thrown, ?_⟩
    rw [Machine.context_reset, Machine.context_after hm, leave_matched h, Machine.context_after hm]
  · have hc : m.context.saved = [] := congrArg (List.map m.read) hs
    refine (matched_or_closed hc before).imp_right fun h => ?_
    rw [← Machine.context_after hm] at h
    exact List.map_eq_nil_iff.mp h
  · have hb : (m.after before).Sound := (Machine.later_steps hm before).sound
    refine ⟨_, Prod.ext ?_ rfl, Machine.context_step hb (.child copied steps)⟩
    simp only [runStep]
    refine congrArg Outcome.inner (Machine.runSteps_alike (Machine.sound_child hb copied)
      (Machine.sound_ofContext _) ?_ steps)
    rw [Machine.context_child hb, Machine.context_ofContext]
    rfl
  · rw [Machine.context_after hm, Machine.context_after hm, after_here]
  · rw [Machine.context_after hm] at h
    exact holds_after h

/-- Two blocks, one in the other, in which texts are put, taken away and cleared. -/
def nested : List Step :=
  [.put "user" (.str "ann"), .enter [("request", .str "r7")], .put "user" (.str "bob"),
    .enter [("user", .str "eve")], .child true [.clear], .editCopy fun _ => [], .clear, .exit none,
    .remove "user"]

theorem blocks_restore_nested :
    Machine.start.Sound ∧ Matched nested [.put "user" (.str "ann")] ∧ Machine.start.saved = [] ∧
      (Machine.start.after nested).context = ⟨[("request", "r7")], [[("user", "ann")]]⟩ ∧
      ∃ m', runStep (Machine.start.after nested) (.exit (some (.raised (.builtin "ValueError") []))) =
        (.swallowed false, m') ∧ m'.context = ⟨[("user", "ann")], []⟩ := by
  have hinner : Balanced [.enter [("user", .str "eve")], .child true [.clear],
      .editCopy fun _ => [], .clear, .exit none, .remove "user"] :=
    .block rfl (.plain rfl rfl (.plain rfl rfl (.plain rfl rfl .nil))) (.plain rfl rfl .nil)
  have hm : Matched nested [.put "user" (.str "ann")] :=
    ⟨_, _, rfl, .plain rfl rfl hinner, rfl⟩
  have hs : Machine.start.Sound := Machine.sound_start
  exact ⟨hs, hm, rfl, rfl, (blocks_restore hs).1 _ _ _ hm⟩

end Context

end Gelf
