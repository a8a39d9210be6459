import Gelf.Proofs.Fresh
import Gelf.Proofs.Network
import Gelf.Proofs.Strict
import Mathlib.Data.List.TakeWhile

/-!
# Gelf.Proofs.Finality

Is the end of a handler the end of its network traffic?

* `Final`: nothing goes out after a call to close the handler has returned, and all sockets of a
  closed handler were closed.
* `Leaks`: the handler was closed while its sender encoded a message, and the sender wrote the
  message out all the same.
* `Orderly`: what the steps of a run keep, before the handler is closed and after.
* `close_final_iff`: over every run, the end is final just if no message leaks.
-/

namespace Gelf

open Act

/-- The handler is closed from here on. -/
def Deed.ends : Deed → Bool
  | .turned .closed _ => true
  | .closed _ => true
  | _ => false

def Deed.text? : Deed → Option String
  | .encoded text => some text
  | _ => none

/-- How many events there were when a call to close returned. -/
def Deed.mark? : Deed → Option Nat
  | .closed events => some events
  | _ => none

def World.marks (w : World) : List Nat := w.history.filterMap Deed.mark?

theorem noted_marks (w : World) (d : Deed) : (w.noted d).marks = w.marks ++ d.mark?.toList := by
  unfold World.marks
  rw [World.noted_history, List.filterMap_append]
  cases h : d.mark? <;> simp [h]

theorem mark_of_ends {d : Deed} (hd : d.ends = false) : d.mark? = none := by
  cases d <;> first | rfl | cases hd

theorem marks_open {w : World} (hw : ∀ d ∈ w.history, d.ends = false) : w.marks = [] := by
  rw [World.marks, List.filterMap_eq_nil_iff]
  exact fun d hd => mark_of_ends (hw d hd)

/-- The texts that were encoded after the handler was closed. -/
def lateTexts (ds : List Deed) : List String :=
  (ds.dropWhile fun d => !d.ends).filterMap Deed.text?

theorem lateTexts_open {ds : List Deed} (hd : ∀ d ∈ ds, d.ends = false) (es : List Deed) :
    lateTexts (ds ++ es) = lateTexts es := by
  unfold lateTexts
  rw [List.dropWhile_append_of_pos]
  intro d hm
  simp [hd d hm]

theorem lateTexts_ended {ds : List Deed} (hd : ∃ d ∈ ds, d.ends = true) (es : List Deed) :
    lateTexts (ds ++ es) = lateTexts ds ++ es.filterMap Deed.text? := by
  have hne : (ds.dropWhile fun d => !d.ends) ≠ [] := by
    obtain ⟨d, hm, he⟩ := hd
    intro h
    rw [List.dropWhile_eq_nil_iff] at h
    simpa [he] using h d hm
  unfold lateTexts
  rw [List.dropWhile_append, if_neg (by simpa using hne), List.filterMap_append]

namespace Handler

/-- The handler gets its sender for a host, if for anything, and has a port that can be written
out. -/
structure Networked (k : Handler) : Prop where
  factory : k.factory = none
  host : k.config.value .host = .null ∨ ∃ name, k.config.value .host = .str name
  port : ∃ n, k.config.value .port = .int n ∧ n.natAbs < intLimit

/-- No event that needs the network comes after a call to close the handler has returned. -/
def Silent (w : World) : Prop :=
  ∀ k ∈ w.marks, ∀ e ∈ w.outside.events.drop k, e.isNetwork = false

/-- On the way from one world to the other: nothing went out after the handler was closed, and all
sockets of a closed handler were closed. -/
def Final (w w' : World) : Prop :=
  Silent w' ∧ (Closed w' → w'.closes + w.connections = w.closes + w'.connections)

instance (w : World) : Decidable (Silent w) :=
  inferInstanceAs (Decidable (∀ k ∈ w.marks, ∀ e ∈ w.outside.events.drop k, e.isNetwork = false))

instance (w w' : World) : Decidable (Final w w') := inferInstanceAs (Decidable (_ ∧ _))

/-- A text was encoded after the handler was closed, and its sender could write it out. -/
def Leaks (w : World) : Prop := ∃ text ∈ lateTexts w.history, w.Writes text

/-! ## Before the end and after it -/

variable {b n : Nat} {w w' : World}

/-- The handler was never closed, and its sender has all sockets that are open. Here `b` counts the
attempts to close one that were made before. -/
structure Running (b : Nat) (w : World) : Prop where
  going : ∀ d ∈ w.history, d.ends = false
  loose : w.handler.attached = false → w.closes = b + w.connections
  held : w.handler.attached = true → w.Networked ∧ w.closes + w.sockets = b + w.connections

/-- The handler is closed, and the end was final if no message leaked. -/
structure AtRest (b : Nat) (w : World) : Prop where
  released : w.handler.attached = false
  ended : ∃ d ∈ w.history, d.ends = true
  marks : ∀ k ∈ w.marks, k ≤ w.outside.events.length
  final : Silent w ∧ w.closes = b + w.connections ↔ ¬ Leaks w

structure Orderly (b : Nat) (w : World) : Prop where
  networked : Networked w.handler
  running : ¬ Closed w → Running b w
  atRest : Closed w → AtRest b w

theorem Running.noted (hr : Running b w) {d : Deed} (he : d.ends = false)
    (hc : d.isConnected = false) : Running b (w.noted d) := by
  have hn : (w.noted d).connections = w.connections := by
    simp [World.connections, World.noted, hc]
  refine ⟨?_, fun ha => ?_, fun ha => ?_⟩
  · intro e hm
    rcases List.mem_append.mp hm with hm | hm
    · exact hr.going e hm
    · rwa [List.mem_singleton.mp hm]
  · rw [hn]
    exact hr.loose ha
  · rw [hn]
    exact hr.held ha

theorem AtRest.noted (hr : AtRest b w) {d : Deed} (hc : d.isConnected = false)
    (ht : d.text? = none) (hk : ∀ k ∈ d.mark?.toList, k = w.outside.events.length) :
    AtRest b (w.noted d) := by
  have hn : (w.noted d).connections = w.connections := by
    simp [World.connections, World.noted, hc]
  have hl : lateTexts (w.noted d).history = lateTexts w.history := by
    simp [World.noted, lateTexts_ended hr.ended, ht]
  have hs : Silent (w.noted d) ↔ Silent w := by
    unfold Silent
    rw [noted_marks]
    constructor
    · intro h k hm
      exact h k (List.mem_append_left _ hm)
    · intro h k hm
      rcases List.mem_append.mp hm with hm | hm
      · exact h k hm
      · simp [hk k hm, World.noted]
  refine ⟨hr.released, ?_, ?_, ?_⟩
  · obtain ⟨e, hm, he⟩ := hr.ended
    exact ⟨e, List.mem_append_left _ hm, he⟩
  · intro k hm
    rw [noted_marks] at hm
    rcases List.mem_append.mp hm with hm | hm
    · exact hr.marks k hm
    · exact Nat.le_of_eq (hk k hm)
  · rw [hs, hn, Leaks, hl]
    exact hr.final

theorem Orderly.noted (ho : Orderly b w) {d : Deed} (he : d.ends = false)
    (hc : d.isConnected = false) (ht : d.text? = none) : Orderly b (w.noted d) where
  networked := ho.networked
  running hw := (ho.running hw).noted he hc
  atRest hw := (ho.atRest hw).noted hc ht (by simp [mark_of_ends he])

theorem Orderly.aside (ho : Orderly b w) (host : LocalHost) (stream : ErrorStream)
    (reports : List Report) (emitting : Bool) :
    Orderly b { w with
      host := host
      stream := stream
      reports := reports
      handler := { w.handler with emitting := emitting } } := by
  refine ⟨⟨ho.networked.factory, ho.networked.host, ho.networked.port⟩, fun h => ?_, fun h => ?_⟩
  · obtain ⟨h₁, h₂, h₃⟩ := ho.running h
    exact ⟨h₁, h₂, h₃⟩
  · obtain ⟨h₁, h₂, h₃, h₄⟩ := ho.atRest h
    exact ⟨h₁, h₂, h₃, h₄⟩

theorem Orderly.event (ho : Orderly b w) {o : Outside} {e : Event}
    (hev : o.events = w.outside.events ++ [e]) (hi : o.messageId = w.outside.messageId)
    (hn : e.isNetwork = false) (hc : e.isClose = false) :
    Orderly b { w with outside := o } := by
  have hcl : ({ w with outside := o } : World).closes = w.closes := by
    simp [World.closes, hev, hc]
  have hw : ∀ text, ({ w with outside := o } : World).Writes text ↔ w.Writes text :=
    writes_same rfl hi
  refine ⟨ho.networked, fun h => ?_, fun h => ?_⟩
  · obtain ⟨h₁, h₂, h₃⟩ := ho.running h
    refine ⟨h₁, ?_, ?_⟩
    · rw [hcl]
      exact h₂
    · rw [hcl]
      exact h₃
  · obtain ⟨h₁, h₂, h₃, h₄⟩ := ho.atRest h
    have hs : Silent { w with outside := o } ↔ Silent w := by
      have hd : ∀ k ∈ w.marks,
          o.events.drop k = w.outside.events.drop k ++ [e] := by
        intro k hm
        rw [hev, List.drop_append_of_le_length (h₃ k hm)]
      constructor
      · intro h k hm x hx
        refine h k hm x ?_
        show x ∈ o.events.drop k
        rw [hd k hm]
        exact List.mem_append_left _ hx
      · intro h k hm x hx
        have hx' : x ∈ o.events.drop k := hx
        rw [hd k hm] at hx'
        rcases List.mem_append.mp hx' with hx' | hx'
        · exact h k hm x hx'
        · rwa [List.mem_singleton.mp hx']
    refine ⟨h₁, h₂, fun k hm => ?_, ?_⟩
    · have := h₃ k hm
      show k ≤ o.events.length
      rw [hev, List.length_append]
      omega
    · rw [hs, hcl, Leaks]
      simp only [hw]
      exact h₄

/-! ## The end -/

theorem retire_snd (w : World) : (retire.perform w).2 =
    if w.handler.attached = true then (Sender.close.perform (retired w)).2 else retired w := by
  unfold retire retired turn Act.note
  simp only [perform_bind, perform_get, perform_modify]
  cases w.handler.attached <;> rfl

theorem retire_history (w : World) : ∃ ds, (retire.perform w).2.history = w.history ++ ds ∧
    (∃ d ∈ ds, d.ends = true) ∧ ds.filterMap Deed.mark? = [] ∧ lateTexts ds = [] ∧
    ds.countP Deed.isConnected = 0 := by
  obtain ⟨o, s, -, hr⟩ := outermost_retire w
  rw [hr, retired]
  split
  · refine ⟨[.turned .closed false, .closing], ?_, ⟨_, List.mem_cons_self, rfl⟩, rfl, rfl, rfl⟩
    simp [World.turned, World.noted]
  · exact ⟨[.turned .closed false], rfl, ⟨_, List.mem_cons_self, rfl⟩, rfl, rfl, rfl⟩

theorem retire_settled (ho : Orderly b w) (hc : ¬ Closed w) :
    (retire.perform w).2.settled = w.settled ∧
      (retire.perform w).2.closes = b + w.connections := by
  have hr := ho.running hc
  rw [retire_snd, retired]
  cases ha : w.handler.attached with
  | false => exact ⟨rfl, hr.loose ha⟩
  | true =>
    obtain ⟨hn, hb⟩ := hr.held ha
    rw [if_pos rfl, if_pos rfl]
    have hclose := senderClose_balance (w := (w.turned .closed false).noted .closing) hn
    exact ⟨hclose.2, hclose.1.trans hb⟩

/-- When the handler gives its sender up, no socket is left. -/
theorem Orderly.retire (ho : Orderly b w) (hc : ¬ Closed w) :
    Orderly b (Handler.retire.perform w).2 := by
  obtain ⟨ds, hds, hend, hmark, hlate, hcon⟩ := retire_history w
  obtain ⟨-, hclose⟩ := retire_settled ho hc
  have hopen := (ho.running hc).going
  have hrest : AtRest b (Handler.retire.perform w).2 := by
    -- no call to close has returned yet, so there is nothing that could be late
    have hnone : (Handler.retire.perform w).2.marks = [] := by
      rw [World.marks, hds, List.filterMap_append, hmark, List.append_nil]
      exact marks_open hopen
    have hno : ∀ k, k ∉ (Handler.retire.perform w).2.marks := by simp [hnone]
    refine ⟨?_, ?_, fun k hm => absurd hm (hno k), ?_⟩
    · obtain ⟨o, s, -, hr⟩ := outermost_retire w
      rw [hr, retired]
      split <;> rfl
    · obtain ⟨d, hm, he⟩ := hend
      exact ⟨d, hds ▸ List.mem_append_right _ hm, he⟩
    · have hleak : ¬ Leaks (Handler.retire.perform w).2 := by
        rintro ⟨text, hm, -⟩
        rw [hds, lateTexts_open hopen, hlate] at hm
        cases hm
      have hcount : (Handler.retire.perform w).2.connections = w.connections := by
        rw [World.connections, hds, List.countP_append, hcon]
        rfl
      have hs : Silent (Handler.retire.perform w).2 := fun k hm => absurd hm (hno k)
      rw [hcount]
      simp [hleak, hs, hclose]
  refine ⟨?_, fun h => absurd (retire_stage w) h, fun _ => hrest⟩
  obtain ⟨o, s, -, hr⟩ := outermost_retire w
  rw [hr, retired]
  split <;> exact ⟨ho.networked.factory, ho.networked.host, ho.networked.port⟩

/-- What stays the same in the sender does so, and a handler that is not closed after all keeps it. -/
def retaining : Passage where
  rel w w' := w'.settled = w.settled ∧
    (¬ Closed w' → ¬ Closed w ∧ w'.handler.attached = w.handler.attached)
  refl _ := ⟨rfl, fun h => ⟨h, rfl⟩⟩
  trans h₁ h₂ := ⟨h₂.1.trans h₁.1, fun h =>
    have ⟨hc, ha⟩ := h₂.2 h
    ⟨(h₁.2 hc).1, ha.trans (h₁.2 hc).2⟩⟩

/-- A handler that is busy or closed stays so, in good order, and keeps its sender if it can. -/
def calmly (b : Nat) : Passage := retaining.within fun w => Deaf w ∧ Orderly b w

theorem composing_calmly (b : Nat) : (calmly b).Composing where
  told _ _ _ h := ⟨⟨h.1, h.2.aside _ _ _ _⟩, retaining.refl _⟩
  escaped _ _ _ h := ⟨⟨h.1, h.2.noted rfl rfl rfl⟩, retaining.refl _⟩
  written _ _ h := ⟨⟨h.1, h.2.aside _ _ _ _⟩, retaining.refl _⟩
  retired w hc h := ⟨⟨.inr (retire_stage w), h.2.retire hc⟩, (retire_settled h.2 hc).1,
    fun hn => absurd (retire_stage w) hn⟩
  closed w hc h := by
    have hr := (h.2.atRest hc).noted (d := .closed w.outside.events.length) rfl rfl
      (fun k hk => List.mem_singleton.mp hk)
    exact ⟨⟨h.1, h.2.networked, fun hn => absurd hc hn, fun _ => hr⟩, retaining.refl _⟩
  looked _ h := ⟨⟨h.1, h.2.event (e := .hostName) rfl rfl rfl rfl⟩, retaining.refl _⟩
  host _ _ h := ⟨⟨h.1, h.2.aside _ _ _ _⟩, retaining.refl _⟩

theorem along_hooks_calmly (b n : Nat) (e : Errand) : Along (calmly b) (hooks n e) :=
  along_hooks (composing_calmly b).toDiscreet.modest
    (fun _ _ r => along_handle_deaf (fun _ h => h.1) r) n e

/-! ## A call to close that returns -/

/-- A closed handler has returned from a call to close it. -/
def Marked (w : World) : Prop := Closed w → ∃ k, k ∈ w.marks

theorem close_ok_marked {h : Hooks} (hr : (close h).perform w = (.ok (), w')) : Marked w' := by
  have hm : ∀ v : World, Marked (v.noted (.closed v.outside.events.length)) := by
    intro v _
    rw [noted_marks]
    exact ⟨_, List.mem_append_right _ List.mem_cons_self⟩
  by_cases hc : Closed w
  · rw [perform_close_closed hc] at hr
    cases hr
    exact hm w
  · obtain ⟨x, hx⟩ := perform_close_open hc
    rw [hx] at hr
    obtain ⟨_, w₁, -, hr⟩ := bind_ok hr
    cases hr
    exact hm w₁

theorem discreet_deaf : (Passage.keeping Deaf).Discreet where
  told _ _ _ h := ⟨h, trivial⟩
  escaped _ _ _ h := ⟨h, trivial⟩
  written _ _ h := ⟨h, trivial⟩
  retired w _ _ := ⟨.inr (retire_stage w), trivial⟩
  closed _ _ h := ⟨h, trivial⟩

theorem words_ok_marked {h : Hooks} {α : Type} {s : Script α} (hs : s.Strict)
    (hh : ∀ e w w', (h e).perform w = (.ok (), w') → Deaf w ∧ Marked w → Deaf w' ∧ Marked w')
    {a : α} (hr : (words h s).perform w = (.ok a, w')) (hw : Deaf w ∧ Marked w) :
    Deaf w' ∧ Marked w' := by
  refine Script.strict_run (I := fun w => Deaf w ∧ Marked w) (fun q w a w' hq hw => ?_) hs hr hw
  cases q with
  | errand e => exact hh e w w' hq hw
  | unformatted raw f =>
    cases hq
    exact hw
  | localHost =>
    cases hq
    exact hw

/-- An errand that succeeds and finds the handler closed has a call to close it behind it. It fails
where a call inside it does not return. -/
theorem hooks_ok_marked (n : Nat) (e : Errand) {w w' : World}
    (hr : (hooks n e).perform w = (.ok (), w')) (hw : Deaf w ∧ Marked w) :
    Deaf w' ∧ Marked w' := by
  -- on how deep errands of errands go
  induction n generalizing e w w' with
  | zero =>
    cases hr
    exact hw
  | succ n ih =>
    have hd := along_hooks discreet_deaf.modest
      (fun _ _ r => along_handle_deaf (fun _ h => h) r) (n + 1) e w hw.1
    rw [hr] at hd
    cases e with
    | close => exact ⟨hd.1, close_ok_marked hr⟩
    | log call =>
      simp only [hooks, runErrand] at hr
      rw [perform_get_bind] at hr
      obtain ⟨r, w₁, hmake, hr⟩ := bind_ok hr
      obtain ⟨hd₁, hm₁⟩ := words_ok_marked (strict_make _ _) (fun e _ _ h => ih e h) hmake hw
      have hsame := along_discard (P := Passage.keeping fun v => v = w₁) (a := handle (hooks n) r)
        (fun v hv => ⟨by rw [hv]; exact handle_deaf hd₁ r, trivial⟩) w₁ rfl
      rw [hr] at hsame
      obtain rfl := hsame.1
      exact ⟨hd₁, hm₁⟩

/-! ## Sending -/

theorem transmitted_history {text : String} (ht : Transmitted text (w.noted (.encoded text)) w') :
    ∃ j, w'.history = w.history ++ (.encoded text :: List.replicate j .connected) := by
  obtain ⟨j, hj⟩ := ht.history
  refine ⟨j, ?_⟩
  rw [hj, World.noted_history, List.append_assoc]
  rfl

theorem noted_text_connections (text : String) :
    (w.noted (.encoded text)).connections = w.connections := by
  simp [World.connections, World.noted, Deed.isConnected]

theorem Running.transmitted {text : String} (hr : Running b w)
    (ha : w.handler.attached = true) (ht : Transmitted text (w.noted (.encoded text)) w') :
    Running b w' := by
  obtain ⟨j, hj⟩ := transmitted_history ht
  obtain ⟨hn, hb⟩ := hr.held ha
  refine ⟨?_, fun hf => ?_, fun _ => ⟨networked_of_settled ht.settled hn, ?_⟩⟩
  · intro d hd
    rw [hj] at hd
    rcases List.mem_append.mp hd with hd | hd
    · exact hr.going d hd
    · rcases List.mem_cons.mp hd with rfl | hd
      · rfl
      · rw [List.eq_of_mem_replicate hd]
        rfl
  · rw [ht.handler] at hf
    cases ha.symm.trans hf
  · have hbal := ht.balance
    have hcl : (w.noted (.encoded text)).closes = w.closes := rfl
    have hso : (w.noted (.encoded text)).sockets = w.sockets := rfl
    rw [noted_text_connections] at hbal
    omega

theorem not_silent {k : Nat} (hk : k ∈ w.marks) (hle : k ≤ w.outside.events.length)
    (hh : w'.marks = w.marks) (ht : Talked w w') : ¬ Silent w' := by
  intro hs
  obtain ⟨e, rest, he, hev⟩ := ht
  have hm : e ∈ w'.outside.events.drop k := by
    rw [hev, List.drop_append_of_le_length hle]
    exact List.mem_append_right _ List.mem_cons_self
  have := hs k (hh ▸ hk) e hm
  rw [he] at this
  cases this

theorem AtRest.transmitted {text : String} (hr : AtRest b w) (hm : ∃ k, k ∈ w.marks)
    (ht : Transmitted text (w.noted (.encoded text)) w') : AtRest b w' := by
  obtain ⟨j, hj⟩ := transmitted_history ht
  have hlate : lateTexts w'.history = lateTexts w.history ++ [text] := by
    rw [hj, lateTexts_ended hr.ended]
    simp [Deed.text?]
  have hmarks : w'.marks = w.marks := by
    rw [World.marks, hj]
    simp [World.marks, Deed.mark?]
  have hw : ∀ other, w'.Writes other ↔ w.Writes other := ht.writes
  have hle : w.outside.events.length ≤ w'.outside.events.length := ht.events.length_le
  have hsub : w.history <+: w'.history := ⟨_, hj.symm⟩
  refine ⟨?_, ?_, fun k hk => ?_, ?_⟩
  · rw [ht.handler]
    exact hr.released
  · obtain ⟨d, hd, he⟩ := hr.ended
    exact ⟨d, hsub.subset hd, he⟩
  · rw [hmarks] at hk
    exact Nat.le_trans (hr.marks k hk) hle
  · by_cases hy : w.Writes text
    -- what is written now comes after the mark of the call that closed the handler
    · obtain ⟨k, hk⟩ := hm
      have hleak : Leaks w' := ⟨text, by simp [hlate], (hw text).mpr hy⟩
      have hloud : ¬ Silent w' := not_silent hk (hr.marks k hk) hmarks (ht.talked hy)
      simp [hleak, hloud]
    · obtain ⟨hev, hh⟩ := ht.silent hy
      have hcon : w'.connections = w.connections := by
        rw [World.connections, hh]
        exact noted_text_connections text
      have hcl : w'.closes = w.closes := by
        rw [World.closes, hev]
        rfl
      have hs : Silent w' ↔ Silent w := by
        unfold Silent
        rw [hmarks, hev]
        rfl
      have hleak : Leaks w' ↔ Leaks w := by
        unfold Leaks
        simp only [hlate, hw, List.mem_append, List.mem_singleton]
        constructor
        · rintro ⟨other, ho | rfl, hwo⟩
          · exact ⟨other, ho, hwo⟩
          · exact absurd hwo hy
        · rintro ⟨other, ho, hwo⟩
          exact ⟨other, .inl ho, hwo⟩
      rw [hs, hcl, hcon, hleak]
      exact hr.final

theorem Orderly.transmitted {text : String} (ho : Orderly b w) (hm : Marked w)
    (ha : ¬ Closed w → w.handler.attached = true)
    (ht : Transmitted text (w.noted (.encoded text)) w') : Orderly b w' := by
  have hclosed : Closed w' ↔ Closed w := by
    rw [Closed, Closed, ht.handler]
    rfl
  refine ⟨?_, fun hc => ?_, fun hc => ?_⟩
  · rw [ht.handler]
    exact ho.networked
  · rw [hclosed] at hc
    exact (ho.running hc).transmitted (ha hc) ht
  · rw [hclosed] at hc
    exact (ho.atRest hc).transmitted (hm hc) ht

theorem encoding_orderly {m : Message} {send : String → Act Value}
    (hsend : ∀ text (v : World), v.settled = w.settled →
      Transmitted text (v.noted (.encoded text)) ((send text).perform (v.noted (.encoded text))).2)
    (hd : Deaf w) (ho : Orderly b w) (hc : ¬ Closed w) (ha : w.handler.attached = true) :
    Orderly b ((words (hooks n) m.encode >>= fun text =>
      note (.encoded text) >>= fun _ => send text).perform w).2 := by
  have hcalm := along_words (along_hooks_calmly b n) m.encode w ⟨hd, ho⟩
  rw [perform_bind]
  cases hr : (words (hooks n) m.encode).perform w with
  | mk x v =>
    rw [hr] at hcalm
    obtain ⟨⟨-, ho'⟩, hset, hkeep⟩ := hcalm
    cases x with
    | error f => exact ho'
    | ok text =>
      -- by now a value may have closed the handler, but then its call to close has returned
      have hm := words_ok_marked (strict_encode m) (fun e _ _ h => hooks_ok_marked n e h) hr
        ⟨hd, fun h => absurd h hc⟩
      dsimp only
      rw [perform_note_bind]
      exact ho'.transmitted hm.2 (fun h => (hkeep h).2.trans ha) (hsend text v hset)

theorem handedOver_orderly {m : Message} (hd : Deaf w) (ho : Orderly b w)
    (ha : w.handler.attached = true) :
    Deaf (handedOver (hooks n) m w) ∧ Orderly b (handedOver (hooks n) m w) := by
  have hc : ¬ Closed w := by
    intro h
    cases (ho.atRest h).released.symm.trans ha
  have ho' : Orderly b (w.noted (.sending m)) := ho.noted rfl rfl rfl
  obtain ⟨⟨s, hs, hn⟩, -⟩ := (ho.running hc).held ha
  have hsent : Orderly b ((Sender.send (hooks n) m).perform (w.noted (.sending m))).2 := by
    unfold Sender.send
    rw [perform_get_bind]
    have hs' : (w.noted (.sending m)).sender = some s := hs
    rw [hs']
    cases s with
    | udp s =>
      dsimp only
      unfold UdpSender.send
      split
      · exact ho'
      · refine encoding_orderly (fun text v hv => ?_) hd ho' hc ha
        obtain ⟨o, hs₁⟩ := udp_of_settled hs' hv
        exact udp_transmitted (w := v.noted (.encoded text)) hs₁ text
    | tcp s =>
      dsimp only
      unfold TcpSender.send
      split
      · exact ho'
      · refine encoding_orderly (fun text v hv => ?_) hd ho' hc ha
        obtain ⟨c, o, hs₁⟩ := tcp_of_settled hs' hv
        exact tcp_transmitted (w := v.noted (.encoded text)) hs₁ hn _ text
    | _ => cases hn
  have hbusy := (handedOver_busy n m w).trans (hd.resolve_right hc)
  exact ⟨.inl hbusy, hsent.noted rfl rfl rfl⟩

/-! ## Getting a sender -/

/-- A busy handler that has no sender yet. -/
structure Vacant (b : Nat) (w : World) : Prop where
  busy : Busy w
  going : ¬ Closed w
  loose : w.handler.attached = false
  orderly : Orderly b w

theorem noted_opening_connections : (w.noted .opening).connections = w.connections := by
  simp [World.connections, World.noted, Deed.isConnected]

theorem dialled_open {x : Except Fault Unit} (hw : ∀ d ∈ w.history, d.ends = false)
    (hd : Dialled (w.noted .opening) x w') : ∀ d ∈ w'.history, d.ends = false := by
  obtain ⟨j, hj⟩ := hd.history
  intro d hm
  rw [hj, World.noted_history, List.append_assoc] at hm
  rcases List.mem_append.mp hm with hm | hm
  · exact hw d hm
  · rcases List.mem_cons.mp hm with rfl | hm
    · rfl
    · rw [List.eq_of_mem_replicate hm]
      rfl

theorem Vacant.missed (hv : Vacant b w) {f : Fault}
    (hd : Dialled (w.noted .opening) (.error f) w') : Vacant b w' := by
  have hk : w'.handler = w.handler := hd.handler
  have hr := hv.orderly.running hv.going
  have ho : ¬ Closed w' := by
    rw [Closed, hk]
    exact hv.going
  have ha : w'.handler.attached = false := by
    rw [hk]
    exact hv.loose
  refine ⟨?_, ho, ha, ?_, fun _ => ⟨dialled_open hr.going hd, fun _ => ?_, fun h => ?_⟩, fun h => ?_⟩
  · rw [Busy, hk]
    exact hv.busy
  · rw [hk]
    exact hv.orderly.networked
  · have hb := hd.failed f rfl
    have hl := hr.loose hv.loose
    have hcl : (w.noted .opening).closes = w.closes := rfl
    rw [noted_opening_connections] at hb
    omega
  · cases ha.symm.trans h
  · exact absurd h ho

theorem Vacant.ready (hv : Vacant b w) (hd : Dialled (w.noted .opening) (.ok ()) w') :
    Deaf (w'.turned .ready true) ∧ Orderly b (w'.turned .ready true) := by
  have hk : w'.handler = w.handler := hd.handler
  have hr := hv.orderly.running hv.going
  obtain ⟨hn, hb⟩ := hd.opened rfl
  have hcon : (w'.turned .ready true).connections = w'.connections := by
    simp [World.connections, World.turned, World.noted, Deed.isConnected]
  have hbusy : w'.handler.emitting = true := by
    rw [hk]
    exact hv.busy
  have hnet : Networked w'.handler := by
    rw [hk]
    exact hv.orderly.networked
  have hopen := dialled_open hr.going hd
  refine ⟨.inl hbusy, ⟨hnet.factory, hnet.host, hnet.port⟩, fun _ => ⟨?_, fun h => ?_, fun _ => ?_⟩,
    fun h => ?_⟩
  · intro d hm
    rw [World.turned_history] at hm
    rcases List.mem_append.mp hm with hm | hm
    · exact hopen d hm
    · rw [List.mem_singleton.mp hm]
      rfl
  · cases h
  · refine ⟨hn, ?_⟩
    have hl := hr.loose hv.loose
    have hcl : (w.noted .opening).closes = w.closes := rfl
    have hcl' : (w'.turned .ready true).closes = w'.closes := rfl
    have hso' : (w'.turned .ready true).sockets = w'.sockets := rfl
    rw [noted_opening_connections] at hb
    omega
  · cases h

/-- The handler is busy or closed, and all is in order. -/
def orderly (b : Nat) : Passage := .keeping fun w => Deaf w ∧ Orderly b w

theorem orderly_of_calmly (b : Nat) (w w' : World) (h : (calmly b).rel w w') :
    (orderly b).rel w w' := fun hw => ⟨(h hw).1, trivial⟩

theorem along_hooks_orderly (b n : Nat) (e : Errand) : Along (orderly b) (hooks n e) :=
  (along_hooks_calmly b n e).mono (orderly_of_calmly b)

theorem delivering_orderly (b : Nat) : (orderly b).Delivering where
  told w r hr := orderly_of_calmly b _ _ ((composing_calmly b).told w r hr)
  escaped w r hr := orderly_of_calmly b _ _ ((composing_calmly b).escaped w r hr)
  written w s := orderly_of_calmly b _ _ ((composing_calmly b).written w s)
  retired w hw := orderly_of_calmly b _ _ ((composing_calmly b).retired w hw)
  closed w hw := orderly_of_calmly b _ _ ((composing_calmly b).closed w hw)
  lost _ _ _ h := ⟨⟨h.1, h.2.aside _ _ _ _⟩, trivial⟩
  unheard _ _ _ h := ⟨⟨h.1, h.2.noted rfl rfl rfl⟩, trivial⟩

theorem openByHost_orderly {host port timeout : Value} (hv : Vacant b w) (hp : Plain host port) :
    (orderly b).rel w ((openByHost (hooks n) host port timeout).perform w).2 := by
  rintro -
  refine ⟨?_, trivial⟩
  unfold openByHost
  rw [perform_note_bind, perform_attempt_bind]
  cases hr : (Sender.openFor (hooks n) host port timeout).perform (w.noted .opening) with
  | mk x v =>
    have hd := openFor_dialled hp timeout hr
    cases x with
    | ok _ => exact hv.ready hd
    | error f =>
      dsimp only
      have hm := hv.missed hd
      refine (along_during_words_bind (along_hooks_orderly b n) (openingReport_yields host port f)
        (fun found hf => ?_) v ⟨.inl hm.busy, hm.orderly⟩).1
      split
      · exact along_bind ((delivering_orderly b).along_report (along_hooks_orderly b n) (hf _ rfl))
          fun _ => along_pure _
      · exact along_fault _

theorem ensureSender_orderly (hc : ¬ Closed w) :
    (orderly b).rel w ((ensureSender (hooks n)).perform w).2 := by
  rintro ⟨hd, ho⟩
  unfold ensureSender
  rw [perform_get_bind]
  dsimp only
  cases ha : w.handler.attached with
  | true => exact ⟨⟨hd, ho⟩, trivial⟩
  | false =>
    have hv : Vacant b w := ⟨hd.resolve_right hc, hc, ha, ho⟩
    rw [if_neg Bool.false_ne_true, ho.networked.factory]
    obtain ⟨k, hport, hk⟩ := ho.networked.port
    rcases ho.networked.host with hhost | ⟨name, hhost⟩
    · rw [hhost]
      exact ⟨⟨hd, ho⟩, trivial⟩
    · rw [hhost, hport]
      dsimp only
      split
      · exact openByHost_orderly hv ⟨name, k, rfl, rfl, hk⟩ ⟨hd, ho⟩
      · exact ⟨⟨hd, ho⟩, trivial⟩

theorem ensureSender_attached {h : Hooks} (hf : w.handler.factory = none)
    (hr : (ensureSender h).perform w = (.ok true, w')) : w'.handler.attached = true := by
  unfold ensureSender at hr
  rw [perform_get_bind] at hr
  dsimp only at hr
  split at hr
  · cases hr
    assumption
  · rw [hf] at hr
    dsimp only at hr
    split at hr
    · unfold openByHost at hr
      rw [perform_note_bind, perform_attempt_bind] at hr
      split at hr
      · cases hr
        rfl
      · obtain ⟨found, v, -, hr⟩ := bind_ok hr
        split at hr
        · obtain ⟨_, _, -, hr⟩ := bind_ok hr
          cases hr
        · cases hr
    · cases hr

/-! ## Whole runs -/

theorem along_processReported_orderly (b n : Nat) (r : Record) :
    Along (orderly b) (processReported (hooks n) r) := by
  have hh := along_hooks_orderly b n
  refine along_processReported ?_ fun f => ?_
  · refine along_get_bind fun w => ?_
    refine along_bind ?_ (fun m v => ?_) w
    · exact ((composing_calmly b).preparing.along_compose (along_hooks_calmly b n) _).mono
        (orderly_of_calmly b)
    · intro hv
      refine (delivering_orderly b).rel_deliver hh (fun hc => ensureSender_orderly hc)
        (fun v₁ hc he => ?_) hv
      rintro ⟨hd, ho⟩
      have ha := ensureSender_attached hv.2.networked.factory he
      exact ⟨handedOver_orderly hd ho ha, trivial⟩
  · exact along_report (fun _ h => ⟨⟨h.1, h.2.aside _ _ _ _⟩, trivial⟩)
      (fun _ h => ⟨⟨h.1, h.2.noted rfl rfl rfl⟩, trivial⟩) (delivering_orderly b).written hh

theorem visit_orderly (n : Nat) (s : Step) (ho : Orderly b w) :
    Orderly b (visit (hooks n) s w).after :=
  visit_keeps (delivering_orderly b).toDiscreet (fun _ _ h => h.aside _ _ _ _)
    (fun _ hc h => h.retire hc) (along_processReported_orderly b n) s ho

theorem Orderly.final_iff (ho : Orderly w.closes w') (hw : w.connections = 0) :
    Final w w' ↔ ¬ Leaks w' := by
  unfold Final
  rw [hw]
  by_cases hc : Closed w'
  · rw [← (ho.atRest hc).final]
    simp [hc]
  · have hopen := (ho.running hc).going
    have hs : Silent w' := by
      simp [Silent, marks_open hopen]
    have hl : ¬ Leaks w' := by
      rintro ⟨text, hm, -⟩
      have := lateTexts_open hopen []
      rw [List.append_nil] at this
      rw [this] at hm
      cases hm
    simp [hc, hs, hl]

/-- Over every run of a new handler that has its sender for a host, whatever the network does and
whatever the code of others does: nothing goes out after the handler was closed and no socket is left
open, unless the handler was closed while a message was encoded and the sender wrote that message out
all the same. -/
theorem close_final_iff (hw : Constructed w) (hn : Networked w.handler) (n : Nat)
    (steps : List Step) :
    Final w (last (hooks n) steps w) ↔ ¬ Leaks (last (hooks n) steps w) := by
  have hf := hw.fresh
  have hcon : w.connections = 0 := by
    rw [World.connections, hf.history]
    rfl
  have ho : Orderly w.closes w := by
    refine ⟨hn, fun _ => ⟨?_, fun _ => ?_, fun ha => ?_⟩, fun hc => ?_⟩
    · simp [hf.history]
    · rw [hcon]
      rfl
    · cases hf.attached.symm.trans ha
    · cases hf.stage.symm.trans hc
  exact (last_keeps (fun s _ h => visit_orderly n s h) ho).final_iff hcon

def overTcp : World := started ⟨[]⟩ [("graylog_host", .str "tcp:h")] .calm

theorem overTcp_networked : Networked overTcp.handler :=
  ⟨rfl, .inr ⟨"tcp:h", rfl⟩, ⟨12201, rfl, by decide +kernel⟩⟩

theorem close_final_iff_tcp : Constructed overTcp ∧ Networked overTcp.handler ∧
    Final overTcp (last (hooks 8) [.handle (.plainly (.str "app") (.str "hello")), .close,
      .handle (.plainly (.str "app") (.str "hello"))] overTcp) := by
  have hw : Constructed overTcp := started_calm rfl
  refine ⟨hw, overTcp_networked, (close_final_iff hw overTcp_networked 8 _).mpr ?_⟩
  rintro ⟨text, hm, -⟩
  have hl : lateTexts (last (hooks 8) [.handle (.plainly (.str "app") (.str "hello")), .close,
    .handle (.plainly (.str "app") (.str "hello"))] overTcp).history = [] := by decide +kernel
  rw [hl] at hm
  cases hm

/-- The logger's name closes the handler while the message is encoded; then the sender connects
again. -/
theorem close_not_final : Constructed overTcp ∧ Networked overTcp.handler ∧
    ¬ Final overTcp (last (hooks 8)
      [.handle (.plainly (.object (.probe none (some .close))) (.str "hello"))] overTcp) := by
  refine ⟨started_calm rfl, overTcp_networked, ?_⟩
  decide +kernel

end Handler

end Gelf
