import Gelf.Handler.Operation

/-!
# Gelf.Proofs.Passage

What work does to a world, told by relations between the world before it and the world after it.

* `Passage`: a relation that holds where nothing is done, and of one thing after another.
* `Act.Along`: the work takes every world along a passage, whatever comes of it. There is one rule
  for each way of putting work together.
* `Act.along_words`, `Act.along_script`: a script goes along a passage if the answers to what it
  asks do.
* `Script.Yields`: what a script ends with, if it does not fail, whatever is answered.
  `Script.Asks`: what it asks for.
-/

namespace Gelf

/-- A relation between worlds that can be chained. -/
structure Passage where
  rel : World → World → Prop
  refl : ∀ w, rel w w
  trans : ∀ {w₁ w₂ w₃}, rel w₁ w₂ → rel w₂ w₃ → rel w₁ w₃

namespace Passage

/-- From a world in `D`: the passage `P`, and `D` again at its end. -/
def within (D : World → Prop) (P : Passage) : Passage where
  rel w w' := D w → D w' ∧ P.rel w w'
  refl w hd := ⟨hd, P.refl w⟩
  trans h₁ h₂ hd :=
    have ⟨hd₁, hp₁⟩ := h₁ hd
    have ⟨hd₂, hp₂⟩ := h₂ hd₁
    ⟨hd₂, P.trans hp₁ hp₂⟩

def any : Passage := ⟨fun _ _ => True, fun _ => trivial, fun _ _ => trivial⟩

/-- From a world in `D` to another one. -/
def keeping (D : World → Prop) : Passage := any.within D

/-- The history grows, and if nothing in what was added is `bad`: the passage `P`. -/
def barring (bad : Deed → Bool) (P : Passage) : Passage where
  rel w w' := ∃ ds, w'.history = w.history ++ ds ∧ ((∀ d ∈ ds, bad d = false) → P.rel w w')
  refl w := ⟨[], (List.append_nil _).symm, fun _ => P.refl w⟩
  trans := by
    rintro w₁ w₂ w₃ ⟨ds₁, h₁, p₁⟩ ⟨ds₂, h₂, p₂⟩
    refine ⟨ds₁ ++ ds₂, by rw [h₂, h₁, List.append_assoc], fun hd => ?_⟩
    rw [List.forall_mem_append] at hd
    exact P.trans (p₁ hd.1) (p₂ hd.2)

theorem barring_same {bad : Deed → Bool} {P : Passage} {w w' : World}
    (hh : w'.history = w.history) (hp : P.rel w w') : (P.barring bad).rel w w' :=
  ⟨[], hh.trans (List.append_nil _).symm, fun _ => hp⟩

theorem barring_noted {bad : Deed → Bool} {P : Passage} {w : World} {d : Deed}
    (hp : bad d = false → P.rel w (w.noted d)) : (P.barring bad).rel w (w.noted d) :=
  ⟨[d], rfl, fun hd => hp (hd d List.mem_cons_self)⟩

end Passage

/-- Whatever is answered to what the script asks, it fails or ends with something in `p`. -/
def Script.Yields {α : Type} (p : α → Prop) : Script α → Prop
  | .done a => p a
  | .fail _ => True
  | .ask _ next => ∀ r, (next r).Yields p

/-- Whatever is answered, the script makes no request but such as are in `p`. -/
def Script.Asks {α : Type} (p : Request → Prop) : Script α → Prop
  | .done _ => True
  | .fail _ => True
  | .ask q next => p q ∧ ∀ r, (next r).Asks p

namespace Script

variable {α β : Type} {p : α → Prop}

theorem yields_bind {q : β → Prop} {s : Script β} {k : β → Script α} (hs : s.Yields q)
    (hk : ∀ b, q b → (k b).Yields p) : (s.bind k).Yields p := by
  induction s with
  | done b => exact hk b hs
  | fail f => trivial
  | ask r next ih => exact fun x => ih x (hs x)

theorem yields_any (s : Script α) : s.Yields fun _ => True := by
  induction s with
  | done a => trivial
  | fail f => trivial
  | ask q next ih => exact ih

theorem yields_ofExcept {x : Except Fault α} (h : ∀ a, x = .ok a → p a) :
    (ofExcept x).Yields p := by
  cases x with
  | ok a => exact h a rfl
  | error f => trivial

theorem run_yields {σ : Type} {answer : (q : Request) → σ → Except Fault q.Answer × σ}
    (s : Script α) (hs : s.Yields p) {w w' : σ} {a : α} (h : s.run answer w = (.ok a, w')) : p a := by
  induction s generalizing w with
  | done b =>
    cases h
    exact hs
  | fail f => cases h
  | ask q next ih => exact ih _ (hs _) h

/-! ## Requests -/

section

variable {p : Request → Prop}

/-- What is done next may count on what the first script ends with. -/
theorem asks_bind_yields {c : β → Prop} {s : Script β} {k : β → Script α} (hs : s.Asks p)
    (hc : s.Yields c) (hk : ∀ b, c b → (k b).Asks p) : (s.bind k).Asks p := by
  induction s with
  | done b => exact hk b hc
  | fail f => trivial
  | ask r next ih => exact ⟨hs.1, fun x => ih x (hs.2 x) (hc x)⟩

theorem asks_bind {s : Script β} {k : β → Script α} (hs : s.Asks p) (hk : ∀ b, (k b).Asks p) :
    (s.bind k).Asks p := asks_bind_yields hs (yields_any s) fun b _ => hk b

theorem asks_any (s : Script α) : s.Asks fun _ => True := by
  induction s with
  | done a => trivial
  | fail f => trivial
  | ask q next ih => exact ⟨trivial, ih⟩

theorem asks_ofExcept (x : Except Fault α) : (ofExcept x).Asks p := by
  cases x <;> trivial

end

end Script

namespace Act

variable {P Q : Passage} {α β : Type}

/-! ## One step at a time -/

theorem perform_get_bind (k : World → Act β) (w : World) :
    (get >>= k).perform w = (k w).perform w := by
  rw [perform_bind, perform_get]

theorem perform_modify_bind (g : World → World) (k : PUnit → Act β) (w : World) :
    (modify g >>= k).perform w = (k ⟨⟩).perform (g w) := by
  rw [perform_bind, perform_modify]

theorem perform_note_bind (d : Deed) (k : Unit → Act β) (w : World) :
    (note d >>= k).perform w = (k ()).perform (w.noted d) := perform_modify_bind _ _ _

theorem perform_attempt_bind (a : Act α) (k : Except Fault α → Act β) (w : World) :
    (attempt a >>= k).perform w = (k (a.perform w).1).perform (a.perform w).2 := by
  rw [perform_bind, perform_attempt]

theorem perform_ofExcept_bind (e : Except Fault α) (k : α → Act β) (w : World) :
    (ofExcept e >>= k).perform w = match e with
      | .ok x => (k x).perform w
      | .error f => (.error f, w) := by
  rw [perform_bind, perform_ofExcept]
  cases e <;> rfl

theorem during_snd (a : Act α) (handled : Option Fault) (w : World) :
    ((a.during handled).perform w).2 = (a.perform w).2 := by
  rw [perform_during]
  cases a.perform w with
  | mk x w' => cases x <;> rfl

theorem bind_pure_snd (a : Act α) (y : β) (w : World) :
    ((a >>= fun _ => pure y).perform w).2 = (a.perform w).2 := by
  rw [perform_bind]
  cases a.perform w with
  | mk x w' => cases x <;> rfl

theorem perform_outward_bind (g : Outside → Except Fault α × Outside) (k : α → Act β) (w : World) :
    (outward g >>= k).perform w = match (g w.outside).1 with
      | .ok x => (k x).perform { w with outside := (g w.outside).2 }
      | .error f => (.error f, { w with outside := (g w.outside).2 }) := by
  rw [perform_bind, perform_outward]
  cases (g w.outside).1 <;> rfl

theorem bind_ok {a : Act α} {k : α → Act β} {w w' : World} {y : β}
    (h : (a >>= k).perform w = (.ok y, w')) :
    ∃ x w₁, a.perform w = (.ok x, w₁) ∧ (k x).perform w₁ = (.ok y, w') := by
  rw [perform_bind] at h
  cases hr : a.perform w with
  | mk r w₁ =>
    rw [hr] at h
    cases r with
    | ok x => exact ⟨x, w₁, rfl, h⟩
    | error f => cases h

theorem bind_error {a : Act α} {k : α → Act β} {w w' : World} {f : Fault}
    (h : (a >>= k).perform w = (.error f, w')) : a.perform w = (.error f, w') ∨
      ∃ x w₁, a.perform w = (.ok x, w₁) ∧ (k x).perform w₁ = (.error f, w') := by
  rw [perform_bind] at h
  cases hr : a.perform w with
  | mk r w₁ =>
    rw [hr] at h
    cases r with
    | ok x => exact .inr ⟨x, w₁, rfl, h⟩
    | error g =>
      cases h
      exact .inl rfl

/-! ## Along a passage -/

/-- Whatever comes of the work, it takes every world along the passage. -/
def Along (P : Passage) (a : Act α) : Prop := ∀ w, P.rel w (a.perform w).2

theorem Along.mono {a : Act α} (ha : Along P a) (h : ∀ w w', P.rel w w' → Q.rel w w') :
    Along Q a := fun w => h _ _ (ha w)

theorem along_pure (x : α) : Along P (pure x : Act α) := fun w => P.refl w

theorem along_ofExcept (e : Except Fault α) : Along P (ofExcept e) := fun w => P.refl w

theorem along_fault (f : Fault) : Along P (fault f : Act α) := fun w => P.refl w

theorem along_modify {g : World → World} (h : ∀ w, P.rel w (g w)) :
    Along P (modify g : Act PUnit) := h

theorem along_note {d : Deed} (h : ∀ w, P.rel w (w.noted d)) : Along P (note d) := h

theorem along_outward {g : Outside → Except Fault α × Outside}
    (h : ∀ w, P.rel w { w with outside := (g w.outside).2 }) : Along P (outward g) := h

theorem along_attempt {a : Act α} (ha : Along P a) : Along P (attempt a) := ha

theorem along_bind {a : Act α} {k : α → Act β} (ha : Along P a) (hk : ∀ x, Along P (k x)) :
    Along P (a >>= k) := by
  intro w
  have h₁ := ha w
  rw [perform_bind]
  cases h : a.perform w with
  | mk r w' =>
    rw [h] at h₁
    cases r with
    | ok x => exact P.trans h₁ (hk x w')
    | error f => exact h₁

theorem along_fault_bind (f : Fault) (k : α → Act β) : Along P (fault f >>= k) :=
  fun w => P.refl w

theorem along_get_bind {k : World → Act α} (h : ∀ w, P.rel w ((k w).perform w).2) :
    Along P (get >>= k) := by
  intro w
  rw [perform_get_bind]
  exact h w

theorem along_during {a : Act α} (handled : Option Fault) (ha : Along P a) :
    Along P (a.during handled) := by
  intro w
  rw [during_snd]
  exact ha w

theorem discard_eq (a : Act α) : (discard a : Act Unit) = a >>= fun _ => pure () := by
  simp only [discard, Functor.discard]
  rfl

theorem along_discard {a : Act α} (ha : Along P a) : Along P (discard a) := by
  rw [discard_eq]
  exact along_bind ha fun _ => along_pure _

/-! ## Scripts -/

/-- By induction on the script: each answer goes along the passage. -/
theorem run_along {p : Request → Prop}
    {answer : (q : Request) → World → Except Fault q.Answer × World}
    (h : ∀ q, p q → ∀ w, P.rel w (answer q w).2) {s : Script α} (hs : s.Asks p) (w : World) :
    P.rel w (s.run answer w).2 := by
  induction s generalizing w with
  | done a => exact P.refl w
  | fail f => exact P.refl w
  | ask q next ih =>
    simp only [Script.run]
    exact P.trans (h q hs.1 w) (ih _ (hs.2 _) _)

theorem along_words {h : Hooks} (hh : ∀ e, Along P (h e)) (s : Script α) :
    Along P (words h s) := by
  refine run_along (fun q _ w => ?_) (Script.asks_any s)
  cases q with
  | errand e => exact hh e w
  | unformatted raw f => exact P.refl w
  | localHost => exact P.refl w

/-- What is done next may count on what the script ends with. -/
theorem along_during_words_bind {h : Hooks} (hh : ∀ e, Along P (h e)) {p : α → Prop} {s : Script α}
    (hs : s.Yields p) {handled : Option Fault} {k : α → Act β} (hk : ∀ a, p a → Along P (k a)) :
    Along P ((words h s).during handled >>= k) := by
  intro w
  have h₁ := along_words hh s w
  rw [perform_bind, perform_during]
  cases hr : (words h s).perform w with
  | mk x w' =>
    rw [hr] at h₁
    cases x with
    | ok a => exact P.trans h₁ (hk a (s.run_yields hs hr) w')
    | error f => exact h₁

theorem along_script {h : Hooks} (hh : ∀ e, Along P (h e))
    (hr : ∀ raw f, Along P (report h (notFormatted raw f))) (hl : Along P (localHost h))
    (s : Script α) : Along P (script h s) := by
  refine run_along (fun q _ w => ?_) (Script.asks_any s)
  cases q with
  | errand e => exact hh e w
  | unformatted raw f => exact hr raw f w
  | localHost => exact hl w

end Act

end Gelf
