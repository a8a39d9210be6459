import Gelf.Proofs.Fresh
import Gelf.Proofs.Percent

/-!
# Gelf.Proofs.Lifecycle

The life of a handler and of its sender.

* `Phase`, `Life`: the histories that a handler can leave, one constructor for each deed that has to
  do with its sender. `Overtaken`: those that are none of them.
* `Alive`: the handler is where its history says. `Kept`: what is left alone by all that has nothing to
  do with the sender, and by its end.
* `Normal`: the settings are of the kinds they should be. Only then no errand can run while a sender
  is being opened for a host.
* `openByFactory_told`: a factory that closes the handler and makes a sender all the same overtakes it,
  and nothing else does.
* `lifecycle_iff`: what holds of stage, sender and history after each step of every run, and when.
  `closed_turns_ready`: when not.
-/

namespace Gelf

open Act

namespace Handler

/-! ## Histories -/

/-- How far a handler has come with its sender: it has none yet, or has one, or had one when it was
closed, or had none even then. -/
inductive Phase where
  | unopened
  | opened
  | released
  | abandoned

/-- The handler's stage in a phase, and whether it has a sender. -/
def Phase.place : Phase → Stage × Bool
  | .unopened => (.uninitialized, false)
  | .opened => (.ready, true)
  | .released => (.closed, false)
  | .abandoned => (.closed, false)

/-- A deed that has to do with whether there is a sender. -/
def concerns : Deed → Bool
  | .opening => true
  | .turned _ _ => true
  | .closing => true
  | _ => false

/-- The histories of handlers, with the phase that they lead to. -/
inductive Life : Phase → List Deed → Prop
  | new : Life .unopened []
  | other {p : Phase} {ds : List Deed} {d : Deed} : concerns d = false → Life p ds →
      Life p (ds ++ [d])
  | opening {ds : List Deed} : Life .unopened ds → Life .unopened (ds ++ [.opening])
  | ready {ds : List Deed} : Life .unopened ds → Life .opened (ds ++ [.turned .ready true])
  | abandoned {ds : List Deed} : Life .unopened ds →
      Life .abandoned (ds ++ [.turned .closed false])
  | released {ds : List Deed} : Life .opened ds →
      Life .released (ds ++ [.turned .closed false] ++ [.closing])

def Phase.turns : Phase → List (Stage × Bool)
  | .unopened => []
  | .opened => [(.ready, true)]
  | .released => [(.ready, true), (.closed, false)]
  | .abandoned => [(.closed, false)]

/-- How often the sender has been told to close on the way to a phase. -/
def Phase.closings : Phase → Nat
  | .released => 1
  | _ => 0

def isClosing : Deed → Bool
  | .closing => true
  | _ => false

theorem turn_of_concerns {d : Deed} (hd : concerns d = false) : d.turn? = none := by
  cases d <;> first | rfl | cases hd

theorem not_closing_of_concerns {d : Deed} (hd : concerns d = false) : isClosing d = false := by
  cases d <;> first | rfl | cases hd

theorem Life.turns {p : Phase} {ds : List Deed} (h : Life p ds) :
    ds.filterMap Deed.turn? = p.turns := by
  induction h with
  | new => rfl
  | other hd _ ih =>
    rw [List.filterMap_append, ih, List.filterMap_cons_none (turn_of_concerns hd)]
    exact List.append_nil _
  | opening _ ih => rw [List.filterMap_append, ih]; rfl
  | ready _ ih => rw [List.filterMap_append, ih]; rfl
  | abandoned _ ih => rw [List.filterMap_append, ih]; rfl
  | released _ ih => rw [List.filterMap_append, List.filterMap_append, ih]; rfl

theorem Life.closings {p : Phase} {ds : List Deed} (h : Life p ds) :
    ds.countP isClosing = p.closings := by
  induction h with
  | new => rfl
  | other hd _ ih =>
    rw [List.countP_append, ih, List.countP_cons_of_neg (by simp [not_closing_of_concerns hd])]
    rfl
  | opening _ ih => rw [List.countP_append, ih]; rfl
  | ready _ ih => rw [List.countP_append, ih]; rfl
  | abandoned _ ih => rw [List.countP_append, ih]; rfl
  | released _ ih => rw [List.countP_append, List.countP_append, ih]; rfl

/-- In a history that goes on, what comes after a deed ends with the new deed, or the deed is new. -/
theorem snoc_split {ds before after : List Deed} {d e : Deed} (h : ds ++ [d] = before ++ e :: after) :
    (after = [] ∧ d = e) ∨ ∃ rest, after = rest ++ [d] ∧ ds = before ++ e :: rest := by
  obtain rfl | ⟨rest, f, rfl⟩ := List.eq_nil_or_concat after
  · obtain ⟨-, h⟩ := List.append_inj' h rfl
    cases h
    exact .inl ⟨rfl, rfl⟩
  · rw [List.concat_eq_append] at h ⊢
    rw [← List.cons_append, ← List.append_assoc] at h
    obtain ⟨h₁, h₂⟩ := List.append_inj' h rfl
    cases h₂
    exact .inr ⟨rest, rfl, h₁⟩

theorem Life.not_turned {ds : List Deed} (h : Life .unopened ds) (stage : Stage) (attached : Bool) :
    Deed.turned stage attached ∉ ds := by
  intro hm
  have ht : (stage, attached) ∈ ds.filterMap Deed.turn? := List.mem_filterMap.mpr ⟨_, hm, rfl⟩
  rw [h.turns] at ht
  cases ht

theorem Life.no_opening {p : Phase} {ds : List Deed} (h : Life p ds) :
    ∀ before attached after, ds = before ++ .turned .closed attached :: after →
      Deed.opening ∉ after := by
  have step : ∀ {ds : List Deed} {d : Deed}, d ≠ .opening →
      (∀ before attached after, ds = before ++ .turned .closed attached :: after →
        Deed.opening ∉ after) →
      ∀ before attached after, ds ++ [d] = before ++ .turned .closed attached :: after →
        Deed.opening ∉ after := by
    intro ds d hd ih before attached after he
    obtain ⟨rfl, -⟩ | ⟨rest, rfl, hds⟩ := snoc_split he
    · exact List.not_mem_nil
    · rw [List.mem_append, List.mem_singleton, not_or]
      exact ⟨ih before attached rest hds, Ne.symm hd⟩
  induction h with
  | new =>
    intro before attached after he
    exact absurd he (by simp)
  | other hd _ ih => exact step (by rintro rfl; cases hd) ih
  | opening h _ =>
    intro before attached after he
    obtain ⟨-, h'⟩ | ⟨rest, -, hds⟩ := snoc_split he
    · cases h'
    · refine absurd ?_ (h.not_turned .closed attached)
      rw [hds]
      exact List.mem_append_right _ List.mem_cons_self
  | ready _ ih => exact step (by simp) ih
  | abandoned _ ih => exact step (by simp) ih
  | released _ ih => exact step (by simp) (step (by simp) ih)

/-! ## Histories of handlers that were closed too early -/

/-- An attempt to get a sender made one, although the handler was closed in the meantime. -/
def Overtaken (ds : List Deed) : Prop :=
  ∃ before between after, ds = before ++ .opening :: (between ++ .turned .ready true :: after) ∧
    Deed.opening ∉ between ∧ Deed.turned .closed false ∈ between

theorem Overtaken.grown {ds ds' : List Deed} (h : Overtaken ds) (hg : ds <+: ds') :
    Overtaken ds' := by
  obtain ⟨before, between, after, rfl, ho, hc⟩ := h
  obtain ⟨more, rfl⟩ := hg
  exact ⟨before, between, after ++ more, by simp, ho, hc⟩

/-- A history in which the handler was closed before it was ready is none that it should leave. -/
theorem Overtaken.turns {ds : List Deed} (h : Overtaken ds) :
    [(Stage.closed, false), (Stage.ready, true)].Sublist (ds.filterMap Deed.turn?) := by
  obtain ⟨before, between, after, rfl, -, hc⟩ := h
  have hsub : [Deed.turned .closed false, .turned .ready true].Sublist
      (before ++ .opening :: (between ++ .turned .ready true :: after)) := by
    refine List.sublist_append_of_sublist_right (.cons _ ?_)
    exact (List.singleton_sublist.mpr hc).append (List.singleton_sublist.mpr List.mem_cons_self)
  exact hsub.filterMap Deed.turn?

theorem last_split {ds : List Deed} {d : Deed} (h : d ∈ ds) :
    ∃ before after, ds = before ++ d :: after ∧ d ∉ after := by
  obtain ⟨as, bs, hds, has⟩ := List.eq_append_cons_of_mem (List.mem_reverse.mpr h)
  refine ⟨bs.reverse, as.reverse, ?_, fun hm => has (List.mem_reverse.mp hm)⟩
  rw [← List.reverse_reverse ds, hds]
  simp

/-- An attempt that began before the handler was closed, and makes a sender now. -/
theorem Life.overtaken {ds ds' : List Deed} (hl : Life .unopened ds) (ho : Deed.opening ∈ ds)
    (ha : Life .abandoned ds') (hg : ds <+: ds') : Overtaken (ds' ++ [.turned .ready true]) := by
  obtain ⟨more, rfl⟩ := hg
  have hclosed : (Stage.closed, false) ∈ (ds ++ more).filterMap Deed.turn? := by
    rw [ha.turns]
    exact List.mem_cons_self
  obtain ⟨d, hd, ht⟩ := List.mem_filterMap.mp hclosed
  obtain rfl : d = .turned .closed false := by
    cases d <;> cases ht
    rfl
  have hmore := (List.mem_append.mp hd).resolve_left (hl.not_turned _ _)
  obtain ⟨x, y, rfl⟩ := List.append_of_mem hmore
  -- of all attempts the last one is the one that was still going on
  obtain ⟨before, between, hlast, hno⟩ := last_split (List.mem_append_left x ho)
  have hafter : Deed.opening ∉ y := ha.no_opening (ds ++ x) false y (by simp)
  refine ⟨before, between ++ .turned .closed false :: y, [], ?_, ?_, by simp⟩
  · rw [← List.append_assoc ds, hlast]
    simp
  · simp [hno, hafter]

/-! ## Handlers that are where their history says -/

/-- The settings are of the kinds they should be, and what makes senders makes something or fails. -/
structure Normal (k : Handler) : Prop where
  host : k.config.value .host = .null ∨ ∃ name, k.config.value .host = .str name
  port : ∃ n, k.config.value .port = .int n
  factory : ∀ o, k.factory = some o →
    (Catalog.call o).Yields fun i => i ≠ .nothing ∧ i ≠ .cleared

/-- The handler is in the phase that its history leads to, and where it has a sender there is one. -/
structure Alive (w : World) : Prop where
  life : ∃ p, Life p w.history ∧ (w.handler.stage, w.handler.attached) = p.place
  sender : w.handler.attached = true → w.sender.isSome
  normal : Normal w.handler

/-- What has to do with the handler's sender alone, and with whether there is one. -/
structure Kept (D : World → Prop) : Prop where
  same : ∀ (w : World) {w' : World}, w'.history = w.history → w'.handler = w.handler →
    (w.sender.isSome → w'.sender.isSome) → D w → D w'
  noted : ∀ {w : World} {d : Deed}, concerns d = false → D w → D (w.noted d)
  retired : ∀ {w : World}, ¬ Closed w → D w → D (retire.perform w).2

/-- A handler that is busy or closed stays so, and in `D`. -/
def guarded (D : World → Prop) : Passage := .keeping fun w => Deaf w ∧ D w

theorem Kept.losing {D : World → Prop} (K : Kept D) : (guarded D).Losing where
  told w _ _ h := ⟨⟨h.1, K.same w rfl rfl id h.2⟩, trivial⟩
  escaped _ _ _ h := ⟨⟨h.1, K.noted rfl h.2⟩, trivial⟩
  written w _ h := ⟨⟨h.1, K.same w rfl rfl id h.2⟩, trivial⟩
  retired w hc h := ⟨⟨.inr (retire_stage w), K.retired hc h.2⟩, trivial⟩
  closed _ _ h := ⟨⟨h.1, K.noted rfl h.2⟩, trivial⟩
  looked w h := ⟨⟨h.1, K.same w rfl rfl id h.2⟩, trivial⟩
  outside w _ h := ⟨⟨h.1, K.same w rfl rfl id h.2⟩, trivial⟩
  sender w _ hs h := ⟨⟨h.1, K.same w rfl rfl hs h.2⟩, trivial⟩
  host w _ h := ⟨⟨h.1, K.same w rfl rfl id h.2⟩, trivial⟩
  context w _ h := ⟨⟨h.1, K.same w rfl rfl id h.2⟩, trivial⟩
  connected _ h := ⟨⟨h.1, K.noted rfl h.2⟩, trivial⟩
  encoded _ _ h := ⟨⟨h.1, K.noted rfl h.2⟩, trivial⟩
  lost w _ _ h := ⟨⟨h.1, K.same w rfl rfl id h.2⟩, trivial⟩
  unheard _ _ _ h := ⟨⟨h.1, K.noted rfl h.2⟩, trivial⟩
  sending _ _ h := ⟨⟨h.1, K.noted rfl h.2⟩, trivial⟩
  sent _ _ h := ⟨⟨h.1, K.noted rfl h.2⟩, trivial⟩

theorem Kept.along_hooks {D : World → Prop} (K : Kept D) (n : Nat) (e : Errand) :
    Along (guarded D) (hooks n e) :=
  Handler.along_hooks K.losing.toDiscreet.modest
    (fun _ _ r => along_handle_deaf (fun _ h => h.1) r) n e

theorem Kept.or {D E : World → Prop} (K : Kept D) (L : Kept E) : Kept fun w => D w ∨ E w where
  same w _ hh hk hs := Or.imp (K.same w hh hk hs) (L.same w hh hk hs)
  noted hd := Or.imp (K.noted hd) (L.noted hd)
  retired hc := Or.imp (K.retired hc) (L.retired hc)

theorem Alive.same {w w' : World} (hh : w'.history = w.history) (hk : w'.handler = w.handler)
    (hs : w.sender.isSome → w'.sender.isSome) (h : Alive w) : Alive w' := by
  obtain ⟨hl, ha, hn⟩ := h
  rw [← hk] at hl ha hn
  rw [← hh] at hl
  exact ⟨hl, fun h => hs (ha h), hn⟩

theorem Normal.moved {k : Handler} (h : Normal k) (stage : Stage) (attached emitting : Bool) :
    Normal { k with stage := stage, attached := attached, emitting := emitting } :=
  ⟨h.host, h.port, h.factory⟩

theorem Alive.noted {w : World} {d : Deed} (hd : concerns d = false) (h : Alive w) :
    Alive (w.noted d) := by
  obtain ⟨p, hp, hk⟩ := h.life
  exact ⟨⟨p, .other hd hp, hk⟩, h.sender, h.normal⟩

theorem alive_retire {w : World} (hc : ¬ Closed w) (h : Alive w) : Alive (retire.perform w).2 := by
  obtain ⟨p, hp, hk⟩ := h.life
  obtain ⟨o, s, -, hr⟩ := outermost_retire w
  rw [hr, retired]
  cases p with
  | unopened =>
    obtain ⟨hs, ha⟩ := Prod.mk.inj hk
    rw [ha, if_neg (by decide)]
    exact ⟨⟨.abandoned, .abandoned hp, rfl⟩, by simp [World.turned, World.noted],
      h.normal.moved _ _ _⟩
  | opened =>
    obtain ⟨hs, ha⟩ := Prod.mk.inj hk
    rw [ha, if_pos rfl]
    exact ⟨⟨.released, .released hp, rfl⟩, by simp [World.turned, World.noted],
      h.normal.moved _ _ _⟩
  | _ => exact absurd (Prod.mk.inj hk).1 hc

theorem kept_alive : Kept Alive := ⟨fun _ _ hh hk hs h => h.same hh hk hs, Alive.noted, alive_retire⟩

/-- What makes the handler's senders asks for something while it does. -/
def Meddling (k : Handler) : Prop :=
  ∃ o, k.factory = some o ∧ ¬ (Catalog.call o).Asks fun _ => False

/-- The handler was overtaken by its own factory. -/
structure Revived (w : World) : Prop where
  overtaken : Overtaken w.history
  meddling : Meddling w.handler

theorem Revived.steady {w w' : World} (h : Revived w) (hs : Steady w w') : Revived w' := by
  obtain ⟨stage, attached, emitting, hk⟩ := hs.handler
  refine ⟨h.overtaken.grown hs.history, ?_⟩
  rw [hk]
  exact h.meddling

theorem kept_revived : Kept Revived where
  same _ _ hh hk _ h := ⟨hh ▸ h.overtaken, hk ▸ h.meddling⟩
  noted _ h := h.steady (steady_noted _ _)
  retired _ h := h.steady (steady_retired _)

/-- The handler is where its history says, or was overtaken by its own factory. -/
def Told (w : World) : Prop := Alive w ∨ Revived w

theorem kept_told : Kept Told := kept_alive.or kept_revived

/-! ## Getting a sender -/

/-- No sender gets lost. -/
def seated : Passage where
  rel w w' := w.sender.isSome → w'.sender.isSome
  refl _ := id
  trans h₁ h₂ := h₂ ∘ h₁

theorem full_seated : seated.Full where
  told _ _ _ := id
  escaped _ _ _ := id
  written _ _ := id
  retired w _ hs := by
    obtain ⟨o, s, h, hr⟩ := outermost_retire w
    rw [hr]
    refine h ?_
    unfold retired
    split <;> exact hs
  closed _ _ := id
  looked _ := id
  outside _ _ := id
  sender _ _ h := h
  host _ _ := id
  context _ _ := id
  connected _ := id
  encoded _ _ := id
  opening _ := id
  ready _ _ := id
  lost _ _ _ := id
  unheard _ _ _ := id
  sending _ _ := id
  sent _ _ := id
  reported _ _ := id
  failed _ _ := id
  emitting _ _ := id

variable {n : Nat}

theorem seated_ok {α : Type} {a : Act α} (ha : Along seated a) {w w' : World}
    {x : Except Fault α} (h : a.perform w = (x, w')) (hs : w.sender.isSome) : w'.sender.isSome := by
  have := ha w hs
  rwa [h] at this

theorem along_logLine_seated (source : LogSource) (format : String) (args : List Value) :
    Along seated (logLine (hooks n) source format args) :=
  full_seated.toWire.along_logLine (full_seated.along_hooks n) source format args

theorem tcpMake_ok {host port timeout : Value} {w w' : World}
    (h : (TcpSender.make (hooks n) host port timeout).perform w = (.ok (), w')) :
    w'.sender.isSome := by
  unfold TcpSender.make at h
  rw [perform_modify_bind] at h
  exact seated_ok (full_seated.toWire.along_connect (along_logLine_seated _ _ _) timeout) h rfl

theorem udpMake_ok {host port chunkSize wantsCompression : Value} {w w' : World}
    (h : (UdpSender.make (hooks n) host port chunkSize wantsCompression).perform w =
      (.ok (), w')) : w'.sender.isSome := by
  unfold UdpSender.make at h
  obtain ⟨bad, w₁, -, h⟩ := bind_ok h
  dsimp only at h
  split at h
  · obtain ⟨_, _, hf, -⟩ := bind_ok h
    cases hf
  · obtain ⟨found, w₂, -, h⟩ := bind_ok h
    split at h
    · cases h
    · obtain ⟨_, w₃, -, h⟩ := bind_ok h
      rw [perform_modify_bind, perform_note_bind] at h
      exact seated_ok (along_logLine_seated _ _ _) h rfl

theorem openFor_ok {host port timeout : Value} {w w' : World}
    (h : (Sender.openFor (hooks n) host port timeout).perform w = (.ok (), w')) :
    w'.sender.isSome := by
  unfold Sender.openFor at h
  split at h
  · split at h
    · exact tcpMake_ok h
    · exact udpMake_ok h
    · exact udpMake_ok h
  · cases h
  · cases h

theorem callFactory_ok {h : Hooks} {factory : Importable}
    (hf : (Catalog.call factory).Yields fun i => i ≠ .nothing ∧ i ≠ .cleared) {w w' : World}
    {made : Bool} (hr : (callFactory h factory).perform w = (.ok made, w')) :
    made = true ∧ w'.sender.isSome := by
  unfold callFactory at hr
  obtain ⟨i, w₁, hcall, hr⟩ := bind_ok hr
  obtain ⟨hnothing, hcleared⟩ := (Catalog.call factory).run_yields hf hcall
  cases i with
  | sender =>
    obtain ⟨_, w₂, -, hr⟩ := bind_ok hr
    cases hr
    exact ⟨rfl, rfl⟩
  | other c rule closable =>
    cases hr
    exact ⟨rfl, rfl⟩
  | nothing => exact absurd rfl hnothing
  | cleared => exact absurd rfl hcleared

/-- The handler is as it was, and its history is one of a handler that has opened no sender. -/
def waiting (k : Handler) : Passage := .keeping fun w => Life .unopened w.history ∧ w.handler = k

theorem wire_waiting (k : Handler) : (waiting k).Wire where
  outside _ _ h := ⟨h, trivial⟩
  sender _ _ _ h := ⟨h, trivial⟩
  connected _ h := ⟨⟨.other rfl h.1, h.2⟩, trivial⟩
  encoded _ _ h := ⟨⟨.other rfl h.1, h.2⟩, trivial⟩

theorem along_logLine_waiting {text : String} {p q : List Char} (k : Handler)
    (ht : text.toList = p ++ '%' :: 's' :: ':' :: '%' :: 's' :: q) (hp : '%' ∉ p) (hq : '%' ∉ q)
    (source : LogSource) (host : String) (port : Int) :
    Along (waiting k) (logLine (hooks n) source text [.str host, .int port]) := by
  intro w h
  rw [perform_logLine_pair ht hp hq]
  split <;> exact ⟨h, trivial⟩

theorem along_openFor_waiting (k : Handler) (host timeout : Value) (port : Int) :
    Along (waiting k) (Sender.openFor (hooks n) host (.int port) timeout) := by
  refine (wire_waiting k).along_openFor (fun name => ?_) (fun name => ?_) host timeout
  · exact along_logLine_waiting (p := "GELF TCP sender connected to ".toList) (q := []) k
      (by decide) (by decide) (by decide) _ _ _
  · exact along_logLine_waiting (p := "GELF UDP sender targeting ".toList) (q := []) k
      (by decide) (by decide) (by decide) _ _ _

/-- A handler that is busy and has opened no sender yet. -/
structure Unopened (w : World) : Prop where
  busy : Busy w
  life : Life .unopened w.history
  place : (w.handler.stage, w.handler.attached) = Phase.unopened.place
  normal : Normal w.handler

theorem Unopened.told {w : World} (h : Unopened w) : Deaf w ∧ Told w :=
  ⟨.inl h.busy, .inl ⟨⟨.unopened, h.life, h.place⟩,
    fun ha => Bool.noConfusion ((Prod.mk.inj h.place).2.symm.trans ha), h.normal⟩⟩

theorem Unopened.ready {w : World} (h : Unopened w) (hs : w.sender.isSome) :
    Deaf (w.turned .ready true) ∧ Told (w.turned .ready true) :=
  ⟨.inl h.busy, .inl ⟨⟨.opened, .ready h.life, rfl⟩, fun _ => hs, h.normal.moved _ _ _⟩⟩

theorem Unopened.after {α : Type} {a : Act α} {w w' : World} {x : Except Fault α} (h : Unopened w)
    (ha : Along (waiting w.handler) a) (hr : a.perform (w.noted .opening) = (x, w')) :
    Unopened w' := by
  have hw := ha (w.noted .opening) ⟨.opening h.life, rfl⟩
  rw [hr] at hw
  obtain ⟨⟨hl, hk⟩, -⟩ := hw
  refine ⟨?_, hl, hk ▸ h.place, hk ▸ h.normal⟩
  rw [Busy, hk]
  exact h.busy

/-! ### From a factory -/

/-- While a factory is called the handler is busy, and it has not been ready yet. Its history has gone
on from `ds`. -/
structure Pending (ds : List Deed) (w : World) : Prop where
  busy : Busy w
  alive : Alive w
  unready : (Stage.ready, true) ∉ w.turns
  grown : ds <+: w.history

theorem kept_pending (ds : List Deed) : Kept (Pending ds) where
  same _ _ hh hk hs h := by
    refine ⟨?_, h.alive.same hh hk hs, ?_, hh ▸ h.grown⟩
    · rw [Busy, hk]
      exact h.busy
    · rw [World.turns, hh]
      exact h.unready
  noted {w d} hd h := by
    refine ⟨h.busy, h.alive.noted hd, ?_, h.grown.trans (List.prefix_append _ _)⟩
    rw [World.turns, World.noted_history, List.filterMap_append,
      List.filterMap_cons_none (turn_of_concerns hd), List.filterMap_nil, List.append_nil]
    exact h.unready
  retired {w} hc h := by
    refine ⟨(retire_emitting w).trans h.busy, alive_retire hc h.alive, ?_,
      h.grown.trans (steady_retired w).history⟩
    obtain ⟨o, s, -, hr⟩ := outermost_retire w
    have hu := h.unready
    rw [World.turns] at hu
    rw [hr, retired]
    split <;> simp [World.turns, World.turned, World.noted, Deed.turn?, hu]

/-- A handler that was closed meanwhile, and is ready now, was overtaken. -/
theorem Pending.ready {ds : List Deed} {w : World} (h : Pending ds w) (hl : Life .unopened ds)
    (ho : Deed.opening ∈ ds) (hs : w.sender.isSome)
    (hm : Life .abandoned w.history → Meddling w.handler) :
    Deaf (w.turned .ready true) ∧ Told (w.turned .ready true) := by
  obtain ⟨p, hp, hk⟩ := h.alive.life
  have hu := h.unready
  rw [World.turns, hp.turns] at hu
  refine ⟨.inl h.busy, ?_⟩
  cases p with
  | unopened => exact .inl ⟨⟨.opened, .ready hp, rfl⟩, fun _ => hs, h.alive.normal.moved _ _ _⟩
  | abandoned => exact .inr ⟨hl.overtaken ho hp h.grown, hm hp⟩
  | opened => exact absurd List.mem_cons_self hu
  | released => exact absurd List.mem_cons_self hu

theorem Unopened.tacit {factory : Importable} {w w' : World} {x : Except Fault Bool}
    (h : Unopened w) (hf : (Catalog.call factory).Asks fun _ => False)
    (hr : (callFactory (hooks n) factory).perform (w.noted .opening) = (x, w')) : Unopened w' := by
  refine h.after ((wire_waiting _).along_callFactory (fun _ _ h => ⟨h, trivial⟩) ?_) hr
  exact run_along (fun _ hq => hq.elim) hf

theorem openByFactory_told {factory : Importable} {w : World} (h : Unopened w)
    (hf : w.handler.factory = some factory) :
    Deaf ((openByFactory (hooks n) factory).perform w).2 ∧
      Told ((openByFactory (hooks n) factory).perform w).2 := by
  unfold openByFactory
  rw [perform_note_bind, perform_attempt_bind]
  have hl : Life .unopened (w.noted .opening).history := .opening h.life
  have hstart : Pending (w.noted .opening).history (w.noted .opening) := by
    refine ⟨h.busy, ⟨⟨.unopened, hl, h.place⟩, fun ha => ?_, h.normal⟩, ?_, List.prefix_refl _⟩
    · exact Bool.noConfusion ((Prod.mk.inj h.place).2.symm.trans ha)
    · rw [World.turns, hl.turns]
      exact List.not_mem_nil
  have K := kept_pending (w.noted .opening).history
  have hcall := K.losing.toWire.along_callFactory K.losing.context
    (along_words (K.along_hooks n) (Catalog.call factory)) (w.noted .opening) ⟨.inl h.busy, hstart⟩
  have hsteady := full_steady.toWire.along_callFactory full_steady.context
    (along_words (along_hooks_steady n) (Catalog.call factory)) (w.noted .opening)
  cases hr : (callFactory (hooks n) factory).perform (w.noted .opening) with
  | mk x w₁ =>
    rw [hr] at hcall hsteady
    obtain ⟨⟨hd, hp⟩, -⟩ := hcall
    cases x with
    | ok made =>
      obtain ⟨rfl, hs⟩ := callFactory_ok (h.normal.factory _ hf) hr
      refine hp.ready hl (List.mem_append_right _ List.mem_cons_self) hs fun ha => ?_
      obtain ⟨stage, attached, emitting, hk⟩ := hsteady.handler
      refine ⟨factory, by rw [hk]; exact hf, fun htacit => ?_⟩
      -- no factory that asks for nothing can have closed the handler
      exact absurd ((h.tacit htacit hr).life.turns.symm.trans ha.turns) (by decide)
    | error f =>
      dsimp only
      have ht : Told w₁ := .inl hp.alive
      split
      · have hrep : Along (guarded Told)
            (report (hooks n) ⟨"Could not create GELF sender", some f, .opening⟩ >>=
              fun _ => (pure false : Act Bool)) :=
          along_bind (kept_told.losing.along_report (kept_told.along_hooks n) rfl)
            fun _ => along_pure _
        exact (hrep w₁ ⟨hd, ht⟩).1
      · exact ⟨hd, ht⟩

/-! ### For a host -/

theorem openByHost_told {host timeout : Value} {port : Int} {w : World} (h : Unopened w) :
    Deaf ((openByHost (hooks n) host (.int port) timeout).perform w).2 ∧
      Told ((openByHost (hooks n) host (.int port) timeout).perform w).2 := by
  unfold openByHost
  rw [perform_note_bind, perform_attempt_bind]
  have hwait := along_openFor_waiting (n := n) w.handler host timeout port
  cases hr : (Sender.openFor (hooks n) host (.int port) timeout).perform (w.noted .opening) with
  | mk x w₁ =>
    have hu := h.after hwait hr
    cases x with
    | ok _ => exact hu.ready (openFor_ok hr)
    | error f =>
      dsimp only
      refine (along_during_words_bind (P := guarded Told) (kept_told.along_hooks n)
        (openingReport_yields host (.int port) f) (fun found hf => ?_) w₁ hu.told).1
      split
      · exact along_bind (kept_told.losing.along_report (kept_told.along_hooks n) (hf _ rfl))
          fun _ => along_pure _
      · exact along_fault _

/-- Looking for a sender keeps a busy handler where its history says, if it is not closed and if its
factory does not overtake it. -/
theorem ensureSender_told {w : World} (hc : ¬ Closed w) :
    (guarded Told).rel w ((ensureSender (hooks n)).perform w).2 := by
  rintro ⟨hd, ht⟩
  refine ⟨?_, trivial⟩
  have hb : Busy w := hd.resolve_right hc
  obtain ha | hr := ht
  · obtain ⟨p, hp, hk⟩ := ha.life
    unfold ensureSender
    rw [perform_get_bind]
    cases p with
    | unopened =>
      have hu : Unopened w := ⟨hb, hp, hk, ha.normal⟩
      dsimp only
      rw [if_neg (by rw [(Prod.mk.inj hk).2]; decide)]
      split
      · exact openByFactory_told hu ‹_›
      · obtain ⟨port, hport⟩ := ha.normal.port
        rw [hport]
        split
        · exact openByHost_told hu
        · exact hu.told
    | opened =>
      dsimp only
      rw [if_pos (Prod.mk.inj hk).2]
      exact ⟨hd, .inl ha⟩
    | _ => exact absurd (Prod.mk.inj hk).1 hc
  · have hs := full_steady.toLoose.along_ensureSender (along_hooks_steady n) w
    have hbusy := broad_busyAsBefore.toLoose.along_ensureSender (along_hooks_busy n) w
    exact ⟨.inl (hbusy.trans hb), .inr (hr.steady hs)⟩

/-! ## Whole runs -/

theorem Told.emitting {w : World} (h : Told w) (b : Bool) : Told (setEmitting b w) :=
  h.imp (fun ha => ⟨ha.life, ha.sender, ha.normal.moved _ _ _⟩) fun hr =>
    hr.steady (full_steady.emitting w b)

theorem along_processReported_told (r : Record) :
    Along (guarded Told) (processReported (hooks n) r) := by
  have hh := kept_told.along_hooks n
  refine along_processReported (kept_told.losing.along_process hh (fun w => ensureSender_told) r)
    fun f => ?_
  exact along_report (P := guarded Told) (fun w h => ⟨⟨h.1, kept_told.same w rfl rfl id h.2⟩, trivial⟩)
    (fun _ h => ⟨⟨h.1, kept_told.noted rfl h.2⟩, trivial⟩) kept_told.losing.written hh

theorem visit_told_of {w : World} (ht : Told w) (s : Step) : Told (visit (hooks n) s w).after :=
  visit_keeps kept_told.losing.toDiscreet (fun _ b h => h.emitting b)
    (fun _ hc h => kept_told.retired hc h) along_processReported_told s ht

/-- What holds of a handler's stage and sender, and what its history says about them. -/
structure Lifecycle (w : World) : Prop where
  /-- The handler is ready just if it has a sender. -/
  ready : w.handler.stage = .ready ↔ w.handler.attached = true
  sender : w.handler.attached = true → w.sender.isSome
  /-- The stages so far, each with whether there was a sender then, and the stage at present. -/
  stages : w.turns = [] ∧ w.handler.stage = .uninitialized ∨
    w.turns = [(.ready, true)] ∧ w.handler.stage = .ready ∨
    w.turns = [(.closed, false)] ∧ w.handler.stage = .closed ∨
    w.turns = [(.ready, true), (.closed, false)] ∧ w.handler.stage = .closed
  /-- Once closed, the handler does not set about getting a sender. -/
  opening : ∀ before attached after,
    w.history = before ++ .turned .closed attached :: after → Deed.opening ∉ after
  /-- A sender that the handler had when it was closed has been told to close, once. -/
  closing : w.history.countP isClosing =
    if w.turns = [(.ready, true), (.closed, false)] then 1 else 0

theorem Alive.lifecycle {w : World} (h : Alive w) : Lifecycle w := by
  obtain ⟨p, hp, hk⟩ := h.life
  have ht : w.turns = p.turns := hp.turns
  obtain ⟨hs, ha⟩ := Prod.mk.inj hk
  refine ⟨?_, h.sender, ?_, hp.no_opening, ?_⟩
  · rw [hs, ha]
    cases p <;> decide
  · rw [ht, hs]
    cases p with
    | unopened => exact .inl ⟨rfl, rfl⟩
    | opened => exact .inr (.inl ⟨rfl, rfl⟩)
    | released => exact .inr (.inr (.inr ⟨rfl, rfl⟩))
    | abandoned => exact .inr (.inr (.inl ⟨rfl, rfl⟩))
  · rw [hp.closings, ht]
    cases p <;> decide

/-- The stages of a handler that was overtaken are none that a lifecycle goes through. -/
theorem Lifecycle.not_overtaken {w : World} (h : Lifecycle w) : ¬ Overtaken w.history := by
  intro ho
  have hsub : [(Stage.closed, false), (Stage.ready, true)].Sublist w.turns := ho.turns
  obtain ⟨ht, -⟩ | ⟨ht, -⟩ | ⟨ht, -⟩ | ⟨ht, -⟩ := h.stages
  all_goals
    rw [ht] at hsub
    exact absurd hsub (by decide)

/-- Over every run of a new handler whose settings are normal, whatever the network does and whatever
the code of others does while a record is rendered, built or encoded: the handler goes through its
lifecycle just if it was not overtaken, by a factory that closed it and then made a sender. Only a
factory that asks for something while it is called can do that. -/
theorem lifecycle_iff {w : World} (hw : Constructed w) (hn : Normal w.handler) (n : Nat)
    (steps : List Step) : ∀ v ∈ visits (hooks n) steps w,
      (Lifecycle v.after ↔ ¬ Overtaken v.after.history) ∧
      (Overtaken v.after.history → Meddling w.handler) := by
  intro v hv
  have hf := hw.fresh
  have ha : Alive w := by
    refine ⟨⟨.unopened, ?_, ?_⟩, ?_, hn⟩
    · rw [hf.history]
      exact .new
    · rw [hf.stage, hf.attached]
      rfl
    · simp [hf.attached]
  obtain ⟨ht, hs⟩ := (visits_keep (I := fun v => Told v ∧ Steady w v)
    (fun s v h => ⟨visit_told_of h.1 s, steady.trans h.2 (visit_steady n s v)⟩)
    ⟨.inl ha, steady.refl w⟩ hv).2
  refine ⟨⟨Lifecycle.not_overtaken, fun ho => ?_⟩, fun ho => ?_⟩
  · exact (ht.resolve_right fun hr => ho hr.overtaken).lifecycle
  · have hr := ht.resolve_left fun ha => ha.lifecycle.not_overtaken ho
    obtain ⟨stage, attached, emitting, hk⟩ := hs.handler
    have hm := hr.meddling
    rwa [hk] at hm

/-- A world in which a handler with this factory is made. -/
def equipped (factory : Importable) : World :=
  ((construct ⟨[]⟩ none [] (some factory)).perform .calm).2

theorem equipped_constructed (factory : Importable) : Constructed (equipped factory) :=
  ⟨⟨[]⟩, none, [], some factory, .calm, rfl, nofun, rfl⟩

theorem equipped_normal {factory : Importable}
    (hf : (Catalog.call factory).Yields fun i => i ≠ .nothing ∧ i ≠ .cleared) :
    Normal (equipped factory).handler := by
  refine ⟨.inl rfl, ⟨12201, rfl⟩, ?_⟩
  rintro o ⟨⟩
  exact hf

/-- Makes a sender after it has closed the handler. -/
def reviving : Importable := .callable "reviving" (.ask (.errand .close) fun _ => .done .sender)

/-- Hands the handler a record, which is dropped, and then makes a sender. -/
def talkative : Importable := .callable "talkative"
  (.ask (.errand (.log ⟨.str "app", .int 20, "/srv/app/worker.py", 42, .str "run", .str "inner",
    .tuple [], .null, .null, .int 0, []⟩)) fun _ => .done .sender)

theorem lifecycle_iff_talkative :
    Constructed (equipped talkative) ∧ Normal (equipped talkative).handler ∧
      ∀ v ∈ visits (hooks 8) [.handle (.plainly (.object (.probe none (some .close))) (.str "hello")),
          .close, .handle (.plainly (.str "app") (.str "hello"))] (equipped talkative),
        Lifecycle v.after ↔ ¬ Overtaken v.after.history := by
  have hn : Normal (equipped talkative).handler := equipped_normal fun _ => ⟨nofun, nofun⟩
  have hw := equipped_constructed talkative
  exact ⟨hw, hn, fun v hv => (lifecycle_iff hw hn 8 _ v hv).1⟩

/-- A handler that is closed while its sender is made becomes ready all the same. -/
theorem closed_turns_ready : Constructed (equipped reviving) ∧ Normal (equipped reviving).handler ∧
    ∃ v ∈ visits (hooks 8) [.handle (.plainly (.str "app") (.str "hello"))] (equipped reviving),
      v.after.turns = [(.closed, false), (.ready, true)] ∧ ¬ Lifecycle v.after := by
  have ht : (visit (hooks 8) (.handle (.plainly (.str "app") (.str "hello")))
      (equipped reviving)).after.turns = [(.closed, false), (.ready, true)] := by
    decide +kernel
  refine ⟨equipped_constructed _, equipped_normal fun _ => ⟨nofun, nofun⟩, _, List.mem_cons_self, ht,
    fun h => ?_⟩
  obtain ⟨hs, -⟩ | ⟨hs, -⟩ | ⟨hs, -⟩ | ⟨hs, -⟩ := h.stages
  all_goals
    rw [ht] at hs
    cases hs

end Handler

end Gelf
