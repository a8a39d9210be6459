import Gelf.Proofs.Errands

/-!
# Gelf.Proofs.Coupling

Two runs of the same work, side by side, in worlds that differ and with errands that differ.

* `Similar`: two worlds that a handler's work cannot tell apart, except by its reports.
* `Act.CoupledUntil`: from related worlds, the two pieces of work come to the same and lead to related
  worlds, or the first of them spoils its world. There is one rule for each way of putting work
  together. `Act.Coupled`: no world is ever spoilt.
* `CouplingUntil`: a relation that survives whatever is done to both worlds alike, under which errands
  and reports are coupled. `Coupling`: the same where no world is ever spoilt.
* `CouplingUntil.send`, `CouplingUntil.ensureSender`, `CouplingUntil.close` and so on: then all that
  a handler does is coupled, one lemma for each function.
-/

namespace Gelf

/-- The worlds differ at most in what is written, reported and noted. -/
structure Similar (w v : World) : Prop where
  outside : v.outside = w.outside
  host : v.host = w.host
  levels : v.levels = w.levels
  context : v.context = w.context
  sender : v.sender = w.sender
  handler : v.handler = w.handler
  chatter : v.chatter = w.chatter

namespace Act

variable {S : World → Prop} {C : World → World → Prop} {α β : Type}

/-- From related worlds the two come to the same, and lead to related worlds, unless the first ends in
a spoilt world. A spoilt world stays so. -/
structure CoupledUntil (S : World → Prop) (C : World → World → Prop) (a b : Act α) : Prop where
  spoils : ∀ w, S w → S (a.perform w).2
  same : ∀ w v, C w v → S (a.perform w).2 ∨
    (a.perform w).1 = (b.perform v).1 ∧ C (a.perform w).2 (b.perform v).2

def never : World → Prop := fun _ => False

/-- From related worlds the two come to the same, and lead to related worlds. -/
abbrev Coupled (C : World → World → Prop) (a b : Act α) : Prop := CoupledUntil never C a b

theorem Coupled.always {a b : Act α} (h : Coupled C a b) {w v : World} (hc : C w v) :
    (a.perform w).1 = (b.perform v).1 ∧ C (a.perform w).2 (b.perform v).2 :=
  (h.same w v hc).resolve_left id

theorem coupled_pure (x : α) : CoupledUntil S C (pure x : Act α) (pure x) :=
  ⟨fun _ hs => hs, fun _ _ hc => .inr ⟨rfl, hc⟩⟩

theorem coupled_ofExcept (e : Except Fault α) : CoupledUntil S C (ofExcept e) (ofExcept e) :=
  ⟨fun _ hs => hs, fun _ _ hc => .inr ⟨rfl, hc⟩⟩

theorem coupled_fault (f : Fault) : CoupledUntil S C (fault f : Act α) (fault f) :=
  ⟨fun _ hs => hs, fun _ _ hc => .inr ⟨rfl, hc⟩⟩

theorem coupled_fault_bind (f : Fault) (k l : α → Act β) :
    CoupledUntil S C (fault f >>= k) (fault f >>= l) :=
  ⟨fun _ hs => hs, fun _ _ hc => .inr ⟨rfl, hc⟩⟩

theorem coupled_modify {f g : World → World} (hs : ∀ w, S w → S (f w))
    (h : ∀ w v, C w v → C (f w) (g v)) : CoupledUntil S C (modify f : Act PUnit) (modify g) :=
  ⟨hs, fun w v hc => .inr ⟨rfl, h w v hc⟩⟩

theorem coupled_bind {a b : Act α} {k l : α → Act β} (ha : CoupledUntil S C a b)
    (hk : ∀ x, CoupledUntil S C (k x) (l x)) : CoupledUntil S C (a >>= k) (b >>= l) := by
  have hspoils : ∀ w, S (a.perform w).2 → S ((a >>= k).perform w).2 := by
    intro w hs
    rw [perform_bind]
    cases hp : a.perform w with
    | mk x w' =>
      rw [hp] at hs
      cases x with
      | ok x => exact (hk x).spoils w' hs
      | error f => exact hs
  refine ⟨fun w hs => hspoils w (ha.spoils w hs), fun w v hc => ?_⟩
  obtain hs | ⟨hx, hc'⟩ := ha.same w v hc
  · exact .inl (hspoils w hs)
  · rw [perform_bind, perform_bind]
    cases hp : a.perform w with
    | mk x w' =>
      cases hq : b.perform v with
      | mk y v' =>
        rw [hp, hq] at hx hc'
        dsimp only at hx hc'
        subst hx
        cases x with
        | ok x => exact (hk x).same w' v' hc'
        | error f => exact .inr ⟨rfl, hc'⟩

/-- What is done may hang on the world, but only on what related worlds have in common. -/
theorem coupled_get_bind {k l : World → Act α} (h : ∀ w, CoupledUntil S C (k w) (l w))
    (hl : ∀ w v, C w v → l v = l w) : CoupledUntil S C (get >>= k) (get >>= l) := by
  refine ⟨fun w hs => ?_, fun w v hc => ?_⟩
  · rw [perform_get_bind]
    exact (h w).spoils w hs
  · rw [perform_get_bind, perform_get_bind, hl w v hc]
    exact (h w).same w v hc

theorem coupled_attempt {a b : Act α} (h : CoupledUntil S C a b) :
    CoupledUntil S C (attempt a) (attempt b) :=
  ⟨h.spoils, fun w v hc => (h.same w v hc).imp_right fun hx => ⟨congrArg Except.ok hx.1, hx.2⟩⟩

theorem coupled_during {a b : Act α} (handled : Option Fault) (h : CoupledUntil S C a b) :
    CoupledUntil S C (a.during handled) (b.during handled) := by
  refine ⟨fun w hs => ?_, fun w v hc => ?_⟩
  · rw [during_snd]
    exact h.spoils w hs
  · rw [during_snd, during_snd]
    refine (h.same w v hc).imp_right fun ⟨hx, hc'⟩ => ⟨?_, hc'⟩
    rw [perform_during, perform_during]
    cases hp : a.perform w with
    | mk x w' =>
      cases hq : b.perform v with
      | mk y v' =>
        rw [hp, hq] at hx
        dsimp only at hx
        subst hx
        cases x <;> rfl

theorem coupled_tidied {a b : Act α} {f g : World → World} (h : CoupledUntil S C a b)
    (hs : ∀ w, S w → S (f w)) (ht : ∀ w v, C w v → C (f w) (g v)) :
    CoupledUntil S C (tidied a f) (tidied b g) :=
  ⟨fun w hw => hs _ (h.spoils w hw), fun w v hc =>
    (h.same w v hc).imp (hs _) fun hx => ⟨hx.1, ht _ _ hx.2⟩⟩

theorem coupled_discard {a b : Act α} (h : CoupledUntil S C a b) :
    CoupledUntil S C (discard a) (discard b) := by
  rw [discard_eq, discard_eq]
  exact coupled_bind h fun _ => coupled_pure _

/-- By induction on the script: each request gets the same answer on both sides, until one of them
spoils the world. -/
theorem run_coupled {answer other : (q : Request) → World → Except Fault q.Answer × World}
    (h : ∀ q, CoupledUntil S C (ofFunction (answer q)) (ofFunction (other q))) (s : Script α) :
    CoupledUntil S C (ofFunction (s.run answer)) (ofFunction (s.run other)) := by
  induction s with
  | done a => exact coupled_pure a
  | fail f => exact coupled_fault f
  | ask q next ih =>
    refine ⟨fun w hw => (ih _).spoils _ ((h q).spoils w hw), fun w v hc => ?_⟩
    obtain hw | ⟨hx, hc'⟩ := (h q).same w v hc
    · exact .inl ((ih _).spoils _ hw)
    · have hn := (ih ((answer q w).1)).same _ _ hc'
      replace hx : (answer q w).1 = (other q v).1 := hx
      have hv : (ofFunction (Script.run other (.ask q next))).perform v =
          (ofFunction ((next (answer q w).1).run other)).perform (other q v).2 := by
        rw [hx]
        rfl
      rw [hv]
      exact hn

theorem coupled_words {h h' : Hooks} (he : ∀ e, CoupledUntil S C (h e) (h' e)) (s : Script α) :
    CoupledUntil S C (words h s) (words h' s) := by
  refine run_coupled (fun q => ?_) s
  cases q with
  | errand e => exact he e
  | unformatted raw f => exact coupled_pure _
  | localHost => exact coupled_pure _

theorem coupled_script {h h' : Hooks} (he : ∀ e, CoupledUntil S C (h e) (h' e))
    (hr : ∀ r, CoupledUntil S C (report h r) (report h' r))
    (hl : CoupledUntil S C (localHost h) (localHost h')) (s : Script α) :
    CoupledUntil S C (script h s) (script h' s) := by
  refine run_coupled (fun q => ?_) s
  cases q with
  | errand e => exact he e
  | unformatted raw f => exact hr _
  | localHost => exact hl

theorem coupled_reportUnclosed {h h' : Hooks}
    (hr : ∀ r, CoupledUntil S C (report h r) (report h' r)) (x : Except Fault Unit) :
    CoupledUntil S C (Handler.reportUnclosed h x) (Handler.reportUnclosed h' x) := by
  cases x with
  | ok _ => exact coupled_pure _
  | error f =>
    simp only [Handler.reportUnclosed]
    split
    · exact hr _
    · exact coupled_fault _

end Act

open Act

/-- Related worlds are similar and stay related whatever is done to both alike, a world is spoilt by
its reports only, and errands and reports are coupled. -/
structure CouplingUntil (S : World → Prop) (C : World → World → Prop) (h h' : Hooks) : Prop where
  similar : ∀ {w v}, C w v → Similar w v
  outside : ∀ {w v}, C w v → ∀ o, C { w with outside := o } { v with outside := o }
  sender : ∀ {w v}, C w v → ∀ s, C { w with sender := s } { v with sender := s }
  host : ∀ {w v}, C w v → ∀ n, C { w with host := n } { v with host := n }
  context : ∀ {w v}, C w v → ∀ c, C { w with context := c } { v with context := c }
  noted : ∀ {w v}, C w v → ∀ d, C (w.noted d) (v.noted d)
  turned : ∀ {w v}, C w v → ∀ stage attached, C (w.turned stage attached) (v.turned stage attached)
  spoilt : ∀ {w w'}, w'.reports = w.reports → S w → S w'
  errand : ∀ e, CoupledUntil S C (h e) (h' e)
  report : ∀ r, CoupledUntil S C (report h r) (report h' r)

abbrev Coupling (C : World → World → Prop) (h h' : Hooks) : Prop := CouplingUntil never C h h'

namespace CouplingUntil

variable {S : World → Prop} {C : World → World → Prop} {h h' : Hooks} {α : Type}

theorem outward (K : CouplingUntil S C h h') (g : Outside → Except Fault α × Outside) :
    CoupledUntil S C (outward g) (outward g) := by
  refine ⟨fun w => K.spoilt rfl, fun w v hc => .inr ?_⟩
  rw [perform_outward, perform_outward, (K.similar hc).outside]
  exact ⟨rfl, K.outside hc _⟩

theorem change (K : CouplingUntil S C h h') {f g : World → World}
    (hr : ∀ w, (f w).reports = w.reports) (hc : ∀ w v, C w v → C (f w) (g v)) :
    CoupledUntil S C (modify f : Act PUnit) (modify g) :=
  coupled_modify (fun w => K.spoilt (hr w)) hc

theorem note (K : CouplingUntil S C h h') (d : Deed) : CoupledUntil S C (note d) (note d) :=
  K.change (fun _ => rfl) fun _ _ hc => K.noted hc d

theorem turn (K : CouplingUntil S C h h') (stage : Stage) (attached : Bool) :
    CoupledUntil S C (Handler.turn stage attached) (Handler.turn stage attached) :=
  K.change (fun _ => rfl) fun _ _ hc => K.turned hc stage attached

theorem stageNow (K : CouplingUntil S C h h') :
    CoupledUntil S C Handler.stageNow Handler.stageNow :=
  coupled_get_bind (fun _ => coupled_pure _) fun w v hc => by rw [(K.similar hc).handler]

/-! ## Requests -/

theorem localHost (K : CouplingUntil S C h h') :
    CoupledUntil S C (localHost h) (localHost h') := by
  refine coupled_get_bind (fun w => ?_) fun w v hc => by rw [(K.similar hc).host]
  split
  · exact coupled_pure _
  · refine coupled_bind (coupled_attempt (K.outward _)) fun outcome => ?_
    refine coupled_bind (K.change (fun _ => rfl) fun _ _ hc => K.host hc _) fun _ => ?_
    split
    · exact coupled_pure _
    · exact coupled_bind (K.report _) fun _ => coupled_pure _
    · exact coupled_fault _

theorem logLine (K : CouplingUntil S C h h') (source : LogSource) (format : String)
    (args : List Value) :
    CoupledUntil S C (logLine h source format args) (logLine h' source format args) := by
  refine coupled_bind (coupled_words K.errand _) fun text => K.change (fun _ => rfl) fun w v hc => ?_
  rw [(K.similar hc).outside]
  exact K.outside hc _

/-! ## TCP -/

theorem tcpState (K : CouplingUntil S C h h') (f : TcpSender → TcpSender) :
    CoupledUntil S C (TcpSender.modifyState f) (TcpSender.modifyState f) := by
  refine K.change (fun w => ?_) fun w v hc => ?_
  · split <;> rfl
  · rw [(K.similar hc).sender]
    split
    · exact K.sender hc _
    · exact hc

theorem tcpOpenNow (K : CouplingUntil S C h h') :
    CoupledUntil S C TcpSender.isOpenNow TcpSender.isOpenNow := by
  refine coupled_get_bind (fun w => ?_) fun w v hc => by rw [(K.similar hc).sender]
  split <;> exact coupled_pure _

theorem connect (K : CouplingUntil S C h h') (host port timeout : Value) : CoupledUntil S C
    (TcpSender.connect h host port timeout) (TcpSender.connect h' host port timeout) := by
  refine coupled_bind (K.outward _) fun _ => ?_
  refine coupled_bind (K.tcpState _) fun _ => ?_
  exact coupled_bind (K.note _) fun _ => K.logLine _ _ _

theorem tcpMake (K : CouplingUntil S C h h') (host port timeout : Value) : CoupledUntil S C
    (TcpSender.make h host port timeout) (TcpSender.make h' host port timeout) :=
  coupled_bind (K.change (fun _ => rfl) fun _ _ hc => K.sender hc _) fun _ => K.connect _ _ _

theorem drop (K : CouplingUntil S C h h') :
    CoupledUntil S C TcpSender.drop TcpSender.drop := by
  refine coupled_bind K.tcpOpenNow fun isOpen => ?_
  split
  · refine coupled_tidied (K.outward _) (fun w => K.spoilt ?_) fun w v hc => ?_
    · split <;> rfl
    · rw [(K.similar hc).sender]
      split
      · exact K.sender hc _
      · exact hc
  · exact coupled_pure _

theorem writeOut (K : CouplingUntil S C h h') (s : TcpSender) (bytes : Bytes) :
    CoupledUntil S C (s.writeOut h bytes) (s.writeOut h' bytes) := by
  refine coupled_bind K.tcpOpenNow fun isOpen => ?_
  dsimp only
  split
  · exact coupled_bind (K.connect _ _ _) fun _ => K.outward _
  · exact K.outward _

theorem giveUp (K : CouplingUntil S C h h') (s : TcpSender) :
    CoupledUntil S C (s.giveUp h) (s.giveUp h') :=
  coupled_bind (K.logLine _ _ _) fun _ => K.drop

theorem tcpTransmit (K : CouplingUntil S C h h') (s : TcpSender) (bytes : Bytes) :
    CoupledUntil S C (s.transmit h bytes) (s.transmit h' bytes) := by
  refine coupled_bind (coupled_attempt (K.writeOut s bytes)) fun outcome => ?_
  split
  · exact coupled_pure _
  · split
    · exact coupled_bind (coupled_during _ (K.giveUp s)) fun _ => coupled_pure _
    · exact coupled_fault _

theorem tcpSend (K : CouplingUntil S C h h') (s : TcpSender) (m : Message) :
    CoupledUntil S C (s.send h m) (s.send h' m) := by
  unfold TcpSender.send
  split
  · exact coupled_pure _
  · refine coupled_bind (coupled_words K.errand _) fun text => ?_
    exact coupled_bind (K.note _) fun _ => K.tcpTransmit s _

theorem tcpClose (K : CouplingUntil S C h h') :
    CoupledUntil S C TcpSender.close TcpSender.close :=
  coupled_bind (K.tcpState _) fun _ => K.drop

/-! ## UDP -/

theorem udpMake (K : CouplingUntil S C h h') (host port chunkSize wantsCompression : Value) :
    CoupledUntil S C (UdpSender.make h host port chunkSize wantsCompression)
      (UdpSender.make h' host port chunkSize wantsCompression) := by
  refine coupled_bind (coupled_ofExcept _) fun bad => ?_
  dsimp only
  split
  · exact coupled_fault_bind _ _ _
  · refine coupled_bind (K.outward _) fun found => ?_
    split
    · exact coupled_fault _
    · refine coupled_bind (K.outward _) fun _ => ?_
      refine coupled_bind (K.change (fun _ => rfl) fun _ _ hc => K.sender hc _) fun _ => ?_
      exact coupled_bind (K.note _) fun _ => K.logLine _ _ _

theorem sendDatagram (K : CouplingUntil S C h h') (address : List Value) (datagram : Bytes) :
    CoupledUntil S C (UdpSender.sendDatagram address datagram)
      (UdpSender.sendDatagram address datagram) := by
  refine coupled_bind ?_ fun isOpen => ?_
  · refine coupled_get_bind (fun w => ?_) fun w v hc => by rw [(K.similar hc).sender]
    split <;> exact coupled_pure _
  · split
    · exact K.outward _
    · exact coupled_fault _

theorem sendEach (K : CouplingUntil S C h h') (address : List Value) (datagrams : List Bytes) :
    CoupledUntil S C (UdpSender.sendEach address datagrams)
      (UdpSender.sendEach address datagrams) := by
  induction datagrams with
  | nil => exact coupled_pure _
  | cons d rest ih => exact coupled_bind (K.sendDatagram address d) fun _ => ih

theorem udpTransmit (K : CouplingUntil S C h h') (s : UdpSender) (payload : Bytes) :
    CoupledUntil S C (s.transmit h payload) (s.transmit h' payload) := by
  refine coupled_get_bind (fun w => ?_) fun w v hc => by rw [(K.similar hc).outside]
  split
  · exact coupled_bind (K.sendEach _ _) fun _ => coupled_pure _
  · split
    · exact coupled_bind (K.logLine _ _ _) fun _ => coupled_pure _
    · exact coupled_fault _

theorem udpSend (K : CouplingUntil S C h h') (s : UdpSender) (m : Message) :
    CoupledUntil S C (s.send h m) (s.send h' m) := by
  unfold UdpSender.send
  split
  · exact coupled_pure _
  · refine coupled_bind (coupled_words K.errand _) fun text => ?_
    exact coupled_bind (K.note _) fun _ => K.udpTransmit s _

theorem udpClose (K : CouplingUntil S C h h') (s : UdpSender) :
    CoupledUntil S C s.close s.close := by
  unfold UdpSender.close
  split
  · refine coupled_bind (K.outward _) fun _ => K.change (fun w => ?_) fun w v hc => ?_
    · split <;> rfl
    · rw [(K.similar hc).sender]
      split
      · exact K.sender hc _
      · exact hc
  · exact coupled_pure _

/-! ## Any sender -/

theorem openFor (K : CouplingUntil S C h h') (host port timeout : Value) : CoupledUntil S C
    (Sender.openFor h host port timeout) (Sender.openFor h' host port timeout) := by
  unfold Sender.openFor
  split
  · split
    · exact K.tcpMake _ _ _
    · exact K.udpMake _ _ _ _
    · exact K.udpMake _ _ _ _
  · exact coupled_fault _
  · exact coupled_fault _

theorem handOver (K : CouplingUntil S C h h') (m : Message) :
    CoupledUntil S C (Sender.handOver h m) (Sender.handOver h' m) := by
  refine coupled_bind (coupled_words K.errand _) fun text => ?_
  refine coupled_bind (coupled_attempt (K.outward _)) fun outcome => ?_
  refine coupled_get_bind (fun w => ?_) fun w v hc => by rw [(K.similar hc).chatter]
  dsimp only
  split
  · exact coupled_bind (K.errand _) fun _ => coupled_ofExcept _
  · exact coupled_ofExcept _

theorem send (K : CouplingUntil S C h h') (m : Message) :
    CoupledUntil S C (Sender.send h m) (Sender.send h' m) := by
  refine coupled_get_bind (fun w => ?_) fun w v hc => by rw [(K.similar hc).sender]
  split
  · exact K.udpSend _ _
  · exact K.tcpSend _ _
  · exact K.handOver _
  · exact coupled_fault _
  · exact coupled_fault _

theorem senderClose (K : CouplingUntil S C h h') :
    CoupledUntil S C Sender.close Sender.close := by
  refine coupled_get_bind (fun w => ?_) fun w v hc => by rw [(K.similar hc).sender]
  split
  · exact K.udpClose _
  · exact K.tcpClose
  · exact K.outward _
  · split
    · exact coupled_pure _
    · exact coupled_fault _
  · exact coupled_fault _

/-! ## The handler -/

theorem changeContext (K : CouplingUntil S C h h') (f : Context → Context) :
    CoupledUntil S C (Handler.changeContext f) (Handler.changeContext f) := by
  refine K.change (fun _ => rfl) fun w v hc => ?_
  rw [(K.similar hc).context]
  exact K.context hc _

theorem callFactory (K : CouplingUntil S C h h') (factory : Importable) :
    CoupledUntil S C (Handler.callFactory h factory) (Handler.callFactory h' factory) := by
  refine coupled_bind (coupled_words K.errand _) fun made => ?_
  split
  · refine coupled_bind (K.outward _) fun _ => ?_
    exact coupled_bind (K.change (fun _ => rfl) fun _ _ hc => K.sender hc _) fun _ => coupled_pure _
  · exact coupled_bind (K.change (fun _ => rfl) fun _ _ hc => K.sender hc _) fun _ => coupled_pure _
  · exact coupled_bind (K.changeContext _) fun _ => coupled_pure _
  · exact coupled_pure _

theorem openByFactory (K : CouplingUntil S C h h') (factory : Importable) :
    CoupledUntil S C (Handler.openByFactory h factory) (Handler.openByFactory h' factory) := by
  refine coupled_bind (K.note _) fun _ => ?_
  refine coupled_bind (coupled_attempt (K.callFactory factory)) fun made => ?_
  split
  · exact coupled_bind (K.turn _ _) fun _ => coupled_pure _
  · exact coupled_bind (K.turn _ _) fun _ => coupled_pure _
  · split
    · exact coupled_bind (K.report _) fun _ => coupled_pure _
    · exact coupled_fault _

theorem openByHost (K : CouplingUntil S C h h') (host port timeout : Value) : CoupledUntil S C
    (Handler.openByHost h host port timeout) (Handler.openByHost h' host port timeout) := by
  refine coupled_bind (K.note _) fun _ => ?_
  refine coupled_bind (coupled_attempt (K.openFor host port timeout)) fun made => ?_
  split
  · exact coupled_bind (K.turn _ _) fun _ => coupled_pure _
  · refine coupled_bind (coupled_during _ (coupled_words K.errand _)) fun found => ?_
    split
    · exact coupled_bind (K.report _) fun _ => coupled_pure _
    · exact coupled_fault _

theorem ensureSender (K : CouplingUntil S C h h') :
    CoupledUntil S C (Handler.ensureSender h) (Handler.ensureSender h') := by
  refine coupled_get_bind (fun w => ?_) fun w v hc => by rw [(K.similar hc).handler]
  dsimp only
  split
  · exact coupled_pure _
  · split
    · exact K.openByFactory _
    · split
      · exact K.openByHost _ _ _
      · exact coupled_pure _

theorem deliver (K : CouplingUntil S C h h') (m : Message) :
    CoupledUntil S C (Handler.deliver h m) (Handler.deliver h' m) := by
  refine coupled_bind K.stageNow fun stage => ?_
  split
  · exact coupled_pure _
  · refine coupled_bind K.ensureSender fun found => ?_
    split
    · refine coupled_bind (K.note _) fun _ => ?_
      refine coupled_bind (coupled_attempt (K.send m)) fun outcome => ?_
      refine coupled_bind (K.note _) fun _ => ?_
      split
      · split
        · exact K.report _
        · exact coupled_pure _
      · split
        · exact K.report _
        · exact coupled_fault _
    · exact K.report _

theorem process (K : CouplingUntil S C h h') (r : Record) :
    CoupledUntil S C (Handler.process h r) (Handler.process h' r) := by
  refine coupled_get_bind (fun w => ?_) fun w v hc => ?_
  · exact coupled_bind (coupled_script K.errand K.report K.localHost _) fun m => K.deliver m
  · have hs := K.similar hc
    unfold Handler.compose
    rw [hs.handler, hs.levels, hs.context]

theorem processReported (K : CouplingUntil S C h h') (r : Record) :
    CoupledUntil S C (Handler.processReported h r) (Handler.processReported h' r) := by
  refine coupled_bind (coupled_attempt (K.process r)) fun outcome => ?_
  split
  · exact coupled_pure _
  · split
    · exact coupled_fault _
    · split
      · exact K.report _
      · exact coupled_fault _

/-- Related worlds stay related when both handlers are changed alike. -/
def Changing (C : World → World → Prop) : Prop :=
  ∀ w v (f : Handler → Handler), C w v →
    C { w with handler := f w.handler } { v with handler := f v.handler }

theorem emit (K : CouplingUntil S C h h') (hk : Changing C) (r : Record) :
    CoupledUntil S C (Handler.emit h r) (Handler.emit h' r) := by
  have hb : ∀ b w v, C w v → C (Handler.setEmitting b w) (Handler.setEmitting b v) :=
    fun b w v => hk w v fun k => { k with emitting := b }
  refine coupled_get_bind (fun w => ?_) fun w v hc => by rw [(K.similar hc).handler]
  refine coupled_bind (coupled_ofExcept _) fun below => ?_
  split
  · exact coupled_pure _
  · split
    · exact coupled_pure _
    · split
      · exact coupled_pure _
      · refine coupled_bind (K.change (fun _ => rfl) (hb true)) fun _ => ?_
        exact coupled_tidied (K.processReported r) (fun w => K.spoilt rfl) (hb false)

theorem handle (K : CouplingUntil S C h h') (hk : Changing C) (r : Record) :
    CoupledUntil S C (Handler.handle h r) (Handler.handle h' r) := by
  refine coupled_get_bind (fun w => ?_) fun w v hc => by rw [(K.similar hc).handler]
  refine coupled_bind (coupled_ofExcept _) fun (accepted, r') => ?_
  dsimp only
  split
  · exact coupled_bind (K.emit hk r') fun _ => coupled_pure _
  · exact coupled_pure _

theorem retire (K : CouplingUntil S C h h') :
    CoupledUntil S C Handler.retire Handler.retire := by
  refine coupled_get_bind (fun w => ?_) fun w v hc => by rw [(K.similar hc).handler]
  dsimp only
  refine coupled_bind (K.turn _ _) fun _ => ?_
  split
  · exact coupled_bind (K.note _) fun _ => coupled_attempt K.senderClose
  · exact coupled_pure _

theorem noteClosed (K : CouplingUntil S C h h') :
    CoupledUntil S C Handler.noteClosed Handler.noteClosed := by
  refine K.change (fun _ => rfl) fun w v hc => ?_
  rw [(K.similar hc).outside]
  exact K.noted hc _

theorem reportUnclosed (K : CouplingUntil S C h h') (x : Except Fault Unit) :
    CoupledUntil S C (Handler.reportUnclosed h x) (Handler.reportUnclosed h' x) :=
  coupled_reportUnclosed K.report x

theorem close (K : CouplingUntil S C h h') :
    CoupledUntil S C (Handler.close h) (Handler.close h') := by
  refine coupled_bind K.stageNow fun stage => ?_
  split
  · exact K.noteClosed
  · refine coupled_bind K.retire fun x => ?_
    exact coupled_bind (K.reportUnclosed x) fun _ => K.noteClosed

/-! ## A new handler -/

theorem modifyHandler (K : CouplingUntil S C h h') (hk : Changing C) (f : Handler → Handler) :
    CoupledUntil S C (Handler.modifyHandler f) (Handler.modifyHandler f) :=
  K.change (fun _ => rfl) fun w v => hk w v f

theorem load (K : CouplingUntil S C idle idle) (c : Catalog) (kind : String) (path : Value) :
    CoupledUntil S C (Handler.load c kind path) (Handler.load c kind path) := by
  unfold Handler.load
  split
  · exact coupled_pure _
  · exact coupled_pure _
  · split
    · refine coupled_bind (coupled_words K.errand _) fun text => ?_
      exact coupled_bind (K.report _) fun _ => coupled_pure _
    · exact coupled_fault _

theorem makeFilter (K : CouplingUntil S C idle idle) (o : Importable) :
    CoupledUntil S C (Handler.makeFilter o) (Handler.makeFilter o) := by
  refine coupled_bind (coupled_words K.errand _) fun i => ?_
  cases i with
  | sender => exact coupled_bind (K.outward _) fun _ => coupled_pure _
  | cleared => exact coupled_bind (K.changeContext _) fun _ => coupled_pure _
  | nothing => exact coupled_pure _
  | other c rule closable => exact coupled_pure _

theorem addFilter (K : CouplingUntil S C idle idle) (hk : Changing C) (path : Value)
    (o : Importable) : CoupledUntil S C (Handler.addFilter path o) (Handler.addFilter path o) := by
  refine coupled_bind (coupled_attempt (K.makeFilter o)) fun made => ?_
  split
  · exact K.modifyHandler hk _
  · split
    · exact coupled_bind (coupled_words K.errand _) fun text => K.report _
    · exact coupled_fault _

theorem chooseFactory (K : CouplingUntil S C idle idle) (hk : Changing C) (c : Catalog)
    (path : Value) :
    CoupledUntil S C (Handler.chooseFactory c path) (Handler.chooseFactory c path) := by
  unfold Handler.chooseFactory
  split
  · exact coupled_bind (K.load c _ path) fun loaded => K.modifyHandler hk _
  · exact coupled_pure _

theorem chooseFilter (K : CouplingUntil S C idle idle) (hk : Changing C) (c : Catalog)
    (path : Value) :
    CoupledUntil S C (Handler.chooseFilter c path) (Handler.chooseFilter c path) := by
  unfold Handler.chooseFilter
  split
  · refine coupled_bind (K.load c _ path) fun loaded => ?_
    split
    · exact K.addFilter hk path _
    · exact coupled_pure _
  · exact coupled_pure _

theorem construct (K : CouplingUntil S C idle idle) (hk : Changing C) (c : Catalog)
    (base : Option Config) (settings : Named Value) (factory : Option Importable) :
    CoupledUntil S C (Handler.construct c base settings factory)
      (Handler.construct c base settings factory) := by
  refine coupled_bind (coupled_ofExcept _) fun _ => ?_
  refine coupled_bind (coupled_words K.errand _) fun config => ?_
  refine coupled_get_bind (fun w => ?_) fun w v hc => by rw [(K.similar hc).levels]
  refine coupled_bind (coupled_words K.errand _) fun threshold => ?_
  refine coupled_bind (K.modifyHandler hk _) fun _ => ?_
  cases factory with
  | none => exact coupled_bind (K.chooseFactory hk c _) fun _ => K.chooseFilter hk c _
  | some o => exact K.chooseFilter hk c _

end CouplingUntil

end Gelf
