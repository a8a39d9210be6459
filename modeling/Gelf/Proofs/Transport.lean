import Gelf.Proofs.Errands

/-!
# Gelf.Proofs.Transport

Getting a sender and sending through it.

* `Passage.Preparing`: a modest passage that allows for what building a message does.
  `Passage.Preparing.along_compose`: that goes along it. `Passage.Composing`: a discreet one.
* `Passage.Line`: a passage that allows for what a sender does with a message.
  `Passage.Line.along_send`: that goes along it. `Passage.Wire`: one that allows for any sender, so
  that `Passage.Wire.along_openFor`: opening one goes along it.
* `Passage.Loose`: one that allows for all that, and for a handler that opens its sender.
  `Passage.Loose.along_ensureSender`: that goes along it.
-/

namespace Gelf

/-! ## Reports that are not about a lost message -/

theorem append_ne {a b s : String} (k : Nat) (hk : k < a.toList.length)
    (h : a.toList[k]? ≠ b.toList[k]?) : a ++ s ≠ b := by
  rintro rfl
  apply h
  rw [String.toList_append, List.getElem?_append_left hk]

/-- Two characters tell the openings of these messages from those of the three. -/
theorem isLoss_append {a s : String} {f : Option Fault} {c : ErrorCode} (k : Nat)
    (hk : k < a.toList.length) (h : ∀ m ∈ lossMessages, a.toList[k]? ≠ m.toList[k]?) :
    Report.isLoss ⟨a ++ s, f, c⟩ = false := by
  unfold Report.isLoss
  rw [List.contains_eq_any_beq, List.any_eq_false]
  intro m hm
  rw [beq_iff_eq]
  exact append_ne k hk (h m hm)

theorem notFormatted_isMajor (raw : String) (f : Fault) : (notFormatted raw f).isMajor = false := by
  have hl : (notFormatted raw f).isLoss = false := isLoss_append 10 (by decide) (by decide)
  rw [Report.isMajor, hl]
  rfl

theorem openingReport_yields (host port : Value) (f : Fault) :
    (Handler.openingReport host port f).Yields fun r => ∀ x, r = some x → x.isLoss = false := by
  unfold Handler.openingReport
  split
  · refine Script.yields_bind (Script.yields_any _) fun s _ => ?_
    rintro x ⟨⟩
    exact isLoss_append 0 (by decide) (by decide)
  · split
    · refine Script.yields_bind (Script.yields_any _) fun s _ => ?_
      refine Script.yields_bind (Script.yields_any _) fun p _ => ?_
      rintro x ⟨⟩
      simp only [String.append_assoc]
      exact isLoss_append 10 (by decide) (by decide)
    · split
      · rintro x ⟨⟩
        rfl
      · rintro x ⟨⟩

theorem settleLookup_isMajor {outcome : Except Fault String} {r : Report}
    (h : (settleLookup outcome).2 = some (.ok r)) : r.isMajor = false := by
  unfold settleLookup at h
  split at h
  · cases h
  · split at h
    · cases h
      rfl
    · cases h

/-! ## The outer work of a handler -/

/-- The passage allows for what building a message does. -/
structure Passage.Preparing (P : Passage) : Prop extends P.Modest where
  looked : ∀ w, P.rel w { w with outside := (Outside.hostName w.outside).2 }
  host : ∀ w n, P.rel w { w with host := n }

/-- It allows for that, and for all reports but those of a lost message. -/
structure Passage.Composing (P : Passage) : Prop extends P.Discreet where
  looked : ∀ w, P.rel w { w with outside := (Outside.hostName w.outside).2 }
  host : ∀ w n, P.rel w { w with host := n }

theorem Passage.Composing.preparing {P : Passage} (C : P.Composing) : P.Preparing :=
  ⟨C.toDiscreet.modest, C.looked, C.host⟩

/-- The passage allows for what a sender does with a message. Meanwhile it can only open and close. -/
structure Passage.Line (P : Passage) : Prop where
  outside : ∀ w o, P.rel w { w with outside := o }
  tcp : ∀ w s c o, w.sender = some (.tcp s) →
    P.rel w { w with sender := some (.tcp { s with isClosed := c, isOpen := o }) }
  connected : ∀ w, P.rel w (w.noted .connected)
  encoded : ∀ w t, P.rel w (w.noted (.encoded t))

/-- It allows for any other sender, too. -/
structure Passage.Wire (P : Passage) : Prop extends P.Line where
  sender : ∀ w s, (w.sender.isSome → s.isSome) → P.rel w { w with sender := s }
  tcp := fun w _ _ _ _ => sender w _ fun _ => rfl

/-- The passage allows for both, and for a factory that is called. -/
structure Passage.Outer (P : Passage) : Prop extends P.Composing, P.Wire where
  context : ∀ w c, P.rel w { w with context := c }

/-- The passage allows for a sender that is opened, too. -/
structure Passage.Loose (P : Passage) : Prop extends P.Outer where
  opening : ∀ w, P.rel w (w.noted .opening)
  ready : ∀ w a, P.rel w (w.turned .ready a)

namespace Passage.Preparing

open Act

variable {P : Passage} {h : Hooks}

theorem along_localHost (C : P.Preparing) (hh : ∀ e, Along P (h e)) : Along P (localHost h) := by
  refine along_get_bind fun w => ?_
  split
  · exact P.refl w
  · refine along_bind (along_attempt (along_outward C.looked)) (fun outcome => ?_) w
    refine along_bind (along_modify fun w => C.host w _) fun _ => ?_
    split
    · exact along_pure _
    · rename_i r hr
      exact along_bind (C.along_report hh (settleLookup_isMajor hr)) fun _ => along_pure _
    · exact along_fault _

theorem along_compose (C : P.Preparing) (hh : ∀ e, Along P (h e)) {α : Type} (s : Script α) :
    Along P (script h s) :=
  along_script hh (fun raw f => C.along_report hh (notFormatted_isMajor raw f))
    (C.along_localHost hh) s

end Passage.Preparing

namespace Passage.Line

open Act

variable {P : Passage} {h : Hooks}

theorem along_outward {α : Type} (L : P.Line) (g : Outside → Except Fault α × Outside) :
    Along P (outward g) := fun w => L.outside w _

theorem along_logLine (L : P.Line) (hh : ∀ e, Along P (h e)) (source : LogSource)
    (format : String) (args : List Value) : Along P (logLine h source format args) :=
  along_bind (along_words hh _) fun _ => along_modify fun w => L.outside w _

/-! ### TCP -/

theorem along_tcpState (L : P.Line) {f : TcpSender → TcpSender}
    (hf : ∀ s, ∃ c o, f s = { s with isClosed := c, isOpen := o }) :
    Along P (TcpSender.modifyState f) := by
  apply along_modify
  intro w
  split
  · rename_i s hs
    obtain ⟨c, o, he⟩ := hf s
    rw [he]
    exact L.tcp w s c o hs
  · exact P.refl w

theorem along_connect (L : P.Line) {host port : Value}
    (hl : Along P (logLine h .tcp TcpSender.connectedLine [host, port])) (timeout : Value) :
    Along P (TcpSender.connect h host port timeout) := by
  refine along_bind (L.along_outward _) fun _ => ?_
  refine along_bind (L.along_tcpState fun s => ⟨s.isClosed, true, rfl⟩) fun _ => ?_
  exact along_bind (along_note L.connected) fun _ => hl

theorem along_drop (L : P.Line) : Along P TcpSender.drop := by
  refine along_bind ?_ fun isOpen => ?_
  · refine along_get_bind fun w => ?_
    split <;> exact P.refl w
  · split
    · intro w
      rw [perform_tidied, perform_outward]
      dsimp only
      split
      · rename_i s hs
        exact P.trans (L.outside w _)
          (L.tcp { w with outside := (Outside.close w.outside).2 } s s.isClosed false hs)
      · exact L.outside w _
    · exact along_pure _

theorem along_writeOut (L : P.Line) (hh : ∀ e, Along P (h e)) (s : TcpSender) (bytes : Bytes) :
    Along P (s.writeOut h bytes) := by
  refine along_bind ?_ fun isOpen => ?_
  · refine along_get_bind fun w => ?_
    split <;> exact P.refl w
  · dsimp only
    split
    · exact along_bind (L.along_connect (L.along_logLine hh _ _ _) _) fun _ =>
        L.along_outward _
    · exact L.along_outward _

theorem along_giveUp (L : P.Line) (hh : ∀ e, Along P (h e)) (s : TcpSender) :
    Along P (s.giveUp h) :=
  along_bind (L.along_logLine hh _ _ _) fun _ => L.along_drop

theorem along_tcpTransmit (L : P.Line) (hh : ∀ e, Along P (h e)) (s : TcpSender) (bytes : Bytes) :
    Along P (s.transmit h bytes) := by
  refine along_bind (along_attempt (L.along_writeOut hh s _)) fun outcome => ?_
  split
  · exact along_pure _
  · split
    · exact along_bind (along_during _ (L.along_giveUp hh s)) fun _ => along_pure _
    · exact along_fault _

theorem along_tcpSend (L : P.Line) (hh : ∀ e, Along P (h e)) (s : TcpSender) (m : Message) :
    Along P (s.send h m) := by
  unfold TcpSender.send
  split
  · exact along_pure _
  · refine along_bind (along_words hh _) fun text => ?_
    exact along_bind (along_note fun w => L.encoded w text) fun _ => L.along_tcpTransmit hh s _

/-! ### UDP -/

theorem along_sendDatagram (L : P.Line) (address : List Value) (datagram : Bytes) :
    Along P (UdpSender.sendDatagram address datagram) := by
  refine along_bind ?_ fun isOpen => ?_
  · refine along_get_bind fun w => ?_
    split <;> exact P.refl w
  · split
    · exact L.along_outward _
    · exact along_fault _

theorem along_sendEach (L : P.Line) (address : List Value) (datagrams : List Bytes) :
    Along P (UdpSender.sendEach address datagrams) := by
  induction datagrams with
  | nil => exact along_pure _
  | cons d rest ih => exact along_bind (L.along_sendDatagram address d) fun _ => ih

theorem along_udpTransmit (L : P.Line) (hh : ∀ e, Along P (h e)) (s : UdpSender) (payload : Bytes) :
    Along P (s.transmit h payload) := by
  refine along_get_bind fun w => ?_
  split
  · exact along_bind (L.along_sendEach _ _) (fun _ => along_pure _) w
  · split
    · exact along_bind (L.along_logLine hh _ _ _) (fun _ => along_pure _) w
    · exact P.refl w

theorem along_udpSend (L : P.Line) (hh : ∀ e, Along P (h e)) (s : UdpSender) (m : Message) :
    Along P (s.send h m) := by
  unfold UdpSender.send
  split
  · exact along_pure _
  · refine along_bind (along_words hh _) fun text => ?_
    exact along_bind (along_note fun w => L.encoded w text) fun _ => L.along_udpTransmit hh s _

/-! ### Any sender -/

theorem along_handOver (L : P.Line) (hh : ∀ e, Along P (h e)) (m : Message) :
    Along P (Sender.handOver h m) := by
  refine along_bind (along_words hh _) fun text => ?_
  refine along_bind (along_attempt (L.along_outward _)) fun outcome => ?_
  refine along_get_bind fun w => ?_
  dsimp only
  split
  · exact along_bind (hh _) (fun _ => along_ofExcept _) w
  · exact along_ofExcept _ w

theorem along_send (L : P.Line) (hh : ∀ e, Along P (h e)) (m : Message) :
    Along P (Sender.send h m) := by
  refine along_get_bind fun w => ?_
  split
  · exact L.along_udpSend hh _ _ w
  · exact L.along_tcpSend hh _ _ w
  · exact L.along_handOver hh _ w
  · exact P.refl w
  · exact P.refl w

end Passage.Line

namespace Passage.Wire

open Act

variable {P : Passage} {h : Hooks}

theorem along_tcpMake (W : P.Wire) {host port : Value}
    (hl : Along P (logLine h .tcp TcpSender.connectedLine [host, port])) (timeout : Value) :
    Along P (TcpSender.make h host port timeout) :=
  along_bind (along_modify fun w => W.sender w _ fun _ => rfl) fun _ => W.along_connect hl _

theorem along_udpMake (W : P.Wire) {host port : Value}
    (hl : Along P (logLine h .udp UdpSender.targetLine [host, port]))
    (chunkSize wantsCompression : Value) :
    Along P (UdpSender.make h host port chunkSize wantsCompression) := by
  refine along_bind (along_ofExcept _) fun bad => ?_
  dsimp only
  split
  · exact along_fault_bind _ _
  · refine along_bind (W.along_outward _) fun found => ?_
    split
    · exact along_fault _
    · refine along_bind (W.along_outward _) fun _ => ?_
      refine along_bind (along_modify fun w => W.sender w _ fun _ => rfl) fun _ => ?_
      exact along_bind (along_note W.connected) fun _ => hl

/-- It is only for the log lines that opening a sender may run errands. -/
theorem along_openFor (W : P.Wire) {port : Value}
    (ht : ∀ name : String, Along P (logLine h .tcp TcpSender.connectedLine [.str name, port]))
    (hu : ∀ name : String, Along P (logLine h .udp UdpSender.targetLine [.str name, port]))
    (host timeout : Value) : Along P (Sender.openFor h host port timeout) := by
  unfold Sender.openFor
  split
  · split
    · exact W.along_tcpMake (ht _) _
    · exact W.along_udpMake (hu _) _ _
    · exact W.along_udpMake (hu _) _ _
  · exact along_fault _
  · exact along_fault _

theorem along_callFactory (W : P.Wire) (hc : ∀ w c, P.rel w { w with context := c })
    {factory : Importable} (hf : Along P (words h (Catalog.call factory))) :
    Along P (Handler.callFactory h factory) := by
  refine along_bind hf fun made => ?_
  split
  · refine along_bind (W.along_outward _) fun _ => ?_
    exact along_bind (along_modify fun w => W.sender w _ fun _ => rfl) fun _ => along_pure _
  · exact along_bind (along_modify fun w => W.sender w _ fun _ => rfl) fun _ => along_pure _
  · exact along_bind (along_modify fun w => hc w _) fun _ => along_pure _
  · exact along_pure _

end Passage.Wire

namespace Passage.Loose

open Act

variable {P : Passage} {h : Hooks}

theorem along_openByFactory (L : P.Loose) (hh : ∀ e, Along P (h e)) (factory : Importable) :
    Along P (Handler.openByFactory h factory) := by
  refine along_bind (along_note L.opening) fun _ => ?_
  refine along_bind (along_attempt (L.toWire.along_callFactory L.context (along_words hh _))) fun made => ?_
  split
  · exact along_bind (along_modify fun w => L.ready w _) fun _ => along_pure _
  · exact along_bind (along_modify fun w => L.ready w _) fun _ => along_pure _
  · split
    · exact along_bind (L.along_report hh rfl) fun _ => along_pure _
    · exact along_fault _

theorem along_openByHost (L : P.Loose) (hh : ∀ e, Along P (h e)) (host port timeout : Value) :
    Along P (Handler.openByHost h host port timeout) := by
  refine along_bind (along_note L.opening) fun _ => ?_
  have ho := L.toWire.along_openFor (fun name => L.toWire.along_logLine hh _ _ [.str name, port])
    (fun name => L.toWire.along_logLine hh _ _ [.str name, port]) host timeout
  refine along_bind (along_attempt ho) fun made => ?_
  split
  · exact along_bind (along_modify fun w => L.ready w _) fun _ => along_pure _
  · rename_i f
    refine along_during_words_bind hh (openingReport_yields host port f) (fun found hf => ?_)
    split
    · exact along_bind (L.along_report hh (hf _ rfl)) fun _ => along_pure _
    · exact along_fault _

theorem along_ensureSender (L : P.Loose) (hh : ∀ e, Along P (h e)) :
    Along P (Handler.ensureSender h) := by
  refine along_get_bind fun w => ?_
  dsimp only
  split
  · exact P.refl w
  · split
    · exact L.along_openByFactory hh _ w
    · split
      · exact L.along_openByHost hh _ _ _ w
      · exact P.refl w

end Passage.Loose

end Gelf
