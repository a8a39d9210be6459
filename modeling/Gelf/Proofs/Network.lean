import Gelf.Proofs.Errands
import Gelf.Proofs.Percent

/-!
# Gelf.Proofs.Network

What senders do on the network, and what becomes of their sockets.

* `Event.isNetwork`: an event that needs the network. `World.connections`, `World.closes`: the
  sockets that were opened so far, and the attempts to close one.
* `Linked`: how a sender at work changes a world. Each socket is open, or was closed once.
* `Transmitted`: what a sender does that has the text of a message. `tcp_transmitted`,
  `udp_transmitted`: that is what either transport does.
* `senderClose_balance`, `openFor_dialled`: the end and the beginning of a sender.
-/

namespace Gelf

open Act

def Event.isNetwork : Event → Bool
  | .resolve _ _ => true
  | .socket _ => true
  | .connect _ _ _ => true
  | .sendTo _ _ => true
  | .sendAll _ => true
  | _ => false

def Event.isClose : Event → Bool
  | .close => true
  | _ => false

def Deed.isConnected : Deed → Bool
  | .connected => true
  | _ => false

namespace Sender

def sockets : Sender → Nat
  | .udp s => s.isOpen.toNat
  | .tcp s => s.isOpen.toNat
  | _ => 0

/-- All that stays the same in a sender. -/
def settled : Sender → Sender
  | .udp s => .udp { s with isOpen := false }
  | .tcp s => .tcp { s with isClosed := false, isOpen := false }
  | s => s

end Sender

namespace World

def connections (w : World) : Nat := w.history.countP Deed.isConnected

def closes (w : World) : Nat := w.outside.events.countP Event.isClose

def sockets (w : World) : Nat := (w.sender.map Sender.sockets).getD 0

/-- What stays the same in the sender, if there is one. -/
def settled (w : World) : Option Sender := w.sender.map Sender.settled

end World

/-- The host is a name and the port a number, one that can be written out. -/
def Plain (host port : Value) : Prop :=
  ∃ name n, host = .str name ∧ port = .int n ∧ n.natAbs < intLimit

/-- A sender has been at work: the handler is as it was, and the sockets that were opened meanwhile
are open or were closed. -/
structure Linked (w w' : World) : Prop where
  handler : w'.handler = w.handler
  history : ∃ k, w'.history = w.history ++ List.replicate k .connected
  events : w.outside.events <+: w'.outside.events
  messageId : w'.outside.messageId = w.outside.messageId
  settled : w'.settled = w.settled
  balance : w'.closes + w'.sockets + w.connections = w.closes + w.sockets + w'.connections

/-- The next event was one that needs the network. -/
def Talked (w w' : World) : Prop :=
  ∃ e rest, e.isNetwork = true ∧ w'.outside.events = w.outside.events ++ e :: rest

namespace Linked

variable {w w₁ w₂ w₃ : World}

theorem refl (w : World) : Linked w w :=
  ⟨rfl, ⟨0, (List.append_nil _).symm⟩, List.prefix_refl _, rfl, rfl, rfl⟩

theorem trans (h₁ : Linked w₁ w₂) (h₂ : Linked w₂ w₃) : Linked w₁ w₃ where
  handler := h₂.handler.trans h₁.handler
  history := by
    obtain ⟨j, hj⟩ := h₁.history
    obtain ⟨k, hk⟩ := h₂.history
    exact ⟨j + k, by rw [hk, hj, List.append_assoc, List.replicate_append_replicate]⟩
  events := h₁.events.trans h₂.events
  messageId := h₂.messageId.trans h₁.messageId
  settled := h₂.settled.trans h₁.settled
  balance := by
    have b₁ := h₁.balance
    have b₂ := h₂.balance
    omega

theorem event {o : Outside} {e : Event} (ho : o.events = w.outside.events ++ [e])
    (hi : o.messageId = w.outside.messageId) (he : e.isClose = false) :
    Linked w { w with outside := o } := by
  refine ⟨rfl, ⟨0, (List.append_nil _).symm⟩, ⟨[e], ho.symm⟩, hi, rfl, ?_⟩
  simp [World.closes, World.connections, World.sockets, ho, he]

theorem logged (w : World) (line : LogLine) : Linked w (w.logged line) :=
  ⟨rfl, ⟨0, (List.append_nil _).symm⟩, List.prefix_refl _, rfl, rfl, rfl⟩

end Linked

theorem Talked.linked {w w₁ w₂ : World} (ht : Talked w w₁) (hl : Linked w₁ w₂) : Talked w w₂ := by
  obtain ⟨e, rest, he, h⟩ := ht
  obtain ⟨more, hm⟩ := hl.events
  exact ⟨e, rest ++ more, he, by rw [← hm, h, List.append_assoc, List.cons_append]⟩

variable {h : Hooks} {w : World} {host port : Value}

theorem perform_logLine_plain {text : String} {p q : List Char}
    (ht : text.toList = p ++ '%' :: 's' :: ':' :: '%' :: 's' :: q) (hp : '%' ∉ p) (hq : '%' ∉ q)
    (hv : Plain host port) (source : LogSource) (w : World) :
    ∃ line, (logLine h source text [host, port]).perform w = (.ok (), w.logged line) := by
  obtain ⟨name, n, rfl, rfl, hn⟩ := hv
  rw [perform_logLine_pair ht hp hq, intText, if_pos hn]
  exact ⟨_, rfl⟩

/-! ## TCP -/

theorem connectedLine_plain (hv : Plain host port) (w : World) : ∃ line,
    (logLine h .tcp TcpSender.connectedLine [host, port]).perform w = (.ok (), w.logged line) :=
  perform_logLine_plain (p := "GELF TCP sender connected to ".toList) (q := []) (by decide)
    (by decide) (by decide) hv _ _

theorem failedLine_plain (hv : Plain host port) (w : World) : ∃ line,
    (logLine h .tcp TcpSender.failedLine [host, port]).perform w = (.ok (), w.logged line) :=
  perform_logLine_plain (p := "GELF TCP send to ".toList) (q := " failed".toList) (by decide)
    (by decide) (by decide) hv _ _

theorem connect_linked {s : TcpSender} (hs : w.sender = some (.tcp s)) (ho : s.isOpen = false)
    (hv : Plain host port) (timeout : Value) {x : Except Fault Unit} {w' : World}
    (hr : (TcpSender.connect h host port timeout).perform w = (x, w')) :
    Linked w w' ∧ Talked w w' ∧ ∀ f, x = .error f → w'.sockets = 0 := by
  have he : Linked w { w with outside := (Outside.connect host port timeout w.outside).2 } :=
    .event (e := .connect host port timeout) rfl rfl rfl
  have ht : Talked w { w with outside := (Outside.connect host port timeout w.outside).2 } :=
    ⟨.connect host port timeout, [], rfl, rfl⟩
  unfold TcpSender.connect at hr
  rw [perform_outward_bind] at hr
  split at hr
  · rw [TcpSender.modifyState, perform_modify_bind, perform_note_bind] at hr
    obtain ⟨line, hl⟩ := connectedLine_plain (h := h) hv _
    rw [hl] at hr
    cases hr
    have hc : Linked { w with outside := (Outside.connect host port timeout w.outside).2 }
        ({ w with
          outside := (Outside.connect host port timeout w.outside).2
          sender := some (.tcp { s with isOpen := true }) }.noted .connected) := by
      refine ⟨rfl, ⟨1, rfl⟩, List.prefix_refl _, rfl, ?_, ?_⟩
      · simp [World.settled, World.noted, hs, Sender.settled]
      · simp [World.closes, World.connections, World.sockets, World.noted, hs, Sender.sockets, ho,
          Deed.isConnected]
        omega
    rw [hs]
    refine ⟨he.trans (hc.trans (.logged _ _)), ht.linked (hc.trans (.logged _ _)), fun _ h => ?_⟩
    cases h
  · cases hr
    refine ⟨he, ht, fun _ _ => ?_⟩
    simp [World.sockets, hs, Sender.sockets, ho]

theorem perform_tcpOpenNow {s : TcpSender} (hs : w.sender = some (.tcp s)) :
    TcpSender.isOpenNow.perform w = (.ok s.isOpen, w) := by
  unfold TcpSender.isOpenNow
  rw [perform_get_bind, hs]
  rfl

theorem perform_drop {s : TcpSender} (hs : w.sender = some (.tcp s)) :
    TcpSender.drop.perform w =
      if s.isOpen = true then ((Outside.close w.outside).1, { w with
        outside := (Outside.close w.outside).2
        sender := some (.tcp { s with isOpen := false }) })
      else (.ok (), w) := by
  unfold TcpSender.drop
  rw [perform_bind, perform_tcpOpenNow hs]
  cases s.isOpen with
  | true =>
    dsimp only
    rw [if_pos rfl, if_pos rfl, perform_tidied, perform_outward]
    simp only [hs]
  | false => rfl

theorem drop_linked {s : TcpSender} (hs : w.sender = some (.tcp s)) :
    Linked w (TcpSender.drop.perform w).2 ∧
      (TcpSender.drop.perform w).2.closes = w.closes + w.sockets := by
  rw [perform_drop hs]
  cases ho : s.isOpen with
  | true =>
    rw [if_pos rfl]
    have he : (Outside.close w.outside).2.events = w.outside.events ++ [.close] := rfl
    have hb : ({ w with
        outside := (Outside.close w.outside).2
        sender := some (.tcp { s with isOpen := false }) } : World).closes =
          w.closes + w.sockets := by
      simp [World.closes, World.sockets, hs, Sender.sockets, ho, he, Event.isClose]
    refine ⟨⟨rfl, ⟨0, (List.append_nil _).symm⟩, ⟨[.close], he.symm⟩, rfl, ?_, ?_⟩, hb⟩
    · simp [World.settled, hs, Sender.settled]
    · rw [hb]
      rfl
  | false =>
    refine ⟨.refl w, ?_⟩
    simp [World.sockets, hs, Sender.sockets, ho]

theorem tcp_of_settled {w' : World} {s : TcpSender} (hs : w.sender = some (.tcp s))
    (h : w'.settled = w.settled) :
    ∃ c o, w'.sender = some (.tcp { s with isClosed := c, isOpen := o }) := by
  rw [World.settled, World.settled, hs] at h
  obtain ⟨x, hx, he⟩ := Option.map_eq_some_iff.mp h
  cases x with
  | tcp t =>
    obtain ⟨thost, tport, ttimeout, c, o⟩ := t
    cases he
    exact ⟨c, o, hx⟩
  | _ => cases he

theorem writeOut_linked {s t : TcpSender} (ht : w.sender = some (.tcp t)) (hv : Plain s.host s.port)
    (bytes : Bytes) :
    Linked w ((s.writeOut h bytes).perform w).2 ∧ Talked w ((s.writeOut h bytes).perform w).2 := by
  have hsend : ∀ w, Linked w ((outward (Outside.sendAll bytes)).perform w).2 := fun w =>
    .event (e := .sendAll bytes) rfl rfl rfl
  unfold TcpSender.writeOut
  rw [perform_bind, perform_tcpOpenNow ht]
  cases ho : t.isOpen with
  | true => exact ⟨hsend w, .sendAll bytes, [], rfl, rfl⟩
  | false =>
    dsimp only
    rw [Bool.not_false, if_pos rfl, perform_bind]
    cases hr : (TcpSender.connect h s.host s.port s.timeout).perform w with
    | mk x w₁ =>
      obtain ⟨hl, hn, -⟩ := connect_linked ht ho hv _ hr
      cases x with
      | error f => exact ⟨hl, hn⟩
      | ok _ => exact ⟨hl.trans (hsend w₁), hn.linked (hsend w₁)⟩

theorem giveUp_linked {s t : TcpSender} (ht : w.sender = some (.tcp t)) (hv : Plain s.host s.port) :
    Linked w ((s.giveUp h).perform w).2 := by
  unfold TcpSender.giveUp
  obtain ⟨line, hl⟩ := failedLine_plain (h := h) hv w
  rw [perform_bind, hl]
  exact (Linked.logged w line).trans (drop_linked (w := w.logged line) ht).1

theorem tcpTransmit_linked {s t : TcpSender} (ht : w.sender = some (.tcp t))
    (hv : Plain s.host s.port) (bytes : Bytes) :
    Linked w ((s.transmit h bytes).perform w).2 ∧ Talked w ((s.transmit h bytes).perform w).2 := by
  obtain ⟨hl, hn⟩ := writeOut_linked (h := h) ht hv bytes
  unfold TcpSender.transmit
  rw [perform_attempt_bind]
  split
  · exact ⟨hl, hn⟩
  · split
    · obtain ⟨c, o, ht'⟩ := tcp_of_settled ht hl.settled
      have hg := giveUp_linked (h := h) ht' hv
      rw [bind_pure_snd, during_snd]
      exact ⟨hl.trans hg, hn.linked hg⟩
    · exact ⟨hl, hn⟩

/-! ## UDP -/

theorem chunkCount_pos (length : Nat) (size : Int) : 0 < chunkCount length size := by
  unfold chunkCount
  split <;> omega

theorem split_ne_nil {payload id : Bytes} {size : Int} {ds : List Bytes}
    (hd : split payload size id = .ok ds) : ds ≠ [] := by
  have hc := chunkCount_pos payload.length size
  unfold split chunks at hd
  split at hd
  · cases hd
  · split at hd
    · cases hd
    · dsimp only at hd
      split at hd
      · cases hd
      · cases hd
        simp only [ne_eq, List.map_eq_nil_iff, List.range_eq_nil]
        omega

theorem udp_of_settled {w' : World} {s : UdpSender} (hs : w.sender = some (.udp s))
    (h : w'.settled = w.settled) : ∃ o, w'.sender = some (.udp { s with isOpen := o }) := by
  rw [World.settled, World.settled, hs] at h
  obtain ⟨x, hx, he⟩ := Option.map_eq_some_iff.mp h
  cases x with
  | udp t =>
    obtain ⟨thost, tport, tsize, tcompress, taddress, o⟩ := t
    cases he
    exact ⟨o, hx⟩
  | _ => cases he

theorem datagrams_ne_nil {s : UdpSender} {id payload : Bytes} {ds : List Bytes}
    (hd : s.datagrams id payload = .ok ds) : ds ≠ [] := by
  unfold UdpSender.datagrams at hd
  split at hd
  · cases hd
  · cases hd
    exact List.cons_ne_nil _ _
  · unfold UdpSender.cut at hd
    split at hd
    · exact split_ne_nil hd
    · split at hd
      · cases hd
      · split at hd
        · cases hd
        · split at hd <;> cases hd
    · cases hd

theorem perform_udpOpenNow {s : UdpSender} (hs : w.sender = some (.udp s)) :
    UdpSender.isOpenNow.perform w = (.ok s.isOpen, w) := by
  unfold UdpSender.isOpenNow
  rw [perform_get_bind, hs]
  rfl

theorem perform_sendDatagram {s : UdpSender} (hs : w.sender = some (.udp s))
    (address : List Value) (d : Bytes) : (UdpSender.sendDatagram address d).perform w =
      if s.isOpen = true then (outward (Outside.sendTo d address)).perform w
      else (.error (Defect.noAttribute "NoneType" "sendto").toFault, w) := by
  unfold UdpSender.sendDatagram
  rw [perform_bind, perform_udpOpenNow hs]
  cases s.isOpen <;> rfl

theorem sendEach_linked {s : UdpSender} (hs : w.sender = some (.udp s)) (address : List Value)
    (ds : List Bytes) : Linked w ((UdpSender.sendEach address ds).perform w).2 ∧
      ((UdpSender.sendEach address ds).perform w).2.sender = w.sender := by
  induction ds generalizing w with
  | nil => exact ⟨.refl w, rfl⟩
  | cons d rest ih =>
    have he : Linked w { w with outside := (Outside.sendTo d address w.outside).2 } :=
      .event (e := .sendTo d address) rfl rfl rfl
    unfold UdpSender.sendEach
    rw [perform_bind, perform_sendDatagram hs]
    by_cases ho : s.isOpen = true
    · rw [if_pos ho, perform_outward]
      cases (Outside.sendTo d address w.outside).1 with
      | ok _ =>
        obtain ⟨hl, hs'⟩ := ih (w := { w with outside := (Outside.sendTo d address w.outside).2 }) hs
        exact ⟨he.trans hl, hs'⟩
      | error f => exact ⟨he, rfl⟩
    · rw [if_neg ho]
      exact ⟨.refl w, rfl⟩

theorem sendEach_cons {s : UdpSender} (hs : w.sender = some (.udp s)) (address : List Value)
    (d : Bytes) (rest : List Bytes) : if s.isOpen = true
      then Talked w ((UdpSender.sendEach address (d :: rest)).perform w).2
      else ((UdpSender.sendEach address (d :: rest)).perform w).2 = w := by
  have ht : Talked w { w with outside := (Outside.sendTo d address w.outside).2 } :=
    ⟨.sendTo d address, [], rfl, rfl⟩
  unfold UdpSender.sendEach
  rw [perform_bind, perform_sendDatagram hs]
  by_cases ho : s.isOpen = true
  · rw [if_pos ho, if_pos ho, perform_outward]
    cases (Outside.sendTo d address w.outside).1 with
    | ok _ =>
      exact ht.linked
        (sendEach_linked (w := { w with outside := (Outside.sendTo d address w.outside).2 }) hs _ _).1
    | error f => exact ht
  · rw [if_neg ho, if_neg ho]

theorem oversizedLine_number (n : Nat) (w : World) :
    (logLine h .udp UdpSender.oversizedLine [.int n]).perform w = match intText n with
      | .ok t => (.ok (), w.logged ⟨.udp, String.ofList ("Dropping oversized GELF message (".toList ++
          (t.toList ++ " bytes)".toList))⟩)
      | .error f => (.error f, w) := by
  have ht : UdpSender.oversizedLine.toList = "Dropping oversized GELF message (".toList ++
      '%' :: 'd' :: " bytes)".toList := by decide
  refine (perform_logLine_number ht (by decide) (by decide) _ _ _).trans ?_
  generalize intText n = x
  cases x <;> rfl

/-! ## Either transport -/

/-- Would the sender, as it is, write the text out? A TCP sender that has no connection would
connect. -/
def Sender.Writes (id : Bytes) (text : String) : Sender → Prop
  | .udp s => s.isOpen = true ∧
    ∃ ds, s.datagrams id (UdpSender.payloadOf s.wantsCompression text) = .ok ds
  | .tcp _ => True
  | _ => False

def World.Writes (w : World) (text : String) : Prop :=
  ∃ s, w.sender = some s ∧ s.Writes w.outside.messageId text

/-- A sender has done with a text what it could: the network was used just if the sender would write
the text out. -/
structure Transmitted (text : String) (w w' : World) : Prop extends Linked w w' where
  writes : ∀ other, w'.Writes other ↔ w.Writes other
  talked : w.Writes text → Talked w w'
  silent : ¬ w.Writes text → w'.outside.events = w.outside.events ∧ w'.history = w.history

theorem writes_tcp {s : TcpSender} (hs : w.sender = some (.tcp s)) (text : String) :
    w.Writes text := ⟨_, hs, trivial⟩

theorem tcp_transmitted {s t : TcpSender} (ht : w.sender = some (.tcp t))
    (hv : Plain s.host s.port) (bytes : Bytes) (text : String) :
    Transmitted text w ((s.transmit h bytes).perform w).2 := by
  obtain ⟨hl, hn⟩ := tcpTransmit_linked (h := h) ht hv bytes
  obtain ⟨c, o, ht'⟩ := tcp_of_settled ht hl.settled
  exact ⟨hl, fun _ => ⟨fun _ => writes_tcp ht _, fun _ => writes_tcp ht' _⟩, fun _ => hn,
    fun hw => absurd (writes_tcp ht text) hw⟩

theorem writes_udp {s : UdpSender} (hs : w.sender = some (.udp s)) (text : String) :
    w.Writes text ↔ s.isOpen = true ∧ ∃ ds, s.datagrams w.outside.messageId
      (UdpSender.payloadOf s.wantsCompression text) = .ok ds := by
  constructor
  · rintro ⟨x, hx, hw⟩
    rw [hs] at hx
    cases hx
    exact hw
  · intro hw
    exact ⟨_, hs, hw⟩

theorem writes_same {w' : World} (hs : w'.sender = w.sender)
    (hi : w'.outside.messageId = w.outside.messageId) (text : String) :
    w'.Writes text ↔ w.Writes text := by
  rw [World.Writes, World.Writes, hs, hi]

theorem udp_transmitted {s : UdpSender} {o : Bool}
    (hs : w.sender = some (.udp { s with isOpen := o })) (text : String) :
    Transmitted text w
      ((s.transmit h (UdpSender.payloadOf s.wantsCompression text)).perform w).2 := by
  have hw := writes_udp hs text
  unfold UdpSender.transmit
  rw [perform_get_bind]
  split
  · rename_i ds hd
    rw [bind_pure_snd]
    obtain ⟨hl, hsame⟩ := sendEach_linked hs s.address ds
    cases ds with
    | nil => exact absurd rfl (datagrams_ne_nil hd)
    | cons d rest =>
      have hc := sendEach_cons hs s.address d rest
      refine ⟨hl, writes_same hsame hl.messageId, fun hy => ?_, fun hy => ?_⟩
      · rwa [if_pos (hw.mp hy).1] at hc
      · rw [if_neg fun ho => hy (hw.mpr ⟨ho, _, hd⟩)] at hc
        rw [hc]
        exact ⟨rfl, rfl⟩
  · rename_i f hd
    have hno : ¬ w.Writes text := by
      intro hy
      obtain ⟨-, ds, hds⟩ := hw.mp hy
      have : s.datagrams w.outside.messageId (UdpSender.payloadOf s.wantsCompression text) =
        .ok ds := hds
      rw [hd] at this
      cases this
    have hsame : Transmitted text w w := ⟨.refl w, fun _ => Iff.rfl, fun hy => absurd hy hno,
      fun _ => ⟨rfl, rfl⟩⟩
    split
    · rw [bind_pure_snd]
      rw [oversizedLine_number]
      cases intText (UdpSender.payloadOf s.wantsCompression text).length with
      | ok t =>
        exact ⟨.logged w _, fun _ => Iff.rfl, fun hy => absurd hy hno, fun _ => ⟨rfl, rfl⟩⟩
      | error f => exact hsame
    · exact hsame

/-- A sender over UDP or TCP, to a host and port that can be written out. -/
def Sender.Networked : Sender → Prop
  | .udp _ => True
  | .tcp s => Plain s.host s.port
  | _ => False

def World.Networked (w : World) : Prop := ∃ s, w.sender = some s ∧ s.Networked

theorem networked_of_settled {w' : World} (h : w'.settled = w.settled) (hn : w.Networked) :
    w'.Networked := by
  obtain ⟨s, hs, hn⟩ := hn
  cases s with
  | udp s =>
    obtain ⟨o, ho⟩ := udp_of_settled hs h
    exact ⟨_, ho, trivial⟩
  | tcp s =>
    obtain ⟨c, o, ho⟩ := tcp_of_settled hs h
    exact ⟨_, ho, hn⟩
  | _ => cases hn

/-- A sender that is told to close tries to close its socket, if it has one. -/
theorem senderClose_balance (hn : w.Networked) :
    (Sender.close.perform w).2.closes = w.closes + w.sockets ∧
      (Sender.close.perform w).2.settled = w.settled := by
  obtain ⟨s, hs, hn⟩ := hn
  unfold Sender.close
  rw [perform_get_bind, hs]
  cases s with
  | udp s =>
    dsimp only
    unfold UdpSender.close
    cases ho : s.isOpen with
    | false =>
      refine ⟨?_, rfl⟩
      simp [World.sockets, hs, Sender.sockets, ho, perform_pure]
    | true =>
      have he : (Outside.close w.outside).2.events = w.outside.events ++ [.close] := rfl
      rw [if_pos rfl, perform_bind, perform_outward]
      cases (Outside.close w.outside).1 with
      | error f =>
        refine ⟨?_, rfl⟩
        simp [World.closes, World.sockets, hs, Sender.sockets, ho, he, Event.isClose]
      | ok _ =>
        dsimp only
        rw [UdpSender.setOpen, perform_modify, hs]
        constructor
        · simp [World.closes, World.sockets, hs, Sender.sockets, ho, he, Event.isClose]
        · simp [World.settled, hs, Sender.settled]
  | tcp s =>
    dsimp only
    unfold TcpSender.close
    rw [TcpSender.modifyState, perform_modify_bind, hs]
    have hd := drop_linked (w := { w with sender := some (.tcp { s with isClosed := true }) }) rfl
    obtain ⟨hl, hb⟩ := hd
    constructor
    · rw [hb]
      simp [World.closes, World.sockets, hs, Sender.sockets]
    · rw [hl.settled]
      simp [World.settled, hs, Sender.settled]
  | _ => cases hn

/-! ## Getting a sender -/

/-- A sender was asked for: if it was opened, it has all sockets that were opened meanwhile and not
closed, else there are none of these. -/
structure Dialled (w : World) (x : Except Fault Unit) (w' : World) : Prop where
  handler : w'.handler = w.handler
  history : ∃ k, w'.history = w.history ++ List.replicate k .connected
  opened : x = .ok () →
    w'.Networked ∧ w'.closes + w'.sockets + w.connections = w.closes + w'.connections
  failed : ∀ f, x = .error f → w'.closes + w.connections = w.closes + w'.connections

theorem Dialled.of_linked {w' : World} {f : Fault} (hl : Linked w w')
    (hs : w'.sockets = w.sockets) : Dialled w (.error f) w' := by
  have hb := hl.balance
  refine ⟨hl.handler, hl.history, fun h => ?_, fun _ _ => ?_⟩
  · cases h
  · omega

theorem tcpMake_dialled (hv : Plain host port) (timeout : Value) {x : Except Fault Unit}
    {w' : World} (hr : (TcpSender.make h host port timeout).perform w = (x, w')) :
    Dialled w x w' := by
  unfold TcpSender.make at hr
  rw [perform_modify_bind] at hr
  obtain ⟨hl, -, hf⟩ := connect_linked rfl rfl hv timeout hr
  have hb := hl.balance
  refine ⟨hl.handler, hl.history, fun _ => ⟨?_, ?_⟩, fun f hx => ?_⟩
  · exact networked_of_settled hl.settled ⟨_, rfl, hv⟩
  · exact hb
  · rw [hf f hx] at hb
    exact hb

theorem targetLine_plain (hv : Plain host port) (w : World) : ∃ line,
    (logLine h .udp UdpSender.targetLine [host, port]).perform w = (.ok (), w.logged line) :=
  perform_logLine_plain (p := "GELF UDP sender targeting ".toList) (q := []) (by decide)
    (by decide) (by decide) hv _ _

theorem udpSocket_dialled {family : String} {s : UdpSender} {w₁ w' : World}
    {x : Except Fault Unit} (hv : Plain host port) (hl : Linked w w₁) (hs : w₁.sockets = w.sockets)
    (ho : s.isOpen = true) (hr : Act.perform (do
      Act.outward (Outside.socket family)
      modify fun w => { w with sender := some (.udp s) }
      Act.note .connected
      logLine h .udp UdpSender.targetLine [host, port]) w₁ = (x, w')) : Dialled w x w' := by
  have h₂ : Linked w₁ { w₁ with outside := (Outside.socket family w₁.outside).2 } :=
    .event (e := .socket family) rfl rfl rfl
  rw [perform_outward_bind] at hr
  split at hr
  · rw [perform_modify_bind, perform_note_bind] at hr
    obtain ⟨line, hlog⟩ := targetLine_plain (h := h) hv _
    rw [hlog] at hr
    cases hr
    have hb := (hl.trans h₂).balance
    obtain ⟨k, hk⟩ := hl.history
    refine ⟨hl.handler, ⟨k + 1, ?_⟩, fun _ => ⟨⟨_, rfl, trivial⟩, ?_⟩, fun _ h => ?_⟩
    · simp [World.noted, World.logged, hk, List.replicate_succ']
    · simp [World.closes, World.connections, World.sockets, World.noted, World.logged,
        Sender.sockets, Deed.isConnected, ho] at hb hs ⊢
      omega
    · cases h
  · cases hr
    exact .of_linked (hl.trans h₂) hs

theorem udpMake_dialled (hv : Plain host port) (chunkSize wantsCompression : Value)
    {x : Except Fault Unit} {w' : World}
    (hr : (UdpSender.make h host port chunkSize wantsCompression).perform w = (x, w')) :
    Dialled w x w' := by
  have h₁ : Linked w { w with outside := (Outside.resolve host port w.outside).2 } :=
    .event (e := .resolve host port) rfl rfl rfl
  unfold UdpSender.make at hr
  rw [perform_ofExcept_bind] at hr
  split at hr
  · rename_i bad _
    cases bad with
    | true =>
      cases hr
      exact .of_linked (.refl w) rfl
    | false =>
      dsimp only at hr
      rw [if_neg Bool.false_ne_true, perform_outward_bind] at hr
      split at hr
      · rename_i found _
        cases found with
        | nil =>
          cases hr
          exact .of_linked h₁ rfl
        | cons a rest => exact udpSocket_dialled hv h₁ rfl rfl hr
      · cases hr
        exact .of_linked h₁ rfl
  · cases hr
    exact .of_linked (.refl w) rfl

/-- What the host's name says decides over which transport the sender is opened. -/
theorem openFor_dialled (hv : Plain host port) (timeout : Value) {x : Except Fault Unit}
    {w' : World} (hr : (Sender.openFor h host port timeout).perform w = (x, w')) :
    Dialled w x w' := by
  obtain ⟨name, n, rfl, rfl, hn⟩ := hv
  unfold Sender.openFor at hr
  dsimp only at hr
  split at hr
  · exact tcpMake_dialled ⟨_, n, rfl, rfl, hn⟩ _ hr
  · exact udpMake_dialled ⟨_, n, rfl, rfl, hn⟩ _ _ hr
  · exact udpMake_dialled ⟨_, n, rfl, rfl, hn⟩ _ _ hr

end Gelf
