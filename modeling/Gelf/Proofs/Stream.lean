import Gelf.Proofs.Ascii
import Gelf.Proofs.Network
import Gelf.Proofs.Strict
import Mathlib.Data.List.Forall2

/-!
# Gelf.Proofs.Stream

What a collector reads on the connections of a TCP sender.

* `encoded_printable`: what a message is sent as is printable ASCII, and so fills one frame.
* `Attempt`, `World.attempts`: each connect and each write between two worlds, and how it went.
* `groups`: a row cut at its marks, as a row of writes is cut where a connection begins.
* `Exchange`: what one call can come to. `visit_exchange`: nothing else happens.
* `streams_carry`: by induction on the calls, each connection carries what was sent on it.
* `stream_integrity`: so a collector that cuts each stream at the null bytes has every message that
  was reported as sent, once and in order.
-/

namespace Gelf

open Act

/-! ## Frames -/

/-- The bytes of a message, where nothing is in the way of encoding it. -/
def Message.bytes (m : Message) : Except Fault Bytes := m.encode.quiet.map fun t => t.toUTF8.toList

theorem ascii_no_delimiter {text : String} (h : AsciiText text.toList) :
    TcpSender.delimiter ∉ text.toUTF8.toList := by
  intro hmem
  exact absurd (ascii_bytes h hmem).1 (by decide)

theorem delimiter_not_mem {m : Message} {h : Hooks} {w w' : World} {text : String}
    (hr : (words h m.encode).perform w = (.ok text, w')) :
    TcpSender.delimiter ∉ text.toUTF8.toList :=
  ascii_no_delimiter (m.encode.run_yields (ascii_encode m) hr)

theorem splitOn_frame {a : UInt8} {frame : Bytes} (h : a ∉ frame) (rest : Bytes) :
    (frame ++ [a] ++ rest).splitOn a = frame :: rest.splitOn a := by
  rw [List.append_assoc, List.singleton_append, List.splitOn_append_cons_self_of_not_mem h]

/-- Whatever a message holds, and whatever happens while it is asked for the texts of its values:
where it can be encoded, each character is one byte of printable ASCII. No such byte ends a frame, so
what is sent after the message is not taken for a part of it, nor a part of it for what is sent
after. -/
theorem encoded_printable {σ : Type} {answer : (q : Request) → σ → Except Fault q.Answer × σ}
    {w w' : σ} (m : Message) {text : String} (h : m.encode.run answer w = (.ok text, w')) :
    (∀ b ∈ text.toUTF8.toList, 0x20 ≤ b.toNat ∧ b.toNat ≤ 0x7e) ∧
    text.toUTF8.toList = text.toList.map (fun c => c.val.toUInt8) ∧
    TcpSender.delimiter ∉ text.toUTF8.toList ∧
    ∀ rest, (text.toUTF8.toList ++ [TcpSender.delimiter] ++ rest).splitOn TcpSender.delimiter =
      text.toUTF8.toList :: rest.splitOn TcpSender.delimiter := by
  have hascii : AsciiText text.toList := m.encode.run_yields (ascii_encode m) h
  have hnull := ascii_no_delimiter hascii
  exact ⟨fun b hb => ascii_bytes hascii hb, ascii_toUTF8 hascii, hnull, splitOn_frame hnull⟩

/-- Characters that have to be escaped, numbers that JSON has no form for, bytes, and keys that are no
texts. -/
def Message.motley : Message :=
  ⟨.str "\x00\x7f é😀\"", .list [.float (0.0 / 0.0), .bytes [0, 255], .tuple [.bool true, .null]],
    .int 1500, .float (-(1.0 / 0.0)), .null, .null,
    .dict [(.str "id", .dict [(.int 7, .str "\n")]), (.tuple [.str "\t"], .int (-3))]⟩

theorem encoded_printable_motley : ∃ text,
    Message.motley.encode.run (fun q (_ : Unit) => (Script.quietAnswer q, ())) () =
      (.ok text, ()) ∧
    (∀ b ∈ text.toUTF8.toList, 0x20 ≤ b.toNat ∧ b.toNat ≤ 0x7e) ∧
    TcpSender.delimiter ∉ text.toUTF8.toList := by
  have hok : (Message.motley.encode.run (fun q (_ : Unit) => (Script.quietAnswer q, ())) ()).1.isOk =
      true := by decide +kernel
  cases hr : Message.motley.encode.run (fun q (_ : Unit) => (Script.quietAnswer q, ())) () with
  | mk x u =>
    rw [hr] at hok
    cases x with
    | error f => cases hok
    | ok text =>
      obtain ⟨hbytes, -, hnull, -⟩ := encoded_printable Message.motley hr
      exact ⟨text, rfl, hbytes, hnull⟩

/-! ## Attempts -/

/-- Something that was tried on the network, and whether it succeeded. -/
inductive Attempt where
  | connect (ok : Bool)
  | write (bytes : Bytes) (ok : Bool)
  deriving DecidableEq

/-- The attempts among events, with the outcomes that were laid down for them. -/
def attempts : List Event → List (Except Fault Unit) → List (Except Fault Unit) → List Attempt
  | [], _, _ => []
  | .connect _ _ _ :: es, connects, sendAlls =>
    .connect (Outside.next connects ()).1.isOk :: attempts es (Outside.next connects ()).2 sendAlls
  | .sendAll bytes :: es, connects, sendAlls =>
    .write bytes (Outside.next sendAlls ()).1.isOk ::
      attempts es connects (Outside.next sendAlls ()).2
  | _ :: es, connects, sendAlls => attempts es connects sendAlls

namespace World

/-- What was tried between this world and a later one. -/
def attempts (w w' : World) : List Attempt :=
  Gelf.attempts (w'.outside.events.drop w.outside.events.length) w.outside.connects
    w.outside.sendAlls

/-- Is there a TCP connection? -/
def online (w : World) : Bool :=
  match w.sender with
  | some (.tcp s) => s.isOpen
  | _ => false

/-- Writes that fail do so for reasons of the network. -/
def FailsByNetwork (w : World) : Prop :=
  ∀ f, .error f ∈ w.outside.sendAlls → f.isA "OSError" = true

end World

/-- The sender has tried so much meanwhile, and is the same as before. -/
structure Attempted (tried : List Attempt) (w w' : World) : Prop where
  events : ∃ es, w'.outside.events = w.outside.events ++ es ∧ ∀ more,
    attempts (es ++ more) w.outside.connects w.outside.sendAlls =
      tried ++ attempts more w'.outside.connects w'.outside.sendAlls
  sendAlls : w'.outside.sendAlls <:+ w.outside.sendAlls
  settled : w'.settled = w.settled

namespace Attempted

variable {w w₁ w₂ w₃ : World} {as bs : List Attempt}

theorem refl (w : World) : Attempted [] w w :=
  ⟨⟨[], (List.append_nil _).symm, fun _ => rfl⟩, List.suffix_refl _, rfl⟩

theorem trans (h₁ : Attempted as w₁ w₂) (h₂ : Attempted bs w₂ w₃) :
    Attempted (as ++ bs) w₁ w₃ where
  events := by
    obtain ⟨es₁, he₁, ha₁⟩ := h₁.events
    obtain ⟨es₂, he₂, ha₂⟩ := h₂.events
    refine ⟨es₁ ++ es₂, by rw [he₂, he₁, List.append_assoc], fun more => ?_⟩
    rw [List.append_assoc, ha₁, ha₂, List.append_assoc]
  sendAlls := h₂.sendAlls.trans h₁.sendAlls
  settled := h₂.settled.trans h₁.settled

theorem attempts_eq (h : Attempted as w w₁) : w.attempts w₁ = as := by
  obtain ⟨es, he, ha⟩ := h.events
  have := ha []
  rw [List.append_nil, attempts, List.append_nil] at this
  rw [World.attempts, he, List.drop_left, this]

theorem failsByNetwork (h : Attempted as w w₁) (hf : w.FailsByNetwork) : w₁.FailsByNetwork :=
  fun f hm => hf f (h.sendAlls.subset hm)

theorem logged (w : World) (line : LogLine) : Attempted [] w (w.logged line) :=
  ⟨⟨[], (List.append_nil _).symm, fun _ => rfl⟩, List.suffix_refl _, rfl⟩

theorem noted (w : World) (d : Deed) : Attempted [] w (w.noted d) :=
  ⟨⟨[], (List.append_nil _).symm, fun _ => rfl⟩, List.suffix_refl _, rfl⟩

theorem closed {o : Bool} {s : TcpSender} (hs : w.sender = some (.tcp s)) :
    Attempted [] w { w with
      outside := (Outside.close w.outside).2
      sender := some (.tcp { s with isOpen := o }) } := by
  refine ⟨⟨[.close], rfl, fun _ => rfl⟩, List.suffix_refl _, ?_⟩
  simp [World.settled, hs, Sender.settled]

theorem connect (w : World) (host port timeout : Value) :
    Attempted [.connect (Outside.next w.outside.connects ()).1.isOk] w
      { w with outside := (Outside.connect host port timeout w.outside).2 } :=
  ⟨⟨[.connect host port timeout], rfl, fun _ => rfl⟩, List.suffix_refl _, rfl⟩

theorem sendAll (w : World) (bytes : Bytes) :
    Attempted [.write bytes (Outside.next w.outside.sendAlls ()).1.isOk] w
      { w with outside := (Outside.sendAll bytes w.outside).2 } := by
  refine ⟨⟨[.sendAll bytes], rfl, fun _ => rfl⟩, ?_, rfl⟩
  show (Outside.next w.outside.sendAlls ()).2 <:+ w.outside.sendAlls
  cases w.outside.sendAlls with
  | nil => exact List.suffix_refl _
  | cons x rest => exact List.suffix_cons x rest

end Attempted

/-! ## Errands -/

/-- The sender may have been closed meanwhile; nothing was tried on the network. -/
def shutting : Passage where
  rel w w' := Attempted [] w w' ∧ (w'.online = true → w.online = true)
  refl w := ⟨.refl w, id⟩
  trans h₁ h₂ := ⟨h₁.1.trans h₂.1, h₁.2 ∘ h₂.2⟩

namespace TcpSender

variable {h : Hooks} {w w' : World} {host port : Value}

theorem drop_shutting {s : TcpSender} (hs : w.sender = some (.tcp s)) :
    Attempted [] w (drop.perform w).2 ∧ (drop.perform w).2.online = false := by
  rw [perform_drop hs]
  cases ho : s.isOpen with
  | true =>
    rw [if_pos rfl]
    exact ⟨.closed hs, rfl⟩
  | false =>
    refine ⟨.refl w, ?_⟩
    show w.online = false
    simp only [World.online, hs, ho]

theorem close_shutting {s : TcpSender} (hs : w.sender = some (.tcp s)) :
    Attempted [] w (close.perform w).2 ∧ (close.perform w).2.online = false := by
  unfold close
  rw [modifyState, perform_modify_bind, hs]
  obtain ⟨ha, ho⟩ := drop_shutting (w := { w with sender := some (.tcp { s with isClosed := true }) })
    rfl
  have hc : Attempted [] w { w with sender := some (.tcp { s with isClosed := true }) } := by
    refine ⟨⟨[], (List.append_nil _).symm, fun _ => rfl⟩, List.suffix_refl _, ?_⟩
    simp [World.settled, hs, Sender.settled]
  exact ⟨hc.trans ha, ho⟩

/-- Closing the sender is nothing that an errand is not allowed to do. -/
theorem along_close : Along shutting close := by
  intro w
  by_cases hs : ∃ s, w.sender = some (.tcp s)
  · obtain ⟨s, hs⟩ := hs
    obtain ⟨ha, ho⟩ := close_shutting hs
    exact ⟨ha, fun h => absurd (ho.symm.trans h) Bool.false_ne_true⟩
  · have hsame : close.perform w = (.ok (), w) := by
      unfold close modifyState drop isOpenNow
      rw [perform_modify_bind, perform_bind, perform_get_bind]
      cases hw : w.sender with
      | none => simp only [hw]; rfl
      | some x =>
        cases x with
        | tcp s => exact absurd ⟨s, hw⟩ hs
        | _ => simp only [hw]; rfl
    rw [hsame]
    exact shutting.refl w

/-! ## Calls -/

/-- What is asked of a sender. -/
inductive Call where
  | send (m : Message)
  | close

def Call.run (h : Hooks) : Call → Act Value
  | .send m => Sender.send h m
  | .close => do
    Sender.close
    return .null

/-- One call of a run: the world before it, what it returned, and the world after it. -/
structure Visit where
  before : World
  call : Call
  outcome : Except Fault Value
  after : World

def visit (h : Hooks) (c : Call) (w : World) : Visit :=
  ⟨w, c, ((c.run h).perform w).1, ((c.run h).perform w).2⟩

/-- The calls of a run, one after another. A fault ends its own call only. -/
def visits (h : Hooks) : List Call → World → List Visit
  | [], _ => []
  | c :: rest, w => visit h c w :: visits h rest (visit h c w).after

def last (h : Hooks) : List Call → World → World
  | [], w => w
  | c :: rest, w => last h rest (visit h c w).after

namespace Visit

def attempts (v : Visit) : List Attempt := v.before.attempts v.after

/-- The message that was sent, if the sender said so. -/
def delivered? (v : Visit) : Option Message :=
  match v.call, v.outcome with
  | .send m, .ok (.bool true) => some m
  | _, _ => none

end Visit

/-! ## One message -/

/-- The attempts to write some bytes: on a new connection, if one can be had, or on the one there is.
-/
inductive Reached (bytes : Bytes) (online : Bool) : List Attempt → Bool → Prop where
  | unreached : Reached bytes online [.connect false] false
  | anew (ok : Bool) : Reached bytes online [.connect true, .write bytes ok] ok
  | kept (ok : Bool) (h : online = true) : Reached bytes online [.write bytes ok] ok

/-- What a call can come to: nothing is tried, or a message is written with a null byte after it. A
connection is left just where that went well. -/
inductive Exchange (c : Call) (online : Bool) : List Attempt → Bool → Bool → Prop where
  | silent (left : Bool) (h : left = true → online = true) : Exchange c online [] false left
  | tried {m : Message} {frame : Bytes} {as : List Attempt} {ok : Bool} (hc : c = .send m)
      (hb : m.bytes = .ok frame) (hd : delimiter ∉ frame)
      (hr : Reached (frame ++ [delimiter]) online as ok) : Exchange c online as ok ok

theorem connect_attempted {t : TcpSender} (ht : w.sender = some (.tcp t)) (hoff : t.isOpen = false)
    (hv : Plain host port) (timeout : Value) {x : Except Fault Unit}
    (hr : (connect h host port timeout).perform w = (x, w')) :
    Attempted [.connect x.isOk] w w' ∧ w'.online = x.isOk := by
  have ha := Attempted.connect w host port timeout
  unfold connect at hr
  rw [perform_outward_bind] at hr
  split at hr
  · rename_i hok
    rw [modifyState, perform_modify_bind, perform_note_bind] at hr
    obtain ⟨line, hl⟩ := connectedLine_plain (h := h) hv _
    rw [hl] at hr
    cases hr
    have hok' : (Outside.next w.outside.connects ()).1 = .ok () := hok
    rw [hok'] at ha
    have hopen : Attempted [] { w with outside := (Outside.connect host port timeout w.outside).2 }
        { w with
          outside := (Outside.connect host port timeout w.outside).2
          sender := some (.tcp { t with isOpen := true }) } := by
      refine ⟨⟨[], (List.append_nil _).symm, fun _ => rfl⟩, List.suffix_refl _, ?_⟩
      simp [World.settled, ht, Sender.settled]
    rw [ht]
    exact ⟨((ha.trans hopen).trans (.noted _ .connected)).trans (.logged _ line), rfl⟩
  · rename_i f hf
    cases hr
    have hf' : (Outside.next w.outside.connects ()).1 = .error f := hf
    rw [hf'] at ha
    refine ⟨ha, ?_⟩
    show w.online = false
    simp only [World.online, ht, hoff]

/-- Whatever comes of the last write, the connection is still there. -/
theorem sendAll_attempted (hf : w.FailsByNetwork) (bytes : Bytes) {x : Except Fault Unit}
    (hr : (outward (Outside.sendAll bytes)).perform w = (x, w')) :
    Attempted [.write bytes x.isOk] w w' ∧ w'.online = w.online ∧
      ∀ f, x = .error f → f.isA "OSError" = true := by
  have ha := Attempted.sendAll w bytes
  rw [perform_outward] at hr
  cases hr
  refine ⟨ha, rfl, fun f hx => hf f ?_⟩
  have hx' : (Outside.next w.outside.sendAlls ()).1 = .error f := hx
  cases hq : w.outside.sendAlls with
  | nil =>
    rw [hq] at hx'
    cases hx'
  | cons y rest =>
    rw [hq] at hx'
    exact List.mem_cons.mpr (.inl hx'.symm)

theorem writeOut_reached {s t : TcpSender} (ht : w.sender = some (.tcp t))
    (hv : Plain s.host s.port) (hf : w.FailsByNetwork) (bytes : Bytes) {x : Except Fault Unit}
    (hr : (s.writeOut h bytes).perform w = (x, w')) :
    ∃ as, Attempted as w w' ∧ Reached bytes w.online as x.isOk ∧ (x = .ok () → w'.online = true) ∧
      ∀ f, x = .error f → f.isA "OSError" = true ∨ w'.online = false := by
  have hon : w.online = t.isOpen := by
    simp only [World.online, ht]
  unfold writeOut at hr
  rw [perform_bind, perform_tcpOpenNow ht] at hr
  cases ho : t.isOpen with
  | true =>
    rw [ho] at hr hon
    obtain ⟨ha, hsame, hos⟩ := sendAll_attempted hf bytes hr
    exact ⟨_, ha, .kept _ hon, fun _ => hsame.trans hon, fun f hx => .inl (hos f hx)⟩
  | false =>
    rw [ho] at hr
    dsimp only at hr
    rw [Bool.not_false, if_pos rfl, perform_bind] at hr
    cases hc : (connect h s.host s.port s.timeout).perform w with
    | mk y w₁ =>
      rw [hc] at hr
      obtain ⟨ha, hon₁⟩ := connect_attempted ht ho hv _ hc
      cases y with
      | error f =>
        cases hr
        exact ⟨_, ha, .unreached, nofun, fun _ _ => .inr hon₁⟩
      | ok _ =>
        obtain ⟨ha', hsame, hos⟩ := sendAll_attempted (ha.failsByNetwork hf) bytes hr
        exact ⟨_, ha.trans ha', .anew _, fun _ => hsame.trans hon₁, fun f hx => .inl (hos f hx)⟩

theorem giveUp_attempted {s t : TcpSender} (ht : w.sender = some (.tcp t))
    (hv : Plain s.host s.port) :
    Attempted [] w ((s.giveUp h).perform w).2 ∧ ((s.giveUp h).perform w).2.online = false := by
  unfold giveUp
  obtain ⟨line, hl⟩ := failedLine_plain (h := h) hv w
  rw [perform_bind, hl]
  obtain ⟨ha, ho⟩ := drop_shutting (w := w.logged line) ht
  exact ⟨(Attempted.logged w line).trans ha, ho⟩

/-- The sender answers true just where the write went well, and only then keeps the connection. -/
theorem transmit_reached {s t : TcpSender} (ht : w.sender = some (.tcp t))
    (hv : Plain s.host s.port) (hf : w.FailsByNetwork) (bytes : Bytes) {x : Except Fault Value}
    (hr : (s.transmit h bytes).perform w = (x, w')) :
    ∃ as ok, Attempted as w w' ∧ Reached bytes w.online as ok ∧ w'.online = ok ∧
      (x = .ok (.bool true) ↔ ok = true) := by
  unfold transmit at hr
  rw [perform_attempt_bind] at hr
  cases hw : (s.writeOut h bytes).perform w with
  | mk y w₁ =>
    rw [hw] at hr
    obtain ⟨as, ha, hreach, hon, hoff⟩ := writeOut_reached ht hv hf bytes hw
    refine ⟨as, y.isOk, ?_⟩
    cases y with
    | ok _ =>
      cases hr
      exact ⟨ha, hreach, hon rfl, by simp [Except.isOk, Except.toBool]⟩
    | error f =>
      dsimp only at hr
      split at hr
      · obtain ⟨c, o, ht₁⟩ := tcp_of_settled ht ha.settled
        obtain ⟨hg, hdown⟩ := giveUp_attempted (h := h) ht₁ hv
        rw [perform_bind] at hr
        have hsnd := during_snd (giveUp h s) (some f) w₁
        cases hd : ((giveUp h s).during (some f)).perform w₁ with
        | mk z w₂ =>
          rw [hd] at hr hsnd
          rw [← hsnd] at hg hdown
          have hend : w' = w₂ ∧ x ≠ .ok (.bool true) := by
            cases z with
            | ok _ =>
              cases hr
              exact ⟨rfl, nofun⟩
            | error g =>
              cases hr
              exact ⟨rfl, nofun⟩
          obtain ⟨rfl, hx⟩ := hend
          have hg' := ha.trans hg
          rw [List.append_nil] at hg'
          exact ⟨hg', hreach, hdown, by simp [hx, Except.isOk, Except.toBool]⟩
      · rename_i hos
        cases hr
        have hdown := (hoff f rfl).resolve_left hos
        exact ⟨ha, hreach, hdown, by simp [Except.isOk, Except.toBool]⟩

/-! ## One call -/

/-- A TCP sender that can be used, in a network that may fail. -/
structure Usable (w : World) : Prop where
  sender : ∃ s, w.sender = some (.tcp s) ∧ Plain s.host s.port
  network : w.FailsByNetwork

theorem Usable.attempted {as : List Attempt} (hu : Usable w) (ha : Attempted as w w') :
    Usable w' := by
  obtain ⟨s, hs, hv⟩ := hu.sender
  obtain ⟨c, o, hs'⟩ := tcp_of_settled hs ha.settled
  exact ⟨⟨_, hs', hv⟩, ha.failsByNetwork hu.network⟩

theorem send_exchange (hu : Usable w) (hh : ∀ e, Along shutting (h e)) (m : Message)
    {x : Except Fault Value} (hr : (Sender.send h m).perform w = (x, w')) :
    ∃ as ok, Attempted as w w' ∧ Exchange (.send m) w.online as ok w'.online ∧
      (x = .ok (.bool true) ↔ ok = true) := by
  obtain ⟨s, hs, hv⟩ := hu.sender
  unfold Sender.send at hr
  rw [perform_get_bind, hs] at hr
  dsimp only at hr
  unfold send at hr
  split at hr
  · cases hr
    exact ⟨[], false, .refl w, .silent _ id, by simp⟩
  · rw [perform_bind] at hr
    have hw := along_words hh m.encode w
    cases he : (words h m.encode).perform w with
    | mk y w₁ =>
      rw [he] at hr hw
      obtain ⟨ha, hdown⟩ := hw
      cases y with
      | error f =>
        cases hr
        exact ⟨[], false, ha, .silent _ hdown, by simp⟩
      | ok text =>
        dsimp only at hr
        rw [perform_note_bind] at hr
        have hn := ha.trans (.noted w₁ (.encoded text))
        obtain ⟨c, o, hs'⟩ := tcp_of_settled hs hn.settled
        obtain ⟨as, ok, ht, hreach, hon, hx⟩ := transmit_reached (s := s) hs' hv
          (hn.failsByNetwork hu.network) _ hr
        have hb : m.bytes = .ok text.toUTF8.toList := by
          rw [Message.bytes, Script.quiet_of_words (strict_encode m) he]
          rfl
        refine ⟨as, ok, hn.trans ht, ?_, hx⟩
        rw [hon]
        refine .tried rfl hb (delimiter_not_mem he) ?_
        -- an errand may have closed the connection there was, but it opened none
        cases hreach with
        | unreached => exact .unreached
        | anew => exact .anew _
        | kept _ hup => exact .kept _ (hdown hup)

/-- The same of any call: it is answered with true just where a write went well. -/
theorem visit_exchange (hu : Usable w) (hh : ∀ e, Along shutting (h e)) (c : Call) :
    ∃ as ok, Attempted as w (visit h c w).after ∧
      Exchange c w.online as ok (visit h c w).after.online ∧
      ((visit h c w).outcome = .ok (.bool true) ↔ ok = true) := by
  cases c with
  | send m => exact send_exchange hu hh m rfl
  | close =>
    obtain ⟨s, hs, -⟩ := hu.sender
    obtain ⟨ha, hoff⟩ := close_shutting hs
    have hclose : Sender.close.perform w = close.perform w := by
      unfold Sender.close
      rw [perform_get_bind, hs]
    have hafter : (visit h .close w).after = (close.perform w).2 := by
      rw [← hclose]
      exact bind_pure_snd _ _ w
    have hout : (visit h .close w).outcome ≠ .ok (.bool true) := by
      intro hx
      have hx' : (Sender.close >>= fun _ => pure Value.null).perform w =
          (.ok (.bool true), (visit h .close w).after) := Prod.ext hx rfl
      obtain ⟨_, _, -, hy⟩ := bind_ok hx'
      cases hy
    rw [hafter, hoff]
    exact ⟨[], false, ha, .silent false nofun, by simp [hout]⟩

/-! ## Streams -/

/-- A row cut at its marks: what comes before the first mark, and what comes after each of them. -/
def groups {α : Type} : List (Option α) → List α × List (List α)
  | [] => ([], [])
  | none :: rest => ([], (groups rest).1 :: (groups rest).2)
  | some a :: rest => (a :: (groups rest).1, (groups rest).2)

theorem groups_flatten {α : Type} (xs : List (Option α)) :
    (groups xs).1 ++ (groups xs).2.flatten = xs.filterMap id := by
  induction xs with
  | nil => rfl
  | cons x rest ih =>
    cases x with
    | none => simpa [groups] using ih
    | some a => simpa [groups] using ih

end TcpSender

namespace Attempt

def isConnect : Attempt → Bool
  | .connect _ => true
  | .write _ _ => false

/-- Does a connection begin here? -/
def opens : Attempt → Bool
  | .connect ok => ok
  | .write _ _ => false

/-- A mark where a connection begins, and each write. -/
def mark? : Attempt → Option (Option (Bytes × Bool))
  | .connect true => some none
  | .connect false => none
  | .write bytes ok => some (some (bytes, ok))

end Attempt

namespace TcpSender

/-- The writes on each connection, and whether they succeeded. In front are the writes before the
first connection. -/
def streams (trace : List Attempt) : List (Bytes × Bool) × List (List (Bytes × Bool)) :=
  groups (trace.filterMap Attempt.mark?)

/-- What arrives of some writes. -/
def arrived (writes : List (Bytes × Bool)) : Bytes := (writes.filter Prod.snd).flatMap Prod.fst

/-- A mark for each connection that a call opened, and the message it sent. -/
def Visit.marks (v : Visit) : List (Option Message) :=
  List.replicate (v.attempts.countP Attempt.opens) none ++ v.delivered?.toList.map some

/-- The messages that were sent on each connection, from the one that the sender was made with. -/
def deliveries (vs : List Visit) : List (List Message) :=
  (groups (none :: vs.flatMap Visit.marks)).2

/-- The writes on one connection: none follows one that failed, and what arrives, cut at the null
bytes, are the messages that were sent on it. -/
structure Faithful (writes : List (Bytes × Bool)) (sent : List Message) : Prop where
  failsLast : ∀ x ∈ writes.dropLast, x.2 = true
  frames : ∃ frames, sent.map Message.bytes = frames.map .ok ∧
    (arrived writes).splitOn delimiter = frames ++ [[]]

theorem Faithful.nil : Faithful [] [] := ⟨nofun, [], rfl, rfl⟩

/-- One more write in front; after one that failed there must not be more. -/
theorem Faithful.cons {m : Message} {frame : Bytes} {ok : Bool} {writes : List (Bytes × Bool)}
    {sent : List Message} (hb : m.bytes = .ok frame) (hd : delimiter ∉ frame)
    (hf : Faithful writes sent) (hlast : ok = false → writes = [] ∧ sent = []) :
    Faithful ((frame ++ [delimiter], ok) :: writes) (if ok then m :: sent else sent) := by
  cases ok with
  | false =>
    obtain ⟨rfl, rfl⟩ := hlast rfl
    exact ⟨nofun, [], rfl, rfl⟩
  | true =>
    obtain ⟨frames, hsent, harrived⟩ := hf.frames
    refine ⟨fun x hx => ?_, frame :: frames, ?_, ?_⟩
    · cases writes with
      | nil => cases hx
      | cons y rest =>
        cases hx with
        | head => rfl
        | tail _ hx => exact hf.failsLast x hx
    · simp [hb, hsent]
    · rw [List.cons_append, ← harrived, ← splitOn_frame hd]
      rfl

/-- What a call has done on the network: at most one connect and one write, and that of its own
message, which is answered with true just if the write succeeded. -/
structure Visit.Modest (v : Visit) : Prop where
  connects : v.attempts.countP Attempt.isConnect ≤ 1
  writes : v.attempts.countP (fun a => !a.isConnect) ≤ 1
  own : ∀ bytes ok, .write bytes ok ∈ v.attempts → ∃ m frame, v.call = .send m ∧
    m.bytes = .ok frame ∧ bytes = frame ++ [delimiter] ∧ (v.outcome = .ok (.bool true) ↔ ok = true)

theorem Exchange.modest {v : Visit} {online left ok : Bool}
    (hx : Exchange v.call online v.attempts ok left) (ho : v.outcome = .ok (.bool true) ↔ ok = true) :
    v.Modest := by
  generalize hv : v.attempts = as at hx
  cases hx with
  | silent => exact ⟨by rw [hv]; decide, by rw [hv]; decide, by rw [hv]; nofun⟩
  | @tried _ frame _ _ hc hb _ hr =>
    have hown : ∀ bytes ok', .write bytes ok' ∈ as → bytes = frame ++ [delimiter] ∧ ok' = left := by
      intro bytes ok' hm
      cases hr <;> simp at hm
      · exact hm
      · exact hm
    have hcount : as.countP Attempt.isConnect ≤ 1 ∧ as.countP (fun a => !a.isConnect) ≤ 1 := by
      cases hr with
      | unreached => decide
      | anew => exact ⟨Nat.le_refl 1, Nat.le_refl 1⟩
      | kept => exact ⟨Nat.zero_le 1, Nat.le_refl 1⟩
    refine ⟨hv ▸ hcount.1, hv ▸ hcount.2, fun bytes ok' hm => ?_⟩
    obtain ⟨rfl, rfl⟩ := hown bytes ok' (hv ▸ hm)
    exact ⟨_, _, hc, hb, rfl, ho⟩

theorem Visit.delivered?_of {v : Visit} {m : Message} {ok : Bool} (hc : v.call = .send m)
    (ho : v.outcome = .ok (.bool true) ↔ ok = true) :
    v.delivered? = if ok then some m else none := by
  unfold delivered?
  rw [hc]
  cases ok with
  | true => rw [ho.mpr rfl, if_pos rfl]
  | false =>
    split
    · rename_i hx
      cases ho.mp hx
    · rfl

theorem Visit.delivered?_none {v : Visit} (ho : v.outcome ≠ .ok (.bool true)) :
    v.delivered? = none := by
  unfold delivered?
  split
  · rename_i hx
    exact absurd hx ho
  · rfl

/-- Writes and messages of a whole run, each cut where the connections begin: what is there before
the first one belongs to the connection that there was. -/
structure Carried (online : Bool) (writes : List (Bytes × Bool) × List (List (Bytes × Bool)))
    (sent : List Message × List (List Message)) : Prop where
  first : Faithful writes.1 sent.1
  others : List.Forall₂ Faithful writes.2 sent.2
  offline : online = false → writes.1 = [] ∧ sent.1 = []

theorem Exchange.carried {v : Visit} {online left ok : Bool} {trace : List Attempt}
    {marks : List (Option Message)} (hx : Exchange v.call online v.attempts ok left)
    (ho : v.outcome = .ok (.bool true) ↔ ok = true)
    (hc : Carried left (streams trace) (groups marks)) :
    Carried online (streams (v.attempts ++ trace)) (groups (v.marks ++ marks)) := by
  unfold Visit.marks
  generalize v.attempts = as at hx
  cases hx with
  | silent _ hl =>
    rw [Visit.delivered?_none fun hv => Bool.false_ne_true (ho.mp hv)]
    refine ⟨hc.first, hc.others, fun hoff => hc.offline ?_⟩
    cases left with
    | false => rfl
    | true => exact absurd (hoff.symm.trans (hl rfl)) Bool.false_ne_true
  | tried hcall hb hd hr =>
    rw [Visit.delivered?_of hcall ho]
    have hstep := hc.first.cons hb hd hc.offline
    cases hr with
    | unreached => exact ⟨hc.first, hc.others, fun _ => hc.offline rfl⟩
    | anew => cases left <;> exact ⟨.nil, .cons hstep hc.others, fun _ => ⟨rfl, rfl⟩⟩
    | kept _ hup =>
      have hoff : online ≠ false := fun h => Bool.false_ne_true (h.symm.trans hup)
      cases left <;> exact ⟨hstep, hc.others, fun h => absurd h hoff⟩

/-- By induction on the calls, from the last one back. -/
theorem streams_carry (hh : ∀ e, Along shutting (h e)) (calls : List Call) (hu : Usable w) :
    Attempted ((visits h calls w).flatMap Visit.attempts) w (last h calls w) ∧
      (∀ v ∈ visits h calls w, v.Modest) ∧
      Carried w.online (streams ((visits h calls w).flatMap Visit.attempts))
        (groups ((visits h calls w).flatMap Visit.marks)) := by
  induction calls generalizing w with
  | nil =>
    refine ⟨.refl w, fun v hv => ?_, ⟨.nil, .nil, fun _ => ⟨rfl, rfl⟩⟩⟩
    cases hv
  | cons c rest ih =>
    obtain ⟨as, ok, ha, hx, ho⟩ := visit_exchange hu hh c
    have hv : (visit h c w).attempts = as := ha.attempts_eq
    rw [← hv] at ha hx
    obtain ⟨hr, hm, hc⟩ := ih (hu.attempted ha)
    refine ⟨ha.trans hr, ?_, ?_⟩
    · intro v hmem
      cases hmem with
      | head => exact hx.modest ho
      | tail _ hmem => exact hm v hmem
    · exact hx.carried ho hc

theorem make_attempted {name : String} {n : Int} {timeout : Value} (hf : w.FailsByNetwork)
    (hr : (make h (.str name) (.int n) timeout).perform w = (.ok (), w')) :
    Attempted [.connect true]
      { w with sender := some (.tcp ⟨.str name, .int n, timeout, false, false⟩) } w' ∧
      Usable w' ∧ w'.online = true := by
  unfold make at hr
  rw [perform_modify_bind] at hr
  have hv : Plain (.str name) (.int n) := by
    unfold connect at hr
    obtain ⟨_, _, -, hr⟩ := bind_ok hr
    obtain ⟨_, _, -, hr⟩ := bind_ok hr
    obtain ⟨_, _, -, hr⟩ := bind_ok hr
    rw [perform_logLine_pair (p := "GELF TCP sender connected to ".toList) (q := []) (by decide)
      (by decide) (by decide), intText] at hr
    by_cases hn : n.natAbs < intLimit
    · exact ⟨name, n, rfl, rfl, hn⟩
    · rw [if_neg hn] at hr
      cases hr
  obtain ⟨ha, hon⟩ := connect_attempted rfl rfl hv timeout hr
  have hu : Usable { w with sender := some (.tcp ⟨.str name, .int n, timeout, false, false⟩) } :=
    ⟨⟨_, rfl, hv⟩, hf⟩
  exact ⟨ha, hu.attempted ha, hon⟩

/-- What a collector reads is what the sender says that it sent. -/
structure Intact (trace : List Attempt) (vs : List Visit) : Prop where
  whole : trace = .connect true :: vs.flatMap Visit.attempts
  modest : ∀ v ∈ vs, v.Modest
  connected : (streams trace).1 = []
  faithful : List.Forall₂ Faithful (streams trace).2 (deliveries vs)
  complete : (deliveries vs).flatten = vs.filterMap Visit.delivered?

theorem deliveries_flatten (vs : List Visit) :
    (deliveries vs).flatten = vs.filterMap Visit.delivered? := by
  have h := groups_flatten (none :: vs.flatMap Visit.marks)
  have hmarks : (vs.flatMap Visit.marks).filterMap id = vs.filterMap Visit.delivered? := by
    rw [List.filterMap_flatMap, List.filterMap_eq_flatMap_toList]
    congr 1
    funext v
    simp [Visit.marks]
  rw [← hmarks]
  exact h

/-- Over every run of a sender that could be made, whatever the network does: each call connects and
writes at most once, a write that fails is the last one on its connection, and each connection
carries the messages that were reported as sent on it, one after another, and nothing else. -/
theorem stream_integrity {name : String} {n : Int} {timeout : Value} {w₀ : World}
    (hh : ∀ e, Along shutting (h e)) (hf : w₀.FailsByNetwork)
    (hm : (make h (.str name) (.int n) timeout).perform w₀ = (.ok (), w)) (calls : List Call) :
    Intact (w₀.attempts (last h calls w)) (visits h calls w) := by
  obtain ⟨ha, hu, hon⟩ := make_attempted hf hm
  obtain ⟨hr, hmodest, hc⟩ := streams_carry hh calls hu
  have hall : w₀.attempts (last h calls w) =
      .connect true :: (visits h calls w).flatMap Visit.attempts := (ha.trans hr).attempts_eq
  rw [hall]
  exact ⟨rfl, hmodest, rfl, .cons hc.first hc.others, deliveries_flatten _⟩

/-- A network where the second write fails. -/
def flaky : World :=
  { World.calm with
    outside := { Outside.calm with
      sendAlls := [.ok (), .error (.raised (.builtin "BrokenPipeError") []), .ok ()] } }

def dialled : World := ((make (fun _ => close) (.str "h") (.int 12201) .null).perform flaky).2

def plainMessage (short : Value) : Message :=
  ⟨short, .str "full", .int 1000, .int 6, .null, .null, .dict []⟩

/-- The second message is lost, the third one goes out on a new connection, and so does the last one,
whose text closes the sender on the way. -/
def fourCalls : List Call :=
  [.send (plainMessage (.str "a")), .send (plainMessage (.str "b")), .send (plainMessage (.str "c")),
    .send (plainMessage (.object
      ⟨"Closing", "d", "d", none, none, none, none, some .close⟩))]

theorem stream_integrity_flaky : (∀ e, Along shutting ((fun _ => close : Hooks) e)) ∧
    flaky.FailsByNetwork ∧
    (make (fun _ => close) (.str "h") (.int 12201) .null).perform flaky = (.ok (), dialled) ∧
    Intact (flaky.attempts (last (fun _ => close) fourCalls dialled))
      (visits (fun _ => close) fourCalls dialled) ∧
    (deliveries (visits (fun _ => close) fourCalls dialled)).map List.length = [1, 1, 1] := by
  have hf : flaky.FailsByNetwork := by
    intro f hm
    simp [flaky] at hm
    rw [hm]
    decide +kernel
  have hm : (make (fun _ => close) (.str "h") (.int 12201) .null).perform flaky =
      (.ok (), dialled) := by
    have hok : ((make (fun _ => close) (.str "h") (.int 12201) .null).perform flaky).1.isOk = true := by
      decide +kernel
    refine Prod.ext ?_ rfl
    revert hok
    cases ((make (fun _ => close) (.str "h") (.int 12201) .null).perform flaky).1 with
    | ok _ => exact fun _ => rfl
    | error f => nofun
  exact ⟨fun _ => along_close, hf, hm, stream_integrity (fun _ => along_close) hf hm fourCalls,
    by decide +kernel⟩

end TcpSender

end Gelf
