import Gelf.Proofs.Stream
import Gelf.Proofs.Transport

/-!
# Gelf.Proofs.Closing

What is left of a sender that was closed.

* `World.Shut`: the sender will not use the network again. `visit_shut`: whatever is asked of it, it
  does nothing, and `visits_shut` says so of a whole run.
* `lasting`: work that keeps the kind of sender. `lasting_call`: every call does.
* `tcp_close_shut`, `udp_close`: what a close makes of either sender, whatever its socket says.
* `close_lasts_iff`: a close is the end of a TCP sender in any case, and of a UDP sender just if the
  call returned. `failed_close_forgotten`: else the sender goes on as before.
-/

namespace Gelf

open Act

open TcpSender (Call Visit visit visits last)

variable {h : Hooks} {w : World}

/-! ## Senders that are shut -/

/-- The sender has no socket and will not get another one. -/
def Sender.Shut : Sender → Prop
  | .udp s => s.isOpen = false
  | .tcp s => s.isClosed = true ∧ s.isOpen = false
  | _ => False

def World.Shut (w : World) : Prop := ∃ s, w.sender = some s ∧ s.Shut

/-- What a call is answered with that comes too late. -/
def TcpSender.Call.refusal : Call → Value
  | .send _ => .bool false
  | .close => .null

/-- The call did nothing, and was answered as one that comes too late. -/
structure TcpSender.Visit.Silent (v : Visit) : Prop where
  events : v.after.outside.events = v.before.outside.events
  refused : v.outcome = .ok v.call.refusal

theorem udp_shut {s : UdpSender} (ho : s.isOpen = false) :
    (∀ m, (s.send h m).perform w = (.ok (.bool false), w)) ∧ s.close.perform w = (.ok (), w) := by
  unfold UdpSender.send UdpSender.close
  rw [ho]
  exact ⟨fun _ => rfl, rfl⟩

theorem tcp_shut {s : TcpSender} (hw : w.sender = some (.tcp s)) (hc : s.isClosed = true)
    (ho : s.isOpen = false) : (∀ m, (s.send h m).perform w = (.ok (.bool false), w)) ∧
      TcpSender.close.perform w = (.ok (), w) := by
  constructor
  · intro m
    unfold TcpSender.send
    rw [hc]
    rfl
  · obtain ⟨host, port, timeout, isClosed, isOpen⟩ := s
    cases hc
    cases ho
    have hsame : { w with sender := some (.tcp ⟨host, port, timeout, true, false⟩) } = w := by
      rw [← hw]
    unfold TcpSender.close
    rw [TcpSender.modifyState, perform_modify_bind, hw]
    dsimp only
    rw [hsame, perform_drop hw]
    rfl

theorem visit_shut (hs : w.Shut) (c : Call) : visit h c w = ⟨w, c, .ok c.refusal, w⟩ := by
  obtain ⟨s, hw, hs⟩ := hs
  have hsend : ∀ m, (Sender.send h m).perform w = (.ok (.bool false), w) := by
    intro m
    unfold Sender.send
    rw [perform_get_bind, hw]
    cases s with
    | udp s => exact (udp_shut hs).1 m
    | tcp s => exact (tcp_shut hw hs.1 hs.2).1 m
    | scripted => cases hs
    | other c closable => cases hs
  have hclose : Sender.close.perform w = (.ok (), w) := by
    unfold Sender.close
    rw [perform_get_bind, hw]
    cases s with
    | udp s => exact (udp_shut (h := h) hs).2
    | tcp s => exact (tcp_shut (h := h) hw hs.1 hs.2).2
    | scripted => cases hs
    | other c closable => cases hs
  have hrun : (c.run h).perform w = (.ok c.refusal, w) := by
    cases c with
    | send m => exact hsend m
    | close =>
      show (Sender.close >>= fun _ => pure Value.null).perform w = _
      rw [perform_bind, hclose]
      rfl
  unfold visit
  rw [hrun]

/-- By induction on the calls: a sender that is shut stays shut. -/
theorem visits_shut (hs : w.Shut) (calls : List Call) : ∀ v ∈ visits h calls w, v.Silent := by
  induction calls with
  | nil =>
    intro v hv
    cases hv
  | cons c rest ih =>
    intro v hv
    have hvisit := visit_shut (h := h) hs c
    rw [TcpSender.visits, hvisit] at hv
    rcases List.mem_cons.mp hv with rfl | hv
    · exact ⟨rfl, rfl⟩
    · exact ih v hv

/-! ## Runs before the close -/

/-- The sender is of the same kind, with the same settings. -/
def lasting : Passage where
  rel w w' := w'.settled = w.settled
  refl _ := rfl
  trans h₁ h₂ := h₂.trans h₁

theorem lasting_line : lasting.Line where
  outside _ _ := rfl
  tcp w s c o hs := by
    show World.settled _ = World.settled w
    simp [World.settled, hs, Sender.settled]
  connected _ := rfl
  encoded _ _ := rfl

theorem lasting_close : Along lasting Sender.close := by
  refine along_get_bind fun w => ?_
  split
  · unfold UdpSender.close
    split
    · refine along_bind (lasting_line.along_outward _) (fun _ => along_modify fun w => ?_) w
      show World.settled _ = World.settled w
      split
      · rename_i s hs
        simp [World.settled, hs, Sender.settled]
      · rfl
    · exact lasting.refl w
  · exact along_bind (lasting_line.along_tcpState fun s => ⟨true, s.isOpen, rfl⟩)
      (fun _ => lasting_line.along_drop) w
  · exact lasting.refl w
  · split <;> exact lasting.refl w
  · exact lasting.refl w

theorem lasting_call (hh : ∀ e, Along lasting (h e)) (c : Call) : Along lasting (c.run h) := by
  cases c with
  | send m => exact lasting_line.along_send hh m
  | close => exact along_bind lasting_close fun _ => along_pure _

theorem last_settled (hh : ∀ e, Along lasting (h e)) (calls : List Call) (w : World) :
    (last h calls w).settled = w.settled := by
  induction calls generalizing w with
  | nil => rfl
  | cons c rest ih => exact (ih _).trans (lasting_call hh c w)

/-! ## The close -/

theorem visit_close (w : World) : visit h .close w = ⟨w, .close,
    (Sender.close.perform w).1.map fun _ => .null, (Sender.close.perform w).2⟩ := by
  have hrun : (Call.close.run h).perform w =
      ((Sender.close.perform w).1.map fun _ => .null, (Sender.close.perform w).2) := by
    show (Sender.close >>= fun _ => pure Value.null).perform w = _
    rw [perform_bind]
    cases Sender.close.perform w with
    | mk x w' => cases x <;> rfl
  unfold visit
  rw [hrun]

theorem tcp_close_shut {s : TcpSender} (hs : w.sender = some (.tcp s)) :
    (visit h .close w).after.Shut := by
  rw [visit_close]
  unfold Sender.close
  rw [perform_get_bind, hs]
  dsimp only
  unfold TcpSender.close
  rw [TcpSender.modifyState, perform_modify_bind, hs]
  dsimp only
  rw [perform_drop (s := { s with isClosed := true }) rfl]
  split
  · exact ⟨_, rfl, rfl, rfl⟩
  · rename_i ho
    exact ⟨_, rfl, rfl, Bool.eq_false_iff.mpr ho⟩

/-- A UDP sender gives its socket up if closing it succeeds; else it is as it was, and the failure
is the outcome of the call. -/
theorem udp_close {s : UdpSender} (hs : w.sender = some (.udp s)) :
    ((visit h .close w).outcome = .ok .null ∧ (visit h .close w).after.Shut) ∨
      ∃ f, (visit h .close w).outcome = .error f ∧ s.isOpen = true ∧
        (visit h .close w).after.sender = w.sender := by
  rw [visit_close]
  unfold Sender.close
  rw [perform_get_bind, hs]
  dsimp only
  unfold UdpSender.close
  cases ho : s.isOpen with
  | false => exact .inl ⟨rfl, _, hs, ho⟩
  | true =>
    rw [if_pos rfl, perform_outward_bind]
    rcases hclosed : (Outside.close w.outside).1 with f | _
    · exact .inr ⟨f, rfl, rfl, hs⟩
    · dsimp only
      rw [UdpSender.setOpen, perform_modify, hs]
      exact .inl ⟨rfl, _, rfl, rfl⟩

theorem udp_close_events {s : UdpSender} (hs : w.sender = some (.udp s)) (ho : s.isOpen = true) :
    (visit h .close w).after.outside.events = w.outside.events ++ [.close] := by
  rw [visit_close]
  unfold Sender.close
  rw [perform_get_bind, hs]
  dsimp only
  unfold UdpSender.close
  rw [if_pos ho, perform_outward_bind]
  cases (Outside.close w.outside).1 with
  | ok _ =>
    dsimp only
    rw [UdpSender.setOpen, perform_modify, hs]
    rfl
  | error f => rfl

/-- The world has a sender over UDP or TCP. -/
def World.OverSocket (w : World) : Prop :=
  (∃ s, w.sender = some (.udp s)) ∨ ∃ s, w.sender = some (.tcp s)

def World.overUdp (w : World) : Bool :=
  match w.sender with
  | some (.udp _) => true
  | _ => false

/-- In every run of a sender over UDP or TCP: all calls after a close come too late and touch
nothing just if the sender is one over TCP or the call returned. -/
theorem close_lasts_iff (hw : w.OverSocket) (hh : ∀ e, Along lasting (h e)) (before : List Call) :
    (∀ later, ∀ v ∈ visits h later (visit h .close (last h before w)).after, v.Silent) ↔
      w.overUdp = false ∨ (visit h .close (last h before w)).outcome = .ok .null := by
  have hsettled := last_settled hh before w
  generalize last h before w = w₁ at hsettled
  rcases hw with ⟨s, hs⟩ | ⟨s, hs⟩
  · obtain ⟨o, hs₁⟩ := udp_of_settled hs hsettled
    rcases udp_close (h := h) hs₁ with ⟨hok, hshut⟩ | ⟨f, hf, ho, hsame⟩
    · exact iff_of_true (fun later => visits_shut hshut later) (.inr hok)
    · refine iff_of_false (fun hall => ?_) ?_
      · have hnext := hall [.close] _ List.mem_cons_self
        have hevents := hnext.events
        rw [udp_close_events (hsame.trans hs₁) ho] at hevents
        simp [visit] at hevents
      · rintro (hudp | hok)
        · simp [World.overUdp, hs] at hudp
        · rw [hf] at hok
          cases hok
  · obtain ⟨c, o, hs₁⟩ := tcp_of_settled hs hsettled
    refine iff_of_true (fun later => visits_shut (tcp_close_shut hs₁) later) (.inl ?_)
    simp [World.overUdp, hs]

/-- A sender whose socket cannot be closed. -/
def stuck (s : Sender) : World :=
  { World.calm with
    sender := some s
    outside := { Outside.calm with closes := [.error (.raised (.builtin "OSError") [])] } }

def stuckTcp : World := stuck (.tcp ⟨.str "h", .int 1, .null, false, true⟩)

def stuckUdp : World := stuck (.udp ⟨.str "h", .int 1, .int 8154, .bool false, [], true⟩)

def plainWords : Message :=
  ⟨.str "short", .str "full", .int 1000, .int 6, .null, .null, .dict []⟩

/-- Closing the socket of a TCP sender fails, and then a message is refused. -/
theorem close_lasts_iff_tcp : stuckTcp.OverSocket ∧
    (∀ e, Along lasting ((fun _ => Sender.close : Hooks) e)) ∧
    (∃ f, (visit (fun _ => Sender.close) .close stuckTcp).outcome = .error f) ∧
    (visit (fun _ => Sender.close) (.send plainWords)
      (visit (fun _ => Sender.close) .close stuckTcp).after).Silent := by
  have hw : stuckTcp.OverSocket := .inr ⟨_, rfl⟩
  have hh : ∀ e, Along lasting ((fun _ => Sender.close : Hooks) e) := fun _ => lasting_close
  refine ⟨hw, hh, ⟨_, rfl⟩, ?_⟩
  exact (close_lasts_iff hw hh []).mpr (.inl rfl) [.send plainWords] _ List.mem_cons_self

/-- Closing the socket of a UDP sender fails, and then a message is sent. -/
theorem failed_close_forgotten : (∃ f, (visit idle .close stuckUdp).outcome = .error f) ∧
    ¬ (visit idle (.send plainWords) (visit idle .close stuckUdp).after).Silent := by
  refine ⟨⟨_, rfl⟩, fun hs => ?_⟩
  have hgrown : (visit idle (.send plainWords)
      (visit idle .close stuckUdp).after).after.outside.events.length = 2 := by decide +kernel
  rw [hs.events] at hgrown
  exact absurd hgrown (by decide)

end Gelf
