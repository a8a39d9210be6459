import Gelf.Proofs.Finality

/-!
# Gelf.Proofs.Sockets

Is every socket closed, and closed only once?

* `Tally`, `World.plugs`: the sockets that were opened between two worlds and the attempts to close
  one, in order, read off the events and the outcomes that were laid down for them.
* `InTurn`: a socket is opened only where none is open, and closed only where one is.
* `Turns`: the sockets so far are in turn. There is one lemma for each kind of event.
* `Plugged`: what the calls of a handler keep. The socket that is open, if there is one, is the one
  that the handler's sender holds.
* `socket_balance`: over every run in which the handler is closed between records only, the sockets
  are in turn, and none is left when it is closed.
-/

namespace Gelf

open Act

/-! ## Sockets in turn -/

/-- What becomes of a socket: it is opened, or someone tries to close it. -/
inductive Plug where
  | opened
  | closing
  deriving DecidableEq

/-- What became of sockets so far, and the outcomes that are laid down for the next ones. -/
structure Tally where
  sockets : List (Except Fault Unit)
  connects : List (Except Fault Unit)
  plugs : List Plug

/-- An attempt to open a socket opens one if it succeeds. -/
def Plug.ofOutcome : Except Fault Unit → List Plug
  | .ok _ => [.opened]
  | .error _ => []

def Tally.step (t : Tally) : Event → Tally
  | .socket _ => ⟨(Outside.next t.sockets ()).2, t.connects,
      t.plugs ++ Plug.ofOutcome (Outside.next t.sockets ()).1⟩
  | .connect _ _ _ => ⟨t.sockets, (Outside.next t.connects ()).2,
      t.plugs ++ Plug.ofOutcome (Outside.next t.connects ()).1⟩
  | .close => { t with plugs := t.plugs ++ [.closing] }
  | _ => t

/-- The tally of what happened from one world outside to a later one. -/
def Outside.tally (b o : Outside) : Tally :=
  (o.events.drop b.events.length).foldl Tally.step ⟨b.sockets, b.connects, []⟩

/-- The sockets between this world and a later one. -/
def World.plugs (w w' : World) : List Plug := (w.outside.tally w'.outside).plugs

/-- One socket after another. Is the last one still open? -/
inductive InTurn : List Plug → Bool → Prop where
  | none : InTurn [] false
  | opened {ps : List Plug} (h : InTurn ps false) : InTurn (ps ++ [.opened]) true
  | closed {ps : List Plug} (h : InTurn ps true) : InTurn (ps ++ [.closing]) false

theorem InTurn.count {ps : List Plug} {left : Bool} (h : InTurn ps left) :
    ps.count .opened = ps.count .closing + left.toNat := by
  induction h with
  | none => rfl
  | opened _ ih => simpa using ih
  | closed _ ih => simpa using ih

/-- The sockets so far are in turn, and the outcomes that are left are those not used yet. -/
structure Turns (b o : Outside) (left : Bool) : Prop where
  events : b.events <+: o.events
  sockets : (b.tally o).sockets = o.sockets
  connects : (b.tally o).connects = o.connects
  inTurn : InTurn (b.tally o).plugs left

theorem tally_event {b o : Outside} (o' : Outside) {e : Event} (hb : b.events <+: o.events)
    (he : o'.events = o.events ++ [e]) : b.tally o' = (b.tally o).step e := by
  unfold Outside.tally
  rw [he, List.drop_append_of_le_length hb.length_le, List.foldl_append]
  rfl

namespace Turns

variable {b o : Outside} {left : Bool}

theorem start (b : Outside) : Turns b b false := by
  have ht : b.tally b = ⟨b.sockets, b.connects, []⟩ := by
    rw [Outside.tally, List.drop_length]
    rfl
  refine ⟨List.prefix_refl _, ?_, ?_, ?_⟩
  · rw [ht]
  · rw [ht]
  · rw [ht]
    exact .none

theorem other (ht : Turns b o left) {o' : Outside} {e : Event}
    (he : o'.events = o.events ++ [e]) (hs : o'.sockets = o.sockets)
    (hc : o'.connects = o.connects) (h : ∀ t : Tally, t.step e = t) : Turns b o' left := by
  have hstep := tally_event o' ht.events he
  rw [h] at hstep
  refine ⟨?_, ?_, ?_, ?_⟩
  · rw [he]
    exact ht.events.trans (List.prefix_append _ _)
  · rw [hstep, hs, ht.sockets]
  · rw [hstep, hc, ht.connects]
  · rw [hstep]
    exact ht.inTurn

theorem attempted {ps : List Plug} (h : InTurn ps false) (x : Except Fault Unit) :
    InTurn (ps ++ Plug.ofOutcome x) x.isOk := by
  cases x with
  | ok _ => exact .opened h
  | error f =>
    rw [Plug.ofOutcome, List.append_nil]
    exact h

theorem socket (ht : Turns b o false) (family : String) :
    Turns b (Outside.socket family o).2 (Outside.socket family o).1.isOk := by
  have hstep := tally_event (Outside.socket family o).2 ht.events rfl
  refine ⟨ht.events.trans (List.prefix_append _ _), ?_, ?_, ?_⟩
  · rw [hstep]
    simp only [Tally.step, ht.sockets]
    rfl
  · rw [hstep]
    exact ht.connects
  · rw [hstep]
    simp only [Tally.step, ht.sockets]
    exact attempted ht.inTurn _

theorem connect (ht : Turns b o false) (host port timeout : Value) :
    Turns b (Outside.connect host port timeout o).2 (Outside.connect host port timeout o).1.isOk := by
  have hstep := tally_event (Outside.connect host port timeout o).2 ht.events rfl
  refine ⟨ht.events.trans (List.prefix_append _ _), ?_, ?_, ?_⟩
  · rw [hstep]
    exact ht.sockets
  · rw [hstep]
    simp only [Tally.step, ht.connects]
    rfl
  · rw [hstep]
    simp only [Tally.step, ht.connects]
    exact attempted ht.inTurn _

theorem close (ht : Turns b o true) : Turns b (Outside.close o).2 false := by
  have hstep := tally_event (Outside.close o).2 ht.events rfl
  refine ⟨ht.events.trans (List.prefix_append _ _), ?_, ?_, ?_⟩
  · rw [hstep]
    exact ht.sockets
  · rw [hstep]
    exact ht.connects
  · rw [hstep]
    exact .closed ht.inTurn

theorem logged {w : World} (ht : Turns b w.outside left) (line : LogLine) :
    Turns b (w.logged line).outside left := ⟨ht.events, ht.sockets, ht.connects, ht.inTurn⟩

end Turns

/-! ## Senders -/

def Sender.isOpen : Sender → Bool
  | .udp s => s.isOpen
  | .tcp s => s.isOpen
  | _ => false

/-- Does the sender hold a socket? -/
def World.plugged (w : World) : Bool := w.sender.any Sender.isOpen

/-- A sender at work keeps the sockets in turn, and stays what it is. -/
def wired (b : Outside) : Passage where
  rel w w' := w'.handler = w.handler ∧ w'.settled = w.settled ∧
    (Turns b w.outside w.plugged → Turns b w'.outside w'.plugged)
  refl _ := ⟨rfl, rfl, id⟩
  trans h₁ h₂ := ⟨h₂.1.trans h₁.1, h₂.2.1.trans h₁.2.1, h₂.2.2 ∘ h₁.2.2⟩

variable {b : Outside} {h : Hooks} {w w' : World} {host port : Value}

theorem wired_logged (w : World) (line : LogLine) : (wired b).rel w (w.logged line) :=
  ⟨rfl, rfl, fun ht => ht.logged line⟩

theorem connect_wired {s : TcpSender} (hs : w.sender = some (.tcp s)) (ho : s.isOpen = false)
    (hv : Plain host port) (timeout : Value) {x : Except Fault Unit}
    (hr : (TcpSender.connect h host port timeout).perform w = (x, w')) :
    (wired b).rel w w' ∧ w'.plugged = x.isOk := by
  have hp : w.plugged = false := by
    simp [World.plugged, hs, Sender.isOpen, ho]
  unfold TcpSender.connect at hr
  rw [perform_outward_bind] at hr
  split at hr
  · rename_i hok
    rw [TcpSender.modifyState, perform_modify_bind, perform_note_bind] at hr
    obtain ⟨line, hl⟩ := connectedLine_plain (h := h) hv _
    rw [hl] at hr
    cases hr
    rw [hs]
    refine ⟨⟨rfl, ?_, fun ht => ?_⟩, rfl⟩
    · simp [World.settled, World.logged, World.noted, hs, Sender.settled]
    · rw [hp] at ht
      have hc := ht.connect host port timeout
      rw [hok] at hc
      exact hc.logged (w := { w with outside := (Outside.connect host port timeout w.outside).2 }) line
  · rename_i f hf
    cases hr
    refine ⟨⟨rfl, rfl, fun ht => ?_⟩, hp⟩
    have hq : ({ w with outside := (Outside.connect host port timeout w.outside).2 } : World).plugged
        = false := hp
    rw [hp] at ht
    rw [hq]
    have hc := ht.connect host port timeout
    rw [hf] at hc
    exact hc

theorem drop_wired {s : TcpSender} (hs : w.sender = some (.tcp s)) :
    (wired b).rel w (TcpSender.drop.perform w).2 ∧ (TcpSender.drop.perform w).2.plugged = false := by
  have hp : w.plugged = s.isOpen := by
    simp [World.plugged, hs, Sender.isOpen]
  rw [perform_drop hs]
  cases ho : s.isOpen with
  | true =>
    rw [if_pos rfl]
    refine ⟨⟨rfl, ?_, fun ht => ?_⟩, rfl⟩
    · simp [World.settled, hs, Sender.settled]
    · rw [hp, ho] at ht
      exact ht.close
  | false =>
    rw [if_neg Bool.false_ne_true]
    exact ⟨(wired b).refl w, hp.trans ho⟩

theorem sendAll_wired (w : World) (bytes : Bytes) :
    (wired b).rel w ((outward (Outside.sendAll bytes)).perform w).2 :=
  ⟨rfl, rfl, fun ht => ht.other (e := .sendAll bytes) rfl rfl rfl fun _ => rfl⟩

theorem writeOut_wired {s t : TcpSender} (ht : w.sender = some (.tcp t)) (hv : Plain s.host s.port)
    (bytes : Bytes) : (wired b).rel w ((s.writeOut h bytes).perform w).2 := by
  unfold TcpSender.writeOut
  rw [perform_bind, perform_tcpOpenNow ht]
  cases ho : t.isOpen with
  | true => exact sendAll_wired w bytes
  | false =>
    dsimp only
    rw [Bool.not_false, if_pos rfl, perform_bind]
    cases hr : (TcpSender.connect h s.host s.port s.timeout).perform w with
    | mk x w₁ =>
      obtain ⟨hc, -⟩ := connect_wired (b := b) ht ho hv _ hr
      cases x with
      | error f => exact hc
      | ok _ => exact (wired b).trans hc (sendAll_wired w₁ bytes)

theorem giveUp_wired {s t : TcpSender} (ht : w.sender = some (.tcp t)) (hv : Plain s.host s.port) :
    (wired b).rel w ((s.giveUp h).perform w).2 := by
  unfold TcpSender.giveUp
  obtain ⟨line, hl⟩ := failedLine_plain (h := h) hv w
  rw [perform_bind, hl]
  exact (wired b).trans (wired_logged w line) (drop_wired (w := w.logged line) ht).1

theorem tcpTransmit_wired {s t : TcpSender} (ht : w.sender = some (.tcp t))
    (hv : Plain s.host s.port) (bytes : Bytes) :
    (wired b).rel w ((s.transmit h bytes).perform w).2 := by
  have hw := writeOut_wired (b := b) (h := h) ht hv bytes
  unfold TcpSender.transmit
  rw [perform_attempt_bind]
  split
  · exact hw
  · split
    · obtain ⟨c, o, ht'⟩ := tcp_of_settled ht hw.2.1
      rw [bind_pure_snd, during_snd]
      exact (wired b).trans hw (giveUp_wired ht' hv)
    · exact hw

theorem sendEach_wired {s : UdpSender} (hs : w.sender = some (.udp s)) (address : List Value)
    (ds : List Bytes) : (wired b).rel w ((UdpSender.sendEach address ds).perform w).2 := by
  induction ds generalizing w with
  | nil => exact (wired b).refl w
  | cons d rest ih =>
    have he : (wired b).rel w { w with outside := (Outside.sendTo d address w.outside).2 } :=
      ⟨rfl, rfl, fun ht => ht.other (e := .sendTo d address) rfl rfl rfl fun _ => rfl⟩
    unfold UdpSender.sendEach
    rw [perform_bind, perform_sendDatagram hs]
    by_cases ho : s.isOpen = true
    · rw [if_pos ho, perform_outward]
      cases (Outside.sendTo d address w.outside).1 with
      | error f => exact he
      | ok _ =>
        exact (wired b).trans he
          (ih (w := { w with outside := (Outside.sendTo d address w.outside).2 }) hs)
    · rw [if_neg ho]
      exact (wired b).refl w

theorem udpTransmit_wired {s t : UdpSender} (ht : w.sender = some (.udp t)) (payload : Bytes) :
    (wired b).rel w ((s.transmit h payload).perform w).2 := by
  unfold UdpSender.transmit
  rw [perform_get_bind]
  split
  · rw [bind_pure_snd]
    exact sendEach_wired ht s.address _
  · split
    · rw [bind_pure_snd]
      rw [oversizedLine_number]
      cases intText payload.length with
      | ok text => exact wired_logged w _
      | error f => exact (wired b).refl w
    · exact (wired b).refl w

/-- A sender that is told to close has no socket left, or none that it will try to close again. -/
theorem senderClose_turns (hn : w.Networked) (ht : Turns b w.outside w.plugged) :
    Turns b (Sender.close.perform w).2.outside false := by
  obtain ⟨s, hs, hn⟩ := hn
  unfold Sender.close
  rw [perform_get_bind, hs]
  cases s with
  | udp s =>
    have hp : w.plugged = s.isOpen := by
      simp [World.plugged, hs, Sender.isOpen]
    rw [hp] at ht
    dsimp only
    unfold UdpSender.close
    cases ho : s.isOpen with
    | false =>
      rw [ho] at ht
      exact ht
    | true =>
      rw [ho] at ht
      have hc := ht.close
      rw [if_pos rfl, perform_bind, perform_outward]
      cases (Outside.close w.outside).1 with
      | error f => exact hc
      | ok _ =>
        dsimp only
        rw [UdpSender.setOpen, perform_modify, hs]
        exact hc
  | tcp s =>
    dsimp only
    unfold TcpSender.close
    rw [TcpSender.modifyState, perform_modify_bind, hs]
    obtain ⟨hw, hp⟩ := drop_wired (b := b)
      (w := { w with sender := some (.tcp { s with isClosed := true }) }) rfl
    have hsame : ({ w with sender := some (.tcp { s with isClosed := true }) } : World).plugged =
        w.plugged := by
      simp [World.plugged, hs, Sender.isOpen]
    rw [← hp]
    exact hw.2.2 (by rw [hsame]; exact ht)
  | _ => cases hn

/-! ## Getting a sender -/

/-- A sender was asked for. If it was opened it holds the socket that is open, else there is none. -/
def Plugging (b : Outside) (x : Except Fault Unit) (w' : World) : Prop :=
  Turns b w'.outside (x.isOk && w'.plugged)

theorem tcpMake_plugging (hv : Plain host port) (timeout : Value) (ht : Turns b w.outside false)
    {x : Except Fault Unit} (hr : (TcpSender.make h host port timeout).perform w = (x, w')) :
    Plugging b x w' := by
  unfold TcpSender.make at hr
  rw [perform_modify_bind] at hr
  obtain ⟨⟨-, -, hw⟩, hp⟩ := connect_wired (b := b) rfl rfl hv timeout hr
  have := hw ht
  rw [hp] at this
  rw [Plugging, hp, Bool.and_self]
  exact this

theorem udpMake_plugging (hv : Plain host port) (chunkSize wantsCompression : Value)
    (ht : Turns b w.outside false) {x : Except Fault Unit}
    (hr : (UdpSender.make h host port chunkSize wantsCompression).perform w = (x, w')) :
    Plugging b x w' := by
  unfold UdpSender.make at hr
  rw [perform_ofExcept_bind] at hr
  split at hr
  · rename_i bad _
    cases bad with
    | true =>
      cases hr
      exact ht
    | false =>
      dsimp only at hr
      rw [if_neg Bool.false_ne_true, perform_outward_bind] at hr
      have h₁ : Turns b (Outside.resolve host port w.outside).2 false :=
        ht.other (e := .resolve host port) rfl rfl rfl fun _ => rfl
      split at hr
      · rename_i found _
        cases found with
        | nil =>
          cases hr
          exact h₁
        | cons a rest =>
          dsimp only at hr
          rw [perform_outward_bind] at hr
          have h₂ := h₁.socket a.family
          split at hr
          · rename_i hok
            rw [perform_modify_bind, perform_note_bind] at hr
            obtain ⟨line, hlog⟩ := targetLine_plain (h := h) hv _
            rw [hlog] at hr
            cases hr
            rw [hok] at h₂
            exact ⟨h₂.events, h₂.sockets, h₂.connects, h₂.inTurn⟩
          · rename_i f hf
            cases hr
            rw [hf] at h₂
            exact h₂
      · cases hr
        exact h₁
  · cases hr
    exact ht

theorem openFor_plugging (hv : Plain host port) (timeout : Value) (ht : Turns b w.outside false)
    {x : Except Fault Unit} (hr : (Sender.openFor h host port timeout).perform w = (x, w')) :
    Plugging b x w' := by
  obtain ⟨name, n, rfl, rfl, hn⟩ := hv
  unfold Sender.openFor at hr
  dsimp only at hr
  split at hr
  · exact tcpMake_plugging ⟨_, n, rfl, rfl, hn⟩ _ ht hr
  · exact udpMake_plugging ⟨_, n, rfl, rfl, hn⟩ _ _ ht hr
  · exact udpMake_plugging ⟨_, n, rfl, rfl, hn⟩ _ _ ht hr

namespace Handler

/-! ## The handler between its calls -/

/-- The socket that is open, if there is one, is held by the handler's sender. -/
def holding (w : World) : Bool := w.handler.attached && w.plugged

structure Plugged (b : Outside) (w : World) : Prop where
  networked : Networked w.handler
  released : Closed w → w.handler.attached = false
  sender : w.handler.attached = true → w.Networked
  turns : Turns b w.outside (holding w)

/-- The sender and the handler are as they were, and nothing became of any socket. -/
def still : Passage where
  rel w w' := w'.sender = w.sender ∧ w'.handler = w.handler ∧
    ∀ b left, Turns b w.outside left → Turns b w'.outside left
  refl _ := ⟨rfl, rfl, fun _ _ => id⟩
  trans h₁ h₂ := ⟨h₂.1.trans h₁.1, h₂.2.1.trans h₁.2.1, fun b left => h₂.2.2 b left ∘ h₁.2.2 b left⟩

theorem Plugged.still (hp : Plugged b w) (hs : still.rel w w') : Plugged b w' := by
  obtain ⟨hsender, hhandler, hturns⟩ := hs
  refine ⟨?_, ?_, fun ha => ?_, ?_⟩
  · rw [hhandler]
    exact hp.networked
  · rw [Closed, hhandler]
    exact hp.released
  · rw [hhandler] at ha
    obtain ⟨s, hs, hn⟩ := hp.sender ha
    exact ⟨s, hsender.trans hs, hn⟩
  · have : holding w' = holding w := by
      rw [holding, holding, World.plugged, World.plugged, hhandler, hsender]
    rw [this]
    exact hturns b _ hp.turns

/-- The handler is busy or closed, and nothing becomes of any socket unless the handler is closed on
the way. -/
def calm : Passage := (still.barring Deed.ends).within Deaf

/-- The handler is busy or closed, and unless it is closed on the way its sender keeps the socket that
is open. -/
def sound (b : Outside) : Passage :=
  ((Passage.keeping (Plugged b)).barring Deed.ends).within Deaf

theorem sound_of_calm (w w' : World) (h : calm.rel w w') : (sound b).rel w w' := by
  intro hd
  obtain ⟨hd', ds, hh, hs⟩ := h hd
  exact ⟨hd', ds, hh, fun hc hp => ⟨hp.still (hs hc), trivial⟩⟩

theorem composing_calm : calm.Composing where
  told _ _ _ hd := ⟨hd, Passage.barring_same rfl ⟨rfl, rfl, fun _ _ => id⟩⟩
  escaped _ _ _ hd := ⟨hd, Passage.barring_noted fun _ => ⟨rfl, rfl, fun _ _ => id⟩⟩
  written _ _ hd := ⟨hd, Passage.barring_same rfl ⟨rfl, rfl, fun _ _ => id⟩⟩
  retired w _ _ := by
    -- the end is among what is done, so there is nothing to show
    obtain ⟨ds, hh, ⟨d, hm, he⟩, -⟩ := retire_history w
    refine ⟨.inr (retire_stage w), ds, hh, fun hc => ?_⟩
    rw [hc d hm] at he
    cases he
  closed _ _ hd := ⟨hd, Passage.barring_noted fun h => by cases h⟩
  looked _ hd := ⟨hd, Passage.barring_same rfl ⟨rfl, rfl, fun _ _ ht =>
    ht.other (e := .hostName) rfl rfl rfl fun _ => rfl⟩⟩
  host _ _ hd := ⟨hd, Passage.barring_same rfl ⟨rfl, rfl, fun _ _ => id⟩⟩

theorem along_hooks_calm (n : Nat) (e : Errand) : Along calm (hooks n e) :=
  along_hooks composing_calm.toDiscreet.modest (fun _ _ r => along_handle_deaf (fun _ h => h) r) n e

theorem along_hooks_sound (n : Nat) (e : Errand) : Along (sound b) (hooks n e) :=
  (along_hooks_calm n e).mono sound_of_calm

theorem delivering_sound : (sound b).Delivering where
  told w r hr := sound_of_calm _ _ (composing_calm.told w r hr)
  escaped w r hr := sound_of_calm _ _ (composing_calm.escaped w r hr)
  written w s := sound_of_calm _ _ (composing_calm.written w s)
  retired w hw := sound_of_calm _ _ (composing_calm.retired w hw)
  closed w hw := sound_of_calm _ _ (composing_calm.closed w hw)
  lost _ _ _ hd := ⟨hd, Passage.barring_same rfl fun hp =>
    ⟨hp.still ⟨rfl, rfl, fun _ _ => id⟩, trivial⟩⟩
  unheard _ _ _ hd := ⟨hd, Passage.barring_noted fun _ hp =>
    ⟨hp.still ⟨rfl, rfl, fun _ _ => id⟩, trivial⟩⟩

/-! ## Sending -/

theorem Plugged.wired (hp : Plugged b w) (ha : w.handler.attached = true)
    (hw : (wired b).rel w w') : Plugged b w' := by
  obtain ⟨hhandler, hsettled, hturns⟩ := hw
  have hold : ∀ v : World, v.handler.attached = true → holding v = v.plugged := by
    intro v hv
    rw [holding, hv, Bool.true_and]
  have ha' : w'.handler.attached = true := by
    rw [hhandler]
    exact ha
  refine ⟨?_, ?_, fun _ => networked_of_settled hsettled (hp.sender ha), ?_⟩
  · rw [hhandler]
    exact hp.networked
  · rw [Closed, hhandler]
    exact hp.released
  · have ht := hp.turns
    rw [hold w ha] at ht
    rw [hold w' ha']
    exact hturns ht

/-- What the sender does with a text is all in order, if the handler was not closed while the message
was encoded. -/
theorem encoding_sound {n : Nat} {m : Message} {send : String → Act Value}
    (hsend : ∀ text (v : World), v.sender = w.sender →
      (wired b).rel (v.noted (.encoded text)) ((send text).perform (v.noted (.encoded text))).2)
    (hsteady : ∀ text, Along steady (send text))
    (hd : Deaf w) (hp : Plugged b w) (ha : w.handler.attached = true) :
    ((Passage.keeping (Plugged b)).barring Deed.ends).rel w
      ((words (hooks n) m.encode >>= fun text =>
        note (.encoded text) >>= fun _ => send text).perform w).2 := by
  have hcalm := along_words (along_hooks_calm n) m.encode w hd
  rw [perform_bind]
  cases hr : (words (hooks n) m.encode).perform w with
  | mk x v =>
    rw [hr] at hcalm
    obtain ⟨-, ds, hh, hs⟩ := hcalm
    cases x with
    | error f => exact ⟨ds, hh, fun hc hp => ⟨hp.still (hs hc), trivial⟩⟩
    | ok text =>
      dsimp only
      rw [perform_note_bind]
      obtain ⟨es, hes⟩ := (hsteady text (v.noted (.encoded text))).history
      refine ⟨ds ++ .encoded text :: es, ?_, fun hc _ => ⟨?_, trivial⟩⟩
      · rw [← hes, World.noted_history, hh]
        simp
      · rw [List.forall_mem_append] at hc
        obtain ⟨hsender, hhandler, hturns⟩ := hs hc.1
        have hv : Plugged b (v.noted (.encoded text)) := hp.still ⟨hsender, hhandler, hturns⟩
        have ha' : (v.noted (.encoded text)).handler.attached = true := by
          show v.handler.attached = true
          rw [hhandler]
          exact ha
        exact hv.wired ha' (hsend text v hsender)

theorem handedOver_sound {n : Nat} {m : Message} (hc : ¬ Closed w)
    (ha : w.handler.attached = true) : (sound b).rel w (handedOver (hooks n) m w) := by
  intro hd
  have hbusy := (handedOver_busy n m w).trans (hd.resolve_right hc)
  refine ⟨.inl hbusy, ?_⟩
  have hfull := full_steady.toWire
  have hgrown := hfull.along_send (along_hooks_steady n) m (w.noted (.sending m))
  obtain ⟨es, hes⟩ := hgrown.history
  refine ⟨.sending m :: es ++ [.sent ((Sender.send (hooks n) m).perform (w.noted (.sending m))).1],
    ?_, fun hclean hp => ⟨?_, trivial⟩⟩
  · show _ ++ _ = _
    rw [← hes, World.noted_history]
    simp
  · have hp' : Plugged b (w.noted (.sending m)) := hp.still ⟨rfl, rfl, fun _ _ => id⟩
    obtain ⟨s, hs, hn⟩ := hp.sender ha
    have hs' : (w.noted (.sending m)).sender = some s := hs
    have hsent : ((Passage.keeping (Plugged b)).barring Deed.ends).rel (w.noted (.sending m))
        ((Sender.send (hooks n) m).perform (w.noted (.sending m))).2 := by
      unfold Sender.send
      rw [perform_get_bind, hs']
      cases s with
      | udp s =>
        dsimp only
        unfold UdpSender.send
        split
        · exact Passage.refl _ _
        · refine encoding_sound (fun text v hv => ?_)
            (fun text => hfull.along_udpTransmit (along_hooks_steady n) s _) hd hp' ha
          exact udpTransmit_wired (w := v.noted (.encoded text)) (hv.trans hs') _
      | tcp s =>
        dsimp only
        unfold TcpSender.send
        split
        · exact Passage.refl _ _
        · refine encoding_sound (fun text v hv => ?_)
            (fun text => hfull.along_tcpTransmit (along_hooks_steady n) s _) hd hp' ha
          exact tcpTransmit_wired (w := v.noted (.encoded text)) (hv.trans hs') hn _
      | _ => cases hn
    obtain ⟨ds, hds, hkeep⟩ := hsent
    rw [← hes] at hds
    obtain rfl := List.append_cancel_left hds
    have hpl : Plugged b ((Sender.send (hooks n) m).perform (w.noted (.sending m))).2 := by
      refine (hkeep (fun d hm => ?_) hp').1
      exact hclean d (List.mem_append_left _ (List.mem_cons_of_mem _ hm))
    exact hpl.still ⟨rfl, rfl, fun _ _ => id⟩

/-! ## Getting a sender -/

theorem Plugged.missed (hp : Plugged b w) (ha : w.handler.attached = false) {f : Fault}
    (hd : Dialled w (.error f) w') (hg : Plugging b (.error f) w') : Plugged b w' := by
  have hk : w'.handler = w.handler := hd.handler
  refine ⟨?_, ?_, fun h => ?_, ?_⟩
  · rw [hk]
    exact hp.networked
  · rw [Closed, hk]
    exact hp.released
  · rw [hk, ha] at h
    cases h
  · rw [holding, hk, ha]
    exact hg

theorem Plugged.ready (hp : Plugged b w) (hd : Dialled w (.ok ()) w')
    (hg : Plugging b (.ok ()) w') : Plugged b (w'.turned .ready true) := by
  have hn : Networked w'.handler := by
    rw [hd.handler]
    exact hp.networked
  refine ⟨⟨hn.factory, hn.host, hn.port⟩, fun hc => ?_, fun _ => (hd.opened rfl).1, hg⟩
  cases hc

theorem dialled_history {x : Except Fault Unit} (hd : Dialled w x w') :
    ∃ ds, w'.history = w.history ++ ds ∧ ∀ d ∈ ds, d.ends = false := by
  obtain ⟨k, hk⟩ := hd.history
  refine ⟨_, hk, fun d hm => ?_⟩
  rw [List.eq_of_mem_replicate hm]
  rfl

theorem openByHost_sound {n : Nat} {timeout : Value} (hp : Plugged b w) (hb : Busy w)
    (ha : w.handler.attached = false) (hv : Plain host port) :
    (sound b).rel w ((openByHost (hooks n) host port timeout).perform w).2 := by
  have hw : Plugged b (w.noted .opening) := hp.still ⟨rfl, rfl, fun _ _ => id⟩
  have hopening : (sound b).rel w (w.noted .opening) := fun hd =>
    ⟨hd, Passage.barring_noted fun _ _ => ⟨hw, trivial⟩⟩
  refine (sound b).trans hopening ?_
  unfold openByHost
  rw [perform_note_bind, perform_attempt_bind]
  cases hr : (Sender.openFor (hooks n) host port timeout).perform (w.noted .opening) with
  | mk x v =>
    have hd := openFor_dialled hv timeout hr
    have hturns := hw.turns
    rw [holding, show (w.noted .opening).handler.attached = false from ha, Bool.false_and] at hturns
    have hg := openFor_plugging hv timeout hturns hr
    have hk : v.handler = w.handler := hd.handler
    have hbv : v.handler.emitting = true := by
      rw [hk]
      exact hb
    obtain ⟨ds, hh, -⟩ := dialled_history hd
    cases x with
    | ok _ =>
      refine fun _ => ⟨.inl hbv, ds ++ [.turned .ready true], ?_, fun _ _ => ⟨hw.ready hd hg, trivial⟩⟩
      show _ ++ _ = _
      rw [hh, List.append_assoc]
    | error f =>
      have hm : (sound b).rel (w.noted .opening) v := fun _ =>
        ⟨.inl hbv, ds, hh, fun _ _ => ⟨hw.missed ha hd hg, trivial⟩⟩
      refine (sound b).trans hm ?_
      dsimp only
      refine along_during_words_bind (along_hooks_sound n) (openingReport_yields host port f)
        (fun found hf => ?_) v
      split
      · exact along_bind (delivering_sound.along_report (along_hooks_sound n) (hf _ rfl))
          fun _ => along_pure _
      · exact along_fault _

theorem ensureSender_sound {n : Nat} (hc : ¬ Closed w) :
    (sound b).rel w ((ensureSender (hooks n)).perform w).2 := by
  intro hd
  by_cases hp : Plugged b w
  · unfold ensureSender
    rw [perform_get_bind]
    dsimp only
    cases ha : w.handler.attached with
    | true => exact (sound b).refl w hd
    | false =>
      rw [if_neg Bool.false_ne_true, hp.networked.factory]
      obtain ⟨k, hport, hk⟩ := hp.networked.port
      rcases hp.networked.host with hhost | ⟨name, hhost⟩
      · rw [hhost]
        exact (sound b).refl w hd
      · rw [hhost, hport]
        dsimp only
        split
        · exact openByHost_sound hp (hd.resolve_right hc) ha ⟨name, k, rfl, rfl, hk⟩ hd
        · exact (sound b).refl w hd
  · have hgrown := full_steady.toLoose.along_ensureSender (along_hooks_steady n) w
    have hbusy := broad_busyAsBefore.toLoose.along_ensureSender (along_hooks_busy n) w
    obtain ⟨es, hes⟩ := hgrown.history
    exact ⟨.inl (hbusy.trans (hd.resolve_right hc)), es, hes.symm, fun _ h => absurd h hp⟩

theorem ensureSender_found (hr : (ensureSender h).perform w = (.ok true, w')) :
    (w.handler.attached = true ∧ w' = w) ∨ ∃ v : World, w' = v.turned .ready true := by
  unfold ensureSender at hr
  rw [perform_get_bind] at hr
  dsimp only at hr
  split at hr
  · rename_i ha
    cases hr
    exact .inl ⟨ha, rfl⟩
  · split at hr
    · unfold openByFactory at hr
      rw [perform_note_bind, perform_attempt_bind] at hr
      split at hr
      · cases hr
        exact .inr ⟨_, rfl⟩
      · cases hr
      · split at hr
        · obtain ⟨_, _, -, hr⟩ := bind_ok hr
          cases hr
        · cases hr
    · split at hr
      · unfold openByHost at hr
        rw [perform_note_bind, perform_attempt_bind] at hr
        split at hr
        · cases hr
          exact .inr ⟨_, rfl⟩
        · obtain ⟨found, v, -, hr⟩ := bind_ok hr
          split at hr
          · obtain ⟨_, _, -, hr⟩ := bind_ok hr
            cases hr
          · cases hr
      · cases hr

/-! ## Whole runs -/

theorem along_processReported_sound (n : Nat) (r : Record) :
    Along (sound b) (processReported (hooks n) r) := by
  have hh : ∀ e, Along (sound b) (hooks n e) := along_hooks_sound n
  refine along_processReported ?_ fun f => ?_
  · refine along_get_bind fun w => ?_
    refine along_bind ?_ (fun m v => ?_) w
    · exact (composing_calm.preparing.along_compose (along_hooks_calm n) _).mono sound_of_calm
    · refine delivering_sound.rel_deliver hh (fun hc => ensureSender_sound hc) fun v₁ hc he => ?_
      rcases ensureSender_found he with ⟨ha, rfl⟩ | ⟨u, rfl⟩
      · exact handedOver_sound hc ha
      · exact handedOver_sound (fun hcl => by cases hcl) rfl
  · exact along_report
      (fun _ hd => ⟨hd, Passage.barring_same rfl fun hp =>
        ⟨hp.still ⟨rfl, rfl, fun _ _ => id⟩, trivial⟩⟩)
      (fun _ hd => ⟨hd, Passage.barring_noted fun _ hp =>
        ⟨hp.still ⟨rfl, rfl, fun _ _ => id⟩, trivial⟩⟩)
      delivering_sound.written hh

theorem Plugged.retire (hp : Plugged b w) : Plugged b (Handler.retire.perform w).2 := by
  have hk : (Handler.retire.perform w).2.handler =
      { w.handler with stage := .closed, attached := false } := by
    obtain ⟨o, s, -, hr⟩ := outermost_retire w
    rw [hr, retired]
    split <;> rfl
  refine ⟨?_, fun _ => ?_, fun ha => ?_, ?_⟩
  · rw [hk]
    exact ⟨hp.networked.factory, hp.networked.host, hp.networked.port⟩
  · rw [hk]
  · rw [hk] at ha
    cases ha
  · have hturns := hp.turns
    rw [holding, hk, Bool.false_and, retire_snd, retired]
    cases ha : w.handler.attached with
    | false =>
      rw [holding, ha] at hturns
      exact hturns
    | true =>
      rw [holding, ha, Bool.true_and] at hturns
      rw [if_pos rfl, if_pos rfl]
      exact senderClose_turns (w := (w.turned .closed false).noted .closing) (hp.sender ha) hturns

/-- In a closed handler nothing becomes of any socket. -/
theorem discreet_plugged : (Passage.keeping fun w => Closed w ∧ Plugged b w).Discreet where
  told _ _ _ h := ⟨⟨h.1, h.2.still ⟨rfl, rfl, fun _ _ => id⟩⟩, trivial⟩
  escaped _ _ _ h := ⟨⟨h.1, h.2.still ⟨rfl, rfl, fun _ _ => id⟩⟩, trivial⟩
  written _ _ h := ⟨⟨h.1, h.2.still ⟨rfl, rfl, fun _ _ => id⟩⟩, trivial⟩
  retired _ hc h := absurd h.1 hc
  closed _ _ h := ⟨⟨h.1, h.2.still ⟨rfl, rfl, fun _ _ => id⟩⟩, trivial⟩

theorem close_plugged (n : Nat) (hp : Plugged b w) : Plugged b ((close (hooks n)).perform w).2 := by
  have hh := along_hooks (discreet_plugged (b := b)).modest
    (fun _ _ r => along_handle_deaf (fun _ h => .inr h.1) r) n
  by_cases hc : Closed w
  · rw [perform_close_closed hc]
    exact hp.still ⟨rfl, rfl, fun _ _ => id⟩
  · exact (rel_close_open discreet_plugged.modest hh (along_hooks_closed n) hc
      ⟨retire_stage w, hp.retire⟩).1.2

def Step.isRecord : Step → Bool
  | .handle _ => true
  | _ => false

/-- The handler was not closed while it had to do with a record. -/
def Visit.Uninterrupted (v : Visit) : Prop :=
  v.step.isRecord = true → ∀ d ∈ v.deeds, d.ends = false

instance (v : Visit) : Decidable v.Uninterrupted := inferInstanceAs (Decidable (_ → _))

/-- What a step adds to the history, and what it keeps if the handler is not closed meanwhile. -/
theorem visit_barring (n : Nat) (s : Step) (w : World) :
    ((Passage.keeping (Plugged b)).barring Deed.ends).rel w (visit (hooks n) s w).after := by
  refine visit_along delivering_sound.toDiscreet (fun w _ => ?_) (fun w _ => ?_)
    (along_processReported_sound n) s w
  · exact Passage.barring_same rfl fun hp => ⟨⟨⟨hp.networked.factory, hp.networked.host,
      hp.networked.port⟩, hp.released, hp.sender, hp.turns⟩, trivial⟩
  · obtain ⟨ds, hh, ⟨d, hm, he⟩, -⟩ := retire_history w
    refine ⟨ds, hh, fun hc => ?_⟩
    rw [hc d hm] at he
    cases he

theorem visit_plugged {n : Nat} {s : Step} (hu : (visit (hooks n) s w).Uninterrupted)
    (hp : Plugged b w) : Plugged b (visit (hooks n) s w).after := by
  cases s with
  | flush => exact hp
  | close =>
    rw [visit_close]
    exact close_plugged n hp
  | handle r =>
    obtain ⟨ds, hh, hs⟩ := visit_barring (b := b) n (.handle r) w
    have hdeeds : (visit (hooks n) (.handle r) w).deeds = ds := by
      show (visit (hooks n) (.handle r) w).after.history.drop w.history.length = ds
      rw [hh, List.drop_left]
    refine (hs (fun d hm => hu rfl d ?_) hp).1
    rw [hdeeds]
    exact hm

/-- Since `w`, each socket was closed once before the next one was opened, and just the socket that
the handler's sender holds, if it holds one, was not closed. -/
structure Balanced (w w' : World) : Prop where
  inTurn : InTurn (w.plugs w') (holding w')
  count : (w.plugs w').count .opened = (w.plugs w').count .closing + (holding w').toNat

theorem Plugged.balanced {w₀ : World} (hp : Plugged w₀.outside w) : Balanced w₀ w :=
  ⟨hp.turns.inTurn, hp.turns.inTurn.count⟩

theorem close_closed (n : Nat) (w : World) : Closed ((close (hooks n)).perform w).2 := by
  by_cases hc : Closed w
  · rw [perform_close_closed hc]
    exact hc
  · exact (rel_close_open discreet_closed.modest (along_hooks_closed n) (along_hooks_closed n) hc
      (retire_stage w)).1

theorem close_holding (n : Nat) (hp : Plugged b w) :
    holding (visit (hooks n) .close w).after = false := by
  have hreleased := (close_plugged n hp).released (close_closed n w)
  rw [visit_close, holding, hreleased, Bool.false_and]

theorem visits_plugged {n : Nat} {steps : List Step} (hp : Plugged b w)
    (hu : ∀ v ∈ visits (hooks n) steps w, v.Uninterrupted) {v : Visit}
    (hv : v ∈ visits (hooks n) steps w) : Plugged b v.before ∧ Plugged b v.after := by
  induction steps generalizing w with
  | nil => cases hv
  | cons s rest ih =>
    have hafter := visit_plugged (hu _ List.mem_cons_self) hp
    cases hv with
    | head => exact ⟨hp, hafter⟩
    | tail _ hv => exact ih hafter (fun v hv => hu v (List.mem_cons_of_mem _ hv)) hv

/-- Over every run of a new handler that has its sender for a host, whatever the network does, if the
handler is closed between records only: before and after each call the sockets are in turn, and the
one that is open, if there is one, is the one that the handler's sender holds. When the handler is
closed as many were closed as were opened. -/
theorem socket_balance (hw : Constructed w) (hn : Networked w.handler) (n : Nat)
    (steps : List Step) (hu : ∀ v ∈ visits (hooks n) steps w, v.Uninterrupted) :
    ∀ v ∈ visits (hooks n) steps w, Balanced w v.before ∧ Balanced w v.after ∧
      (v.step = .close → (w.plugs v.after).count .opened = (w.plugs v.after).count .closing) := by
  intro v hv
  have hf := hw.fresh
  have hstart : Plugged w.outside w := by
    refine ⟨hn, fun _ => hf.attached, fun ha => ?_, ?_⟩
    · cases hf.attached.symm.trans ha
    · rw [holding, hf.attached]
      exact .start _
  obtain ⟨hbefore, hafter⟩ := visits_plugged hstart hu hv
  refine ⟨hbefore.balanced, hafter.balanced, fun hs => ?_⟩
  have hnone : holding v.after = false := by
    rw [mem_visits_eq hv, hs]
    exact close_holding n hbefore
  have hcount := hafter.balanced.count
  rw [hnone] at hcount
  exact hcount

/-- A handler over TCP, where the first message cannot be written and the first connection cannot be
closed. -/
def overBrokenTcp : World := started ⟨[]⟩ [("graylog_host", .str "tcp:h")] { World.calm with
  outside := { Outside.calm with
    sendAlls := [.error (.raised (.builtin "BrokenPipeError") [])]
    closes := [.error (.raised (.builtin "OSError") [])] } }

def twoAndClose : List Step :=
  [.handle (.plainly (.str "app") (.str "a")), .handle (.plainly (.str "app") (.str "b")), .close]

theorem socket_balance_broken :
    Constructed overBrokenTcp ∧ Networked overBrokenTcp.handler ∧
      (∀ v ∈ visits (hooks 8) twoAndClose overBrokenTcp, v.Uninterrupted) ∧
      (∀ v ∈ visits (hooks 8) twoAndClose overBrokenTcp, Balanced overBrokenTcp v.after) ∧
      overBrokenTcp.plugs (last (hooks 8) twoAndClose overBrokenTcp) =
        [.opened, .closing, .opened, .closing] := by
  have hw : Constructed overBrokenTcp :=
    started_constructed rfl (by simp [World.calm, Reporter.silent]) rfl
  have hn : Networked overBrokenTcp.handler :=
    ⟨rfl, .inr ⟨"tcp:h", rfl⟩, ⟨12201, rfl, by decide +kernel⟩⟩
  have hu : ∀ v ∈ visits (hooks 8) twoAndClose overBrokenTcp, v.Uninterrupted := by decide +kernel
  exact ⟨hw, hn, hu, fun v hv => (socket_balance hw hn 8 twoAndClose hu v hv).2.1, by decide +kernel⟩

end Handler

end Gelf
