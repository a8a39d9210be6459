import Gelf.Proofs.Ascii
import Gelf.Proofs.Network
import Gelf.Proofs.Reassembly

/-!
# Gelf.Proofs.Datagrams

What a UDP sender that does not compress puts on the network.

* `UdpSender.datagrams_eq`: a payload by itself if it fits, else its chunks.
* `World.posted`: the world after these datagrams were attempted. `sendEach_all`,
  `sendEach_failed`: every list of datagrams is attempted up to the first one that fails.
* `encode_opens`: a payload begins with a brace, so it is not taken for a chunk.
* `uncompressed_law`: which datagrams these are for every length of a payload, and what comes of
  sending them.
-/

namespace Gelf

open Act

/-! ## Which datagrams -/

namespace UdpSender

variable {s : UdpSender} {c : Int} {id payload : Bytes}

theorem datagrams_eq (hc : s.chunkSize.asInt? = some c) (id payload : Bytes) :
    s.datagrams id payload =
      if (payload.length : Int) ≤ c then .ok [payload] else split payload c id := by
  have hleast : s.chunkSize.atLeastInt payload.length =
      .ok (decide ((payload.length : Int) ≤ c)) := by
    unfold Value.atLeastInt Value.compareInt
    rw [hc]
    rcases Int.lt_trichotomy c payload.length with hlt | heq | hgt
    · simp [compare, compareOfLessAndEq, hlt, Int.not_le.mpr hlt]
    · simp [compare, compareOfLessAndEq, heq]
    · have hne : ¬ c = payload.length := by omega
      simp [compare, compareOfLessAndEq, Int.not_lt.mpr (Int.le_of_lt hgt), hne, Int.le_of_lt hgt]
  unfold datagrams
  rw [hleast]
  by_cases hfits : (payload.length : Int) ≤ c
  · simp [hfits]
  · simp [hfits, cut, hc]

end UdpSender

/-- The chunks of a payload under one id: a collector can tell them from other datagrams, put them
in order and get the payload back. -/
structure Chunked (payload id : Bytes) (size : Int) (cs : List Chunk) : Prop where
  few : 2 ≤ cs.length ∧ cs.length ≤ maxChunks
  places : cs.map (·.place.toNat) = List.range cs.length
  alike : ∀ c ∈ cs, c.id = id ∧ c.count.toNat = cs.length
  marked : ∀ c ∈ cs, magic <+: c.toBytes
  small : ∀ c ∈ cs, (c.toBytes.length : Int) ≤ size + headerSize
  bodies : cs.flatMap (·.body) = payload

/-- The float that chunks are counted with is exact enough, and the length can be written out. Only
payloads of 8 PiB in chunks of 64 TiB miss the first of these. -/
structure Measurable (length : Nat) (size : Int) : Prop where
  counted : length < Number.twoTo 53 ∨ size < Number.twoTo 46
  written : length < intLimit

section

variable {size : Int} {payload id : Bytes}

theorem split_chunked (hs : 1 ≤ size) (hid : id.length = 8) (hm : Measurable payload.length size)
    (hlow : size < payload.length) (hhigh : (payload.length : Int) ≤ maxChunks * size) :
    ∃ cs, Chunked payload id size cs ∧ split payload size id = .ok (cs.map Chunk.toBytes) := by
  have h53 : payload.length < Number.twoTo 53 := by
    rcases hm.counted with hl | hsmall
    · exact hl
    · have hmany : (maxChunks : Int) * Number.twoTo 46 = Number.twoTo 53 := by decide
      have hpos : (0 : Int) < maxChunks := by decide
      have := Int.mul_lt_mul_of_pos_left hsmall hpos
      omega
  let p : Parcel := ⟨payload, id⟩
  have hp : p.Fit := ⟨hid, h53⟩
  have hcount : p.count size ≤ maxChunks := (Parcel.count_le_iff hp hs).mpr hhigh
  have htwo : ¬ p.count size ≤ 1 := by
    intro hone
    have h := (chunkCount_le_iff hs hp.payload (Nat.le_refl 1)).mp hone
    have hlen : (payload.length : Int) ≤ (1 : Nat) * size := h
    omega
  have hlength : (p.cut size).length = p.count size := by simp [Parcel.cut]
  refine ⟨p.cut size, ⟨by omega, ?_, ?_, ?_, ?_, Parcel.cut_bodies hp hs⟩, ?_⟩
  · rw [Parcel.cut_places hcount, hlength]
  · intro c hc
    have hpiece := Parcel.piece_of_mem hs hcount hc
    exact ⟨hpiece.id, by rw [hpiece.count, hlength]⟩
  · intro c _
    simp [Chunk.toBytes]
  · intro c hc
    have hpiece := Parcel.piece_of_mem hs hcount hc
    have hbody := hpiece.body
    have hcid : c.id.length = 8 := by rw [hpiece.id]; exact hid
    simp only [Chunk.toBytes, magic, headerSize, List.length_append, List.length_cons,
      List.length_nil, hcid]
    omega
  · rw [Parcel.split_eq hp hs, if_neg (by omega)]

theorem split_refused (hs : 1 ≤ size) (hid : id.length = 8) (hm : Measurable payload.length size)
    (h : maxChunks * size < payload.length) :
    ∃ f, split payload size id = .error f ∧ f.isA "ValueError" = true := by
  have hcount : maxChunks < chunkCount payload.length size := by
    rcases hm.counted with hl | hsmall
    · have hle := chunkCount_le_iff (n := maxChunks) hs hl (by decide)
      omega
    · exact maxChunks_lt_chunkCount hs hsmall h
  have hid : ¬ id.length ≠ 8 := not_not.mpr hid
  have hsize : ¬ size = 0 := by omega
  refine ⟨(Defect.tooManyChunks (chunkCount payload.length size)).toFault, ?_, rfl⟩
  unfold split chunks
  rw [if_neg hid, if_neg hsize]
  dsimp only
  rw [if_pos hcount]
  rfl

end

/-! ## Sending them -/

/-- The next `n` datagrams will be taken. -/
def Outside.Takes (o : Outside) (n : Nat) : Prop := ∀ i < n, ∀ f, o.sendTos[i]? ≠ some (.error f)

/-- These datagrams were attempted, and nothing else was done. -/
def World.posted (w : World) (address : List Value) (ds : List Bytes) : World :=
  { w with outside := { w.outside with
      events := w.outside.events ++ ds.map (Event.sendTo · address)
      sendTos := w.outside.sendTos.drop ds.length } }

section

variable {w : World} {s : UdpSender} {address : List Value}

theorem posted_nil : w.posted address [] = w := by
  simp [World.posted]

theorem posted_cons (d : Bytes) (ds : List Bytes) :
    (w.posted address [d]).posted address ds = w.posted address (d :: ds) := by
  simp [World.posted]

theorem perform_sendTo (d : Bytes) : (outward (Outside.sendTo d address)).perform w =
    ((w.outside.sendTos[0]?).getD (.ok ()), w.posted address [d]) := by
  rw [perform_outward]
  unfold Outside.sendTo Outside.next Outside.note World.posted
  cases w.outside.sendTos with
  | nil => rfl
  | cons x rest => rfl

theorem takes_first {o : Outside} {n : Nat} (h : o.Takes (n + 1)) :
    (o.sendTos[0]?).getD (.ok ()) = .ok () := by
  cases hx : o.sendTos[0]? with
  | none => rfl
  | some x =>
    cases x with
    | ok _ => rfl
    | error f => exact absurd hx (h 0 (Nat.succ_pos n) f)

theorem takes_posted {n : Nat} {d : Bytes} (h : w.outside.Takes (n + 1)) :
    (w.posted address [d]).outside.Takes n := by
  intro i hi f hf
  apply h (i + 1) (by omega) f
  simpa [World.posted, Nat.add_comm] using hf

/-- By induction on the datagrams: the socket takes one after another. -/
theorem sendEach_all (hs : w.sender = some (.udp s)) (ho : s.isOpen = true) {ds : List Bytes}
    (h : w.outside.Takes ds.length) :
    (UdpSender.sendEach address ds).perform w = (.ok (), w.posted address ds) := by
  induction ds generalizing w with
  | nil =>
    rw [posted_nil]
    rfl
  | cons d rest ih =>
    unfold UdpSender.sendEach
    rw [perform_bind, perform_sendDatagram hs, if_pos ho, perform_sendTo, takes_first h]
    dsimp only
    rw [ih (w := w.posted address [d]) hs (takes_posted h), posted_cons]

/-- By induction on the datagrams: none is attempted after the one that fails. -/
theorem sendEach_failed (hs : w.sender = some (.udp s)) (ho : s.isOpen = true) {ds : List Bytes}
    {k : Nat} {f : Fault} (hk : k < ds.length) (h : w.outside.Takes k)
    (hf : w.outside.sendTos[k]? = some (.error f)) :
    (UdpSender.sendEach address ds).perform w = (.error f, w.posted address (ds.take (k + 1))) := by
  induction ds generalizing w k with
  | nil => cases hk
  | cons d rest ih =>
    unfold UdpSender.sendEach
    rw [perform_bind, perform_sendDatagram hs, if_pos ho, perform_sendTo]
    cases k with
    | zero =>
      rw [hf]
      simp
    | succ k =>
      have hlater : (w.posted address [d]).outside.sendTos[k]? = some (.error f) := by
        simpa [World.posted, Nat.add_comm] using hf
      rw [takes_first h]
      dsimp only
      rw [ih (w := w.posted address [d]) hs (Nat.lt_of_succ_lt_succ hk) (takes_posted h) hlater,
        posted_cons]
      rfl

end

/-- In the world `w₁` these datagrams are sent, and the answer is yes; or one of them fails, those
after it are not attempted, and the failure is what comes of it. Besides this nothing changes: the
sender is the same as it was, with its socket. -/
structure Sends (address : List Value) (ds : List Bytes) (w₁ : World)
    (outcome : Except Fault Value × World) : Prop where
  all : w₁.outside.Takes ds.length → outcome = (.ok (.bool true), w₁.posted address ds)
  upTo : ∀ k f, k < ds.length → w₁.outside.Takes k → w₁.outside.sendTos[k]? = some (.error f) →
    outcome = (.error f, w₁.posted address (ds.take (k + 1)))

section

variable {h : Hooks} {w : World} {s : UdpSender}

theorem transmit_sends (hs : w.sender = some (.udp s)) (ho : s.isOpen = true) {payload : Bytes}
    {ds : List Bytes} (hd : s.datagrams w.outside.messageId payload = .ok ds) :
    Sends s.address ds w ((s.transmit h payload).perform w) := by
  have htransmit : (s.transmit h payload).perform w =
      (UdpSender.sendEach s.address ds >>= fun _ => pure (Value.bool true)).perform w := by
    unfold UdpSender.transmit
    rw [perform_get_bind, hd]
  rw [htransmit, perform_bind]
  constructor
  · intro hall
    rw [sendEach_all hs ho hall]
    rfl
  · intro k f hk hbefore hf
    rw [sendEach_failed hs ho hk hbefore hf]

theorem transmit_refused {payload : Bytes} {f : Fault}
    (hd : s.datagrams w.outside.messageId payload = .error f) (hf : f.isA "ValueError" = true)
    (hl : payload.length < intLimit) :
    ∃ line, (s.transmit h payload).perform w = (.ok (.bool false), w.logged line) := by
  unfold UdpSender.transmit
  rw [perform_get_bind, hd]
  dsimp only
  rw [if_pos hf, perform_bind, oversizedLine_number, intText, Int.natAbs_natCast, if_pos hl]
  exact ⟨_, rfl⟩

theorem transmit_law {size : Int} {payload : Bytes} (hs : w.sender = some (.udp s))
    (ho : s.isOpen = true) (hc : s.chunkSize.asInt? = some size) (hsize : 1 ≤ size)
    (hid : w.outside.messageId.length = 8) (hm : Measurable payload.length size) :
    ((payload.length : Int) ≤ size →
      Sends s.address [payload] w ((s.transmit h payload).perform w)) ∧
    (size < payload.length → (payload.length : Int) ≤ maxChunks * size →
      ∃ cs, Chunked payload w.outside.messageId size cs ∧
        Sends s.address (cs.map Chunk.toBytes) w ((s.transmit h payload).perform w)) ∧
    (maxChunks * size < payload.length →
      ∃ line, (s.transmit h payload).perform w = (.ok (.bool false), w.logged line)) := by
  have hdatagrams := UdpSender.datagrams_eq hc w.outside.messageId payload
  refine ⟨fun hfits => ?_, fun hlow hhigh => ?_, fun hlong => ?_⟩
  · rw [if_pos hfits] at hdatagrams
    exact transmit_sends hs ho hdatagrams
  · obtain ⟨cs, hcs, hsplit⟩ := split_chunked hsize hid hm hlow hhigh
    rw [if_neg (by omega), hsplit] at hdatagrams
    exact ⟨cs, hcs, transmit_sends hs ho hdatagrams⟩
  · obtain ⟨f, hsplit, hf⟩ := split_refused hsize hid hm hlong
    have hnot : ¬ (payload.length : Int) ≤ size := by
      have hmax : (maxChunks : Int) = 128 := rfl
      rw [hmax] at hlong
      omega
    rw [if_neg hnot, hsplit] at hdatagrams
    exact transmit_refused hdatagrams hf hm.written

end

/-! ## A message -/

theorem encode_opens (m : Message) :
    m.encode.Yields fun text => ∃ rest, text.toList = '\x7b' :: rest := by
  refine Script.yields_bind (Script.yields_any _) fun members _ => ?_
  rw [Named.toValue, Json.write]
  refine Script.yields_bind (Script.yields_any _) fun ms _ => ?_
  exact ⟨(Text.joined "," ms ++ "\x7d").toList, by simp⟩

theorem not_magic {text : String} (h : ∃ rest, text.toList = '\x7b' :: rest) :
    ¬ magic <+: text.toUTF8.toList := by
  obtain ⟨rest, ht⟩ := h
  have hbrace : String.utf8EncodeChar '\x7b' = [0x7b] := by decide
  rw [toUTF8_toList, ht, List.flatMap_cons, hbrace]
  rintro ⟨more, hm⟩
  have hfirst : (0x1e : UInt8) = 0x7b := (List.cons.inj hm).1
  exact absurd hfirst (by decide)

def greeting : Message := ⟨.str "hello", .null, .int 0, .int 6, .null, .null, .dict []⟩

def greetingText : String :=
  "\x7b\"version\":\"1.1\",\"short_message\":\"hello\",\"full_message\":null,\"timestamp\":0.0,\"level\":6\x7d"

/-- A sender of small datagrams. -/
def sparing : UdpSender := ⟨.str "h", .int 1, .int 16, .bool false, [], true⟩

/-- Its second datagram will be lost. -/
def lossy : World :=
  { World.calm with
    sender := some (.udp sparing)
    outside := { Outside.calm with
      sendTos := [.ok (), .error (.raised (.builtin "OSError") [])] } }

theorem greeting_words :
    (words idle greeting.encode).perform lossy = (.ok greetingText, lossy) := by
  have htext : ((words idle greeting.encode).perform lossy).1.toOption = some greetingText := by
    decide +kernel
  have hsame : ((words idle greeting.encode).perform lossy).2 = lossy :=
    along_words (P := ⟨fun w w' => w' = w, fun _ => rfl, fun h₁ h₂ => h₂.trans h₁⟩)
      (fun _ => along_pure _) _ lossy
  refine Prod.ext ?_ hsame
  revert htext
  cases ((words idle greeting.encode).perform lossy).1 with
  | ok text => exact fun ht => congrArg _ (Option.some.inj ht)
  | error f => nofun

end Gelf
