/-
The packet batches between the wintun ring and the SDK (`PacketPump.cpp`).

Outbound, `OutboundLoop` gathers up to 64 packets of the ring into one byte string, each
behind its length in two bytes, and hands the string to the SDK with its size as a signed
32-bit number.  Inbound, the receive callback walks such a string.  The walk subtracts in
`size_t`, reads the string byte by byte (`bytes[i]?`, so that a read outside it would show),
and counts a packet before it looks whether the adapter is still there.

`walk_eq` says what the walk delivers of any string, the frames of its longest prefix of
complete frames, and `drain_eq` what the drain of a ring sends.
-/
import UrnetworkWindows.Lib.Frames

namespace UrnetworkWindows.Pump

open Lib

/-! ### The two bytes of a length -/

/-- The two bytes `OutboundLoop` puts before a packet. -/
def packetHeader (packetByteCount : UInt16) : List UInt8 :=
  [(packetByteCount >>> 8).toUInt8, packetByteCount.toUInt8]

/-- The length the receive callback reads from two bytes. -/
def packetByteCount (hi lo : UInt8) : ℕ := hi.toNat <<< 8 ||| lo.toNat

lemma packetByteCount_eq (hi lo : UInt8) : packetByteCount hi lo = hi.toNat * 256 + lo.toNat := by
  have hlt : lo.toNat < 2 ^ 8 := lo.toNat_lt
  rw [packetByteCount, ← Nat.shiftLeft_add_eq_or_of_lt hlt, Nat.shiftLeft_eq]

lemma packetHeader_ofNat {n : ℕ} (h : n < 2 ^ 16) :
    packetHeader (.ofNat n) = [.ofNat (n / 256), .ofNat (n % 256)] := by
  have hn : (UInt16.ofNat n).toNat = n := UInt16.toNat_ofNat_of_lt' h
  simp only [packetHeader, List.cons.injEq, and_true]
  constructor
  · apply UInt8.toNat_inj.1
    simp [hn, Nat.shiftRight_eq_div_pow]
  · apply UInt8.toNat_inj.1
    simp

/-- The framing of a batch: lengths in two bytes, the high one first, and no length of
zero. -/
def framing : LengthCode UInt8 where
  width := 2
  valid := fun n => n ≠ 0 ∧ n < 2 ^ 16
  write := fun n => packetHeader (.ofNat n)
  read := fun h => packetByteCount (h.getD 0 0) (h.getD 1 0)
  width_pos := Nat.two_pos
  length_write := fun _ => rfl
  read_write := by
    rintro n ⟨-, hn⟩
    rw [packetHeader_ofNat hn]
    simp only [List.getD_cons_zero, List.getD_cons_succ, packetByteCount_eq, UInt8.toNat_ofNat']
    omega
  write_read := by
    intro h hh
    obtain ⟨hi, lo, rfl⟩ := List.length_eq_two.1 hh
    have hhi : hi.toNat < 256 := hi.toNat_lt
    have hlo : lo.toNat < 256 := lo.toNat_lt
    simp only [List.getD_cons_zero, List.getD_cons_succ, packetByteCount_eq]
    rw [packetHeader_ofNat (by omega)]
    have hdiv : (hi.toNat * 256 + lo.toNat) / 256 = hi.toNat := by omega
    have hmod : (hi.toNat * 256 + lo.toNat) % 256 = lo.toNat := by omega
    rw [hdiv, hmod, UInt8.ofNat_toNat, UInt8.ofNat_toNat]

lemma packetByteCount_lt (hi lo : UInt8) : packetByteCount hi lo < 2 ^ 16 := by
  have hhi : hi.toNat < 256 := hi.toNat_lt
  have hlo : lo.toNat < 256 := lo.toNat_lt
  rw [packetByteCount_eq]
  omega

/-! ### The receive callback -/

/-- A difference of two `size_t`. -/
def sizeSub (a b : ℕ) : ℕ := (a + 2 ^ 64 - b) % 2 ^ 64

/-- A sum of two `size_t`. -/
def sizeAdd (a b : ℕ) : ℕ := (a + b) % 2 ^ 64

lemma sizeSub_of_le {a b : ℕ} (hb : b ≤ a) (ha : a < 2 ^ 64) : sizeSub a b = a - b := by
  rw [sizeSub]
  omega

lemma sizeAdd_of_lt {a b : ℕ} (h : a + b < 2 ^ 64) : sizeAdd a b = a + b := by
  rw [sizeAdd]
  omega

/-- What the callback writes: the packets the adapter is given, and `counters->inbound`. -/
structure Received where
  sent : List (List UInt8)
  inbound : BitVec 64
deriving DecidableEq

/-- Packets that come in, with an adapter behind the gate or without one. -/
def Received.receive (r : Received) (adapter : Bool) (packets : List (List UInt8)) : Received where
  sent := if adapter then r.sent ++ packets else r.sent
  inbound := r.inbound + BitVec.ofNat 64 packets.length

/-- How the walk of a batch ends. -/
inductive Walk
  | done (r : Received)
  /-- A byte outside the batch was read. -/
  | outside
  /-- It goes on. -/
  | running
deriving DecidableEq

/-- The loop of the receive callback. -/
def walk (adapter : Bool) (bytes : List UInt8) (byteCount : ℕ) : ℕ → ℕ → Received → Walk
  | 0, _, _ => .running
  | fuel + 1, offset, r =>
      if 2 ≤ sizeSub byteCount offset then
        match bytes[offset]?, bytes[sizeAdd offset 1]? with
        | some hi, some lo =>
            let count := packetByteCount hi lo
            let offset := sizeAdd offset 2
            if count = 0 ∨ sizeSub byteCount offset < count then .done r
            -- the adapter copies the whole span
            else if bytes.length < offset + count then .outside
            else walk adapter bytes byteCount fuel (sizeAdd offset count)
              (r.receive adapter [(bytes.drop offset).take count])
        | _, _ => .outside
      else .done r

/-- The receive callback: the bytes it is given, null or not, and their number as an
`int32_t`. -/
def receiveBatch (adapter : Bool) (packetBatchBytes : Option (List UInt8))
    (packetBatchByteCount : ℤ) (r : Received) : Walk :=
  match packetBatchBytes with
  | none => .done r
  | some bytes =>
      if packetBatchByteCount ≤ 0 then .done r
      else walk adapter bytes packetBatchByteCount.toNat (packetBatchByteCount.toNat + 1) 0 r

@[simp] lemma Received.receive_nil (r : Received) (adapter : Bool) :
    r.receive adapter [] = r := by
  cases adapter <;> simp [Received.receive]

lemma Received.receive_append (r : Received) (adapter : Bool) (ps qs : List (List UInt8)) :
    (r.receive adapter ps).receive adapter qs = r.receive adapter (ps ++ qs) := by
  cases adapter <;> simp [Received.receive, BitVec.ofNat_add, BitVec.add_assoc]

/-- What the walk does of the rest of a batch: it ends, inside the batch, and what it
delivers and counts are the frames of the longest prefix of complete frames. -/
lemma walk_eq (adapter : Bool) {bytes : List UInt8} (hlen : bytes.length < 2 ^ 63) :
    ∀ (fuel offset : ℕ) (r : Received), offset ≤ bytes.length → bytes.length - offset < fuel →
      ∃ ps, framing.Longest (bytes.drop offset) ps ∧
        walk adapter bytes bytes.length fuel offset r = .done (r.receive adapter ps) := by
  intro fuel
  induction fuel with
  | zero =>
    intro offset r _ hfuel
    omega
  | succ fuel ih =>
    intro offset r hoffset hfuel
    rw [walk, sizeSub_of_le hoffset (by omega)]
    by_cases htwo : 2 ≤ bytes.length - offset
    · have hhi : offset < bytes.length := by omega
      have hlo : offset + 1 < bytes.length := by omega
      have hsplit : bytes.drop offset =
          [bytes[offset], bytes[offset + 1]] ++ bytes.drop (offset + 2) := by
        rw [List.drop_eq_getElem_cons hhi, List.drop_eq_getElem_cons hlo]
        rfl
      rw [if_pos htwo, sizeAdd_of_lt (by omega), sizeAdd_of_lt (by omega),
        List.getElem?_eq_getElem hhi, List.getElem?_eq_getElem hlo]
      simp only []
      rw [sizeSub_of_le (by omega) (by omega), hsplit]
      generalize hhead : [bytes[offset], bytes[offset + 1]] = head
      have hwidth : head.length = framing.width := by rw [← hhead]; rfl
      have hread : framing.read head = packetByteCount bytes[offset] bytes[offset + 1] := by
        rw [← hhead]
        rfl
      have hrest : (bytes.drop (offset + 2)).length = bytes.length - (offset + 2) :=
        List.length_drop
      have hlt : framing.read head < 2 ^ 16 := hread ▸ packetByteCount_lt _ _
      rw [← hread]
      by_cases hstop : framing.read head = 0 ∨ bytes.length - (offset + 2) < framing.read head
      · rw [if_pos hstop]
        refine ⟨[], .nil (LengthCode.stuck_of_read hwidth ?_), by rw [Received.receive_nil]⟩
        rw [hrest]
        exact hstop.imp_left fun hzero hvalid => hvalid.1 hzero
      · obtain ⟨hpos, hle⟩ := not_or.1 hstop
        rw [← hrest, not_lt] at hle
        obtain ⟨hfits, hframe⟩ := LengthCode.frame_take hwidth ⟨hpos, hlt⟩ hle
        rw [if_neg hstop, if_neg (by omega), sizeAdd_of_lt (by omega)]
        generalize (bytes.drop (offset + 2)).take (framing.read head) = packet at hfits hframe ⊢
        obtain ⟨ps, hps, hwalk⟩ := ih (offset + 2 + framing.read head)
          (r.receive adapter [packet]) (by omega) (by omega)
        rw [← List.drop_drop] at hps
        refine ⟨packet :: ps, ?_, ?_⟩
        · rw [hframe]
          exact .cons hfits hps
        · rw [hwalk, Received.receive_append, List.singleton_append]
    · rw [if_neg htwo]
      refine ⟨[], .nil (LengthCode.stuck_of_length_lt ?_), by rw [Received.receive_nil]⟩
      rw [List.length_drop]
      show bytes.length - offset < 2
      omega

theorem receiveBatch_eq (adapter : Bool) {bytes : List UInt8} (hlen : bytes.length < 2 ^ 31)
    (r : Received) : ∃ ps, framing.Longest bytes ps ∧
      receiveBatch adapter (some bytes) bytes.length r = .done (r.receive adapter ps) := by
  cases bytes with
  | nil => exact ⟨[], .nil LengthCode.stuck_nil, by simp [receiveBatch]⟩
  | cons b bytes =>
    have hpos : ¬ ((b :: bytes).length : ℤ) ≤ 0 := by simp
    obtain ⟨ps, hps, hwalk⟩ := walk_eq adapter (show (b :: bytes).length < 2 ^ 63 by omega)
      ((b :: bytes).length + 1) 0 r (Nat.zero_le _) (by omega)
    refine ⟨ps, hps, ?_⟩
    simp only [receiveBatch, if_neg hpos, Int.toNat_natCast]
    exact hwalk

/-! ### The outbound loop -/

/-- `kMaxPacketCount`. -/
def kMaxPacketCount : ℕ := 64

/-- What goes into a batch for a packet of at most `UINT16_MAX` bytes. -/
def encodePacket (packet : List UInt8) : List UInt8 :=
  packetHeader (.ofNat packet.length) ++ packet

/-- One batch being gathered, and the packets given back to the ring. -/
structure Gathered where
  packetBatchBytes : List UInt8
  packetCount : ℕ
  released : List (List UInt8)
deriving DecidableEq

/-- The gather loop.  The ring is what `Receive` returns, call after call, an empty packet
for an empty ring. -/
def gather : List (List UInt8) → Gathered → Gathered × List (List UInt8)
  | [], g => (g, [])
  | packet :: ring, g =>
      if g.packetCount < kMaxPacketCount then
        if packet.isEmpty then (g, ring)
        else if packet.length ≤ 65535 then
          gather ring ⟨g.packetBatchBytes ++ encodePacket packet, g.packetCount + 1,
            g.released ++ [packet]⟩
        else gather ring { g with released := g.released ++ [packet] }
      else (g, packet :: ring)

/-- `static_cast<int32_t>` of a size. -/
def int32OfSize (n : ℕ) : ℤ := (BitVec.ofNat 32 n).toInt

/-- What the outbound thread has handed to the SDK, `counters_->outbound`, and how often it
has read `running_`. -/
structure Outbound where
  sent : List (List UInt8 × ℤ)
  outbound : BitVec 64
  reads : ℕ
deriving DecidableEq

/-- The drain loop: batches until the ring is empty or `running_` reads false.  It returns
what is left in the ring. -/
def drain (running : ℕ → Bool) : ℕ → List (List UInt8) → Outbound →
    Option (Outbound × List (List UInt8))
  | 0, _, _ => none
  | fuel + 1, ring, o =>
      let read : Outbound := { o with reads := o.reads + 1 }
      if running o.reads then
        let (g, ring) := gather ring ⟨[], 0, []⟩
        if g.packetBatchBytes.isEmpty then some (read, ring)
        else drain running fuel ring
          { read with
            sent := o.sent ++ [(g.packetBatchBytes, int32OfSize g.packetBatchBytes.length)]
            outbound := o.outbound + BitVec.ofNat 64 g.packetCount }
      else some (read, ring)

/-- The packets that go into a batch. -/
def Framed (packet : List UInt8) : Prop := 1 ≤ packet.length ∧ packet.length ≤ 65535

instance : DecidablePred Framed := fun _ => inferInstanceAs (Decidable (_ ∧ _))

lemma encodePacket_eq (packet : List UInt8) : encodePacket packet = framing.frame packet := rfl

lemma Framed.fits {packet : List UInt8} (h : Framed packet) : framing.Fits packet :=
  ⟨Nat.one_le_iff_ne_zero.1 h.1, Nat.lt_succ_of_le h.2⟩

lemma Framed.isEmpty {packet : List UInt8} (h : Framed packet) : packet.isEmpty = false := by
  cases packet with
  | nil => exact absurd h.1 (by simp)
  | cons b packet => rfl

lemma int32OfSize_of_lt {n : ℕ} (h : n < 2 ^ 31) : int32OfSize n = n := by
  rw [int32OfSize, BitVec.toInt_ofNat', Int.bmod]
  omega

/-- What a batch holds while it is gathered. -/
structure Gathered.Holds (g : Gathered) (packets : List (List UInt8)) : Prop where
  framed : ∀ p ∈ packets, Framed p
  bytes : g.packetBatchBytes = framing.encode packets
  count : g.packetCount = packets.length
  le : packets.length ≤ kMaxPacketCount

lemma Gathered.Holds.add {g : Gathered} {packets : List (List UInt8)} (h : g.Holds packets)
    {packet : List UInt8} (hpacket : Framed packet) (hroom : g.packetCount < kMaxPacketCount) :
    Gathered.Holds ⟨g.packetBatchBytes ++ encodePacket packet, g.packetCount + 1,
      g.released ++ [packet]⟩ (packets ++ [packet]) := by
  refine ⟨fun p hp => ?_, ?_, ?_, ?_⟩
  · rcases List.mem_append.1 hp with hp | hp
    · exact h.framed p hp
    · rw [List.mem_singleton.1 hp]
      exact hpacket
  · show g.packetBatchBytes ++ encodePacket packet = _
    rw [h.bytes, encodePacket_eq, LengthCode.encode_append]
    simp
  · show g.packetCount + 1 = _
    rw [h.count, List.length_append, List.length_singleton]
  · rw [List.length_append, List.length_singleton, ← h.count]
    exact hroom

/-- A gather takes packets from the front of the ring: those of 1 to 65535 bytes go into the
batch, in order, and there is room for all of them. -/
lemma gather_holds {ring : List (List UInt8)} {g : Gathered} {packets : List (List UInt8)}
    (h : g.Holds packets) :
    ∃ taken, taken <+: ring ∧
      (gather ring g).1.Holds (packets ++ taken.filter fun p => Framed p) := by
  induction ring generalizing g packets with
  | nil => exact ⟨[], List.prefix_rfl, by simpa [gather] using h⟩
  | cons packet ring ih =>
    have hstop : ∃ taken, taken <+: packet :: ring ∧
        g.Holds (packets ++ taken.filter fun p => Framed p) :=
      ⟨[], List.nil_prefix, by simpa using h⟩
    rw [gather]
    by_cases hroom : g.packetCount < kMaxPacketCount
    · rw [if_pos hroom]
      by_cases hempty : packet.isEmpty
      · rw [if_pos hempty]
        exact hstop
      · rw [if_neg hempty]
        by_cases hsize : packet.length ≤ 65535
        · rw [if_pos hsize]
          have hpacket : Framed packet := by
            refine ⟨?_, hsize⟩
            cases packet with
            | nil => exact absurd rfl hempty
            | cons b packet => simp
          obtain ⟨taken, hpre, htaken⟩ := ih (h.add hpacket hroom)
          refine ⟨packet :: taken, (List.prefix_cons_inj packet).2 hpre, ?_⟩
          rw [List.filter_cons_of_pos (by simpa using hpacket), List.append_cons packets]
          exact htaken
        · rw [if_neg hsize]
          obtain ⟨taken, hpre, htaken⟩ :=
            @ih { g with released := g.released ++ [packet] } packets
              ⟨h.framed, h.bytes, h.count, h.le⟩
          refine ⟨packet :: taken, (List.prefix_cons_inj packet).2 hpre, ?_⟩
          rw [List.filter_cons_of_neg (by simpa using fun hp : Framed packet => hsize hp.2)]
          exact htaken
    · rw [if_neg hroom]
      exact hstop

lemma length_encode_le {packets : List (List UInt8)} (h : ∀ p ∈ packets, Framed p) :
    (framing.encode packets).length ≤ packets.length * 65537 := by
  induction packets with
  | nil => simp
  | cons p packets ih =>
    have hp := (h p (by simp)).2
    have hrest := ih fun q hq => h q (by simp [hq])
    have hwidth : framing.width = 2 := rfl
    rw [LengthCode.encode_cons, List.length_append, LengthCode.length_frame, List.length_cons]
    omega

lemma Gathered.Holds.length_lt {g : Gathered} {packets : List (List UInt8)}
    (h : g.Holds packets) : g.packetBatchBytes.length < 2 ^ 31 := by
  have hle := length_encode_le h.framed
  have hcount : packets.length ≤ 64 := h.le
  rw [h.bytes]
  omega

lemma gather_framed {ring : List (List UInt8)} (hring : ∀ p ∈ ring, Framed p) (g : Gathered) :
    gather ring g =
      (⟨g.packetBatchBytes ++ framing.encode (ring.take (kMaxPacketCount - g.packetCount)),
        g.packetCount + (ring.take (kMaxPacketCount - g.packetCount)).length,
        g.released ++ ring.take (kMaxPacketCount - g.packetCount)⟩,
      ring.drop (kMaxPacketCount - g.packetCount)) := by
  induction ring generalizing g with
  | nil => simp [gather]
  | cons packet ring ih =>
    have hpacket := hring packet (by simp)
    have hring' : ∀ p ∈ ring, Framed p := fun p hp => hring p (by simp [hp])
    rw [gather]
    by_cases hroom : g.packetCount < kMaxPacketCount
    · obtain ⟨k, hk⟩ : ∃ k, kMaxPacketCount - g.packetCount = k + 1 :=
        ⟨kMaxPacketCount - g.packetCount - 1, by omega⟩
      have hk' : kMaxPacketCount - (g.packetCount + 1) = k := by omega
      rw [if_pos hroom, hpacket.isEmpty, if_neg (by simp), if_pos hpacket.2, ih hring', hk]
      simp only [hk', List.take_succ_cons, List.drop_succ_cons, LengthCode.encode_cons,
        encodePacket_eq, List.append_assoc, List.length_cons, List.cons_append, List.nil_append]
      rw [Nat.add_assoc, Nat.add_comm 1]
    · have hzero : kMaxPacketCount - g.packetCount = 0 := by omega
      rw [if_neg hroom, hzero]
      simp

/-! ### From the ring to the adapter -/

/-- A batch of packets as the SDK is given it. -/
def batchOf (packets : List (List UInt8)) : List UInt8 × ℤ :=
  (framing.encode packets, (framing.encode packets).length)

/-- What a drain sends and what it leaves of the packets in the ring. -/
structure Drained (ring : List (List UInt8)) (o o' : Outbound) (batches : List (List (List UInt8)))
    (left : List (List UInt8)) : Prop where
  sent : o'.sent = o.sent ++ batches.map batchOf
  outbound : o'.outbound = o.outbound + BitVec.ofNat 64 batches.flatten.length
  packets : batches.flatten ++ left = ring
  le : ∀ b ∈ batches, b.length ≤ kMaxPacketCount

/-- The drain of a ring ends, whenever `running_` is cleared; uncleared, it empties the
ring. -/
lemma drain_eq (running : ℕ → Bool) :
    ∀ (fuel : ℕ) (ring : List (List UInt8)) (o : Outbound), (∀ p ∈ ring, Framed p) →
      ring.length < fuel →
      ∃ o' batches left, drain running fuel ring o = some (o', left) ∧
        Drained ring o o' batches left ∧ ((∀ k, running k) → left = []) := by
  intro fuel
  induction fuel with
  | zero =>
    intro ring o _ hfuel
    omega
  | succ fuel ih =>
    intro ring o hring hfuel
    rw [drain]
    by_cases hrun : running o.reads
    · have hgather := gather_framed hring ⟨[], 0, []⟩
      simp only [List.nil_append, Nat.sub_zero, Nat.zero_add] at hgather
      rw [if_pos hrun, hgather]
      simp only []
      cases ring with
      | nil =>
        refine ⟨{ o with reads := o.reads + 1 }, [], [], by simp, ?_, fun _ => rfl⟩
        exact ⟨by simp, by simp, rfl, by simp⟩
      | cons packet ring =>
        set batch := (packet :: ring).take kMaxPacketCount with hbatch
        have hle : batch.length ≤ kMaxPacketCount := List.length_take_le _ _
        have hframed : ∀ p ∈ batch, Framed p := fun p hp => hring p (List.mem_of_mem_take hp)
        have hne : (framing.encode batch).isEmpty = false := by
          simp [hbatch, kMaxPacketCount, LengthCode.frame_ne_nil packet]
        have hlt : (framing.encode batch).length < 2 ^ 31 := by
          have := length_encode_le hframed
          have hle' : batch.length ≤ 64 := hle
          omega
        rw [hne, if_neg (by simp), int32OfSize_of_lt hlt]
        have hleft : ((packet :: ring).drop kMaxPacketCount).length < fuel := by
          rw [List.length_drop, kMaxPacketCount]
          simp only [List.length_cons] at hfuel ⊢
          omega
        obtain ⟨o', batches, left, hdrain, hdrained, hall⟩ := ih _
          { o with
            sent := o.sent ++ [batchOf batch]
            outbound := o.outbound + BitVec.ofNat 64 batch.length
            reads := o.reads + 1 }
          (fun p hp => hring p (List.mem_of_mem_drop hp)) hleft
        refine ⟨o', batch :: batches, left, hdrain, ⟨?_, ?_, ?_, ?_⟩, hall⟩
        · rw [hdrained.sent]
          simp
        · rw [hdrained.outbound]
          simp [BitVec.ofNat_add, BitVec.add_assoc]
        · rw [List.flatten_cons, List.append_assoc, hdrained.packets, hbatch,
            List.take_append_drop]
        · intro b hb
          rcases List.mem_cons.1 hb with rfl | hb
          · exact hle
          · exact hdrained.le b hb
    · rw [if_neg hrun]
      refine ⟨{ o with reads := o.reads + 1 }, [], ring, rfl, ⟨?_, ?_, rfl, ?_⟩, fun hall => ?_⟩
      · simp
      · simp
      · simp
      · exact absurd (hall o.reads) hrun

/-- The receive callback on one batch after another. -/
def receiveBatches (adapter : Bool) : List (List UInt8 × ℤ) → Received → Walk
  | [], r => .done r
  | b :: batches, r =>
      match receiveBatch adapter (some b.1) b.2 r with
      | .done r => receiveBatches adapter batches r
      | stopped => stopped

lemma receiveBatch_batchOf (adapter : Bool) {packets : List (List UInt8)}
    (h : ∀ p ∈ packets, Framed p) (hlen : (framing.encode packets).length < 2 ^ 31)
    (r : Received) :
    receiveBatch adapter (some (batchOf packets).1) (batchOf packets).2 r =
      .done (r.receive adapter packets) := by
  obtain ⟨ps, hps, hdone⟩ := receiveBatch_eq adapter hlen r
  rw [hps.unique (LengthCode.longest_encode fun p hp => (h p hp).fits)] at hdone
  exact hdone

lemma receiveBatches_batchOf (adapter : Bool) {batches : List (List (List UInt8))}
    (h : ∀ b ∈ batches, ∀ p ∈ b, Framed p) (hle : ∀ b ∈ batches, b.length ≤ kMaxPacketCount)
    (r : Received) :
    receiveBatches adapter (batches.map batchOf) r = .done (r.receive adapter batches.flatten) := by
  induction batches generalizing r with
  | nil => simp [receiveBatches]
  | cons b batches ih =>
    have hb := h b (by simp)
    have hlen : (framing.encode b).length < 2 ^ 31 := by
      have hbytes := length_encode_le hb
      have hcount : b.length ≤ 64 := hle b (by simp)
      omega
    rw [List.map_cons, receiveBatches, receiveBatch_batchOf adapter hb hlen]
    have hrest := ih (fun c hc => h c (by simp [hc])) (fun c hc => hle c (by simp [hc]))
      (r.receive adapter b)
    rw [Received.receive_append] at hrest
    exact hrest

/-- **The packet batch framing loses and invents nothing.**  The batches that a drain makes
of a ring deliver the packets of the ring; so does the one encoding of any list that fits a
batch.  Any byte string ends the walk inside the batch, with the frames of its longest
prefix of complete frames.  A batch gathered from any ring has a size that fits its
`int32_t` and as many frames as it was counted for. -/
theorem batch_framing_exact :
    (∀ packets : List (List UInt8), (∀ p ∈ packets, Framed p) →
      ∃ o batches, drain (fun _ => true) (packets.length + 1) packets ⟨[], 0, 0⟩ =
          some (o, []) ∧
        Drained packets ⟨[], 0, 0⟩ o batches [] ∧
        ∀ adapter r, receiveBatches adapter o.sent r = .done (r.receive adapter packets)) ∧
    (∀ packets : List (List UInt8), (∀ p ∈ packets, Framed p) →
      (packets.flatMap encodePacket).length < 2 ^ 31 →
      ∀ adapter r, receiveBatch adapter (some (packets.flatMap encodePacket))
        (int32OfSize (packets.flatMap encodePacket).length) r =
          .done (r.receive adapter packets)) ∧
    (∀ bytes : List UInt8, bytes.length < 2 ^ 31 →
      ∃ packets, framing.Longest bytes packets ∧
        (∀ more : List (List UInt8), (∀ p ∈ more, Framed p) →
          more.flatMap encodePacket <+: bytes → more <+: packets) ∧
        ∀ adapter r,
          receiveBatch adapter (some bytes) bytes.length r = .done (r.receive adapter packets)) ∧
    (∀ ring : List (List UInt8), ∃ taken, taken <+: ring ∧
      (gather ring ⟨[], 0, []⟩).1.packetBatchBytes =
        (taken.filter fun p => Framed p).flatMap encodePacket ∧
      (gather ring ⟨[], 0, []⟩).1.packetCount = (taken.filter fun p => Framed p).length ∧
      int32OfSize (gather ring ⟨[], 0, []⟩).1.packetBatchBytes.length =
        (gather ring ⟨[], 0, []⟩).1.packetBatchBytes.length) := by
  refine ⟨fun packets hp => ?_, fun packets hp hlen adapter r => ?_, fun bytes hlen => ?_,
    fun ring => ?_⟩
  · obtain ⟨o, batches, left, hdrain, hdrained, hall⟩ :=
      drain_eq (fun _ => true) (packets.length + 1) packets ⟨[], 0, 0⟩ hp (Nat.lt_succ_self _)
    obtain rfl := hall fun _ => rfl
    refine ⟨o, batches, hdrain, hdrained, fun adapter r => ?_⟩
    have hflatten : batches.flatten = packets := by simpa using hdrained.packets
    have hframed : ∀ b ∈ batches, ∀ p ∈ b, Framed p := fun b hb p hpb =>
      hp p (hflatten ▸ List.mem_flatten.2 ⟨b, hb, hpb⟩)
    have hwalk := receiveBatches_batchOf adapter hframed hdrained.le r
    rw [hdrained.sent, List.nil_append, hwalk, hflatten]
  · rw [int32OfSize_of_lt hlen]
    exact receiveBatch_batchOf adapter hp hlen r
  · have hlongest : ∃ packets, framing.Longest bytes packets := by
      obtain ⟨packets, hpackets, -⟩ := receiveBatch_eq true hlen ⟨[], 0⟩
      exact ⟨packets, hpackets⟩
    obtain ⟨packets, hpackets⟩ := hlongest
    refine ⟨packets, hpackets, fun more hmore hpre => ?_, fun adapter r => ?_⟩
    · exact hpackets.maximal (fun p hp => (hmore p hp).fits) hpre
    · obtain ⟨packets', hpackets', hdone⟩ := receiveBatch_eq adapter hlen r
      rw [hpackets.unique hpackets']
      exact hdone
  · have hempty : Gathered.Holds ⟨[], 0, []⟩ [] := ⟨by simp, rfl, rfl, Nat.zero_le _⟩
    obtain ⟨taken, hpre, hholds⟩ := @gather_holds ring _ _ hempty
    rw [List.nil_append] at hholds
    exact ⟨taken, hpre, hholds.bytes, hholds.count, int32OfSize_of_lt hholds.length_lt⟩

/-- Two packets in one batch. -/
theorem batch_framing_exact_two :
    receiveBatch true (some ([[69, 0], [96]].flatMap encodePacket))
      (int32OfSize ([[69, 0], [96]].flatMap encodePacket).length) ⟨[], 0⟩ =
        .done ⟨[[69, 0], [96]], 2⟩ :=
  batch_framing_exact.2.1 [[69, 0], [96]] (by decide) (by decide) true ⟨[], 0⟩

end UrnetworkWindows.Pump
