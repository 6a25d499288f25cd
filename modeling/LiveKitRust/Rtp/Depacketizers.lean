import LiveKitRust.Base.Outcome
import LiveKitRust.Rtp.Packetizer

/-!
# Depacketizers (`rtc-rtp/src/codec/{vp8,h264}/mod.rs`)

`Vp8Packet` and `H264Packet` are the parsers of the patched `rtc-rtp` crate. Both keep what they
read from one packet to the next: an `H264Packet` the fragments of a NAL unit that is not complete
yet, a `Vp8Packet` the fields of the last descriptor.

The flags `i`, `l`, `t` and `k` are written only if the packet has the octet they are in, and stay
from an earlier packet if it has not. So what is stripped is the descriptor of RFC 7741
(`descriptorSize`) if the packet has that octet or no flag was left behind (`Vp8Packet.Reads`,
`depacketize_eq_ok`).
-/

open Rust List

namespace LiveKit.Rtp

/-- `shared::error::Error`, as far as the depacketizers return it. -/
inductive Error where
  | shortPacket
  | stapASizeLargerThanBuffer (size remaining : ℕ)
  | naluTypeIsNotHandled (naluType : UInt8)
  deriving DecidableEq

/-! ### VP8 -/

/-- The VP8 header that is stored in the payload of an RTP packet. -/
structure Vp8Packet where
  x : UInt8
  n : UInt8
  s : UInt8
  pid : UInt8
  i : UInt8
  l : UInt8
  t : UInt8
  k : UInt8
  pictureId : UInt16
  tl0PicIdx : UInt8
  tid : UInt8
  y : UInt8
  keyIdx : UInt8
  deriving DecidableEq

namespace Vp8Packet

def default : Vp8Packet := ⟨0, 0, 0, 0, 0, 0, 0, 0, 0, 0, 0, 0, 0⟩

variable (self : Vp8Packet)

def readRequired (b : UInt8) : Vp8Packet :=
  { self with
    x := (b &&& 0x80) >>> 7, n := (b &&& 0x20) >>> 5, s := (b &&& 0x10) >>> 4, pid := b &&& 0x07 }

/-- The octet of the extended control bits. -/
def readExtended (b : UInt8) : Vp8Packet :=
  { self with
    i := (b &&& 0x80) >>> 7, l := (b &&& 0x40) >>> 6, t := (b &&& 0x20) >>> 5,
    k := (b &&& 0x10) >>> 4 }

/-- What is left after the descriptor, which must be something. -/
def readData (reader : Bytes) : Vp8Packet × Outcome Error Bytes :=
  if reader.length = 0 then (self, .err .shortPacket) else (self, .ok reader)

def readLayers : Bytes → Vp8Packet × Outcome Error Bytes
  | [] => (self, .err .shortPacket)
  | b :: reader =>
    if self.t = 1 ∨ self.k = 1 then
      let self := if self.t = 1 then { self with tid := b >>> 6, y := (b >>> 5) &&& 0x1 } else self
      let self := if self.k = 1 then { self with keyIdx := b &&& 0x1F } else self
      self.readData reader
    else self.readData (b :: reader)

def readTl0PicIdx : Bytes → Vp8Packet × Outcome Error Bytes
  | [] => (self, .err .shortPacket)
  | b :: reader =>
    if self.l = 1 then { self with tl0PicIdx := b }.readLayers reader
    else self.readLayers (b :: reader)

def readPictureId (reader : Bytes) : Vp8Packet × Outcome Error Bytes :=
  if self.i = 1 then
    match reader with
    -- `get_u8` with nothing left
    | [] => (self, .panic)
    | b :: reader =>
      if b &&& 0x80 > 0 then
        match reader with
        | [] => (self, .panic)
        | low :: reader =>
          { self with
            pictureId := ((b &&& 0x7F).toUInt16 <<< 8) ||| low.toUInt16 }.readTl0PicIdx reader
      else { self with pictureId := b.toUInt16 }.readTl0PicIdx reader
  else self.readTl0PicIdx reader

def depacketize (packet : Bytes) : Vp8Packet × Outcome Error Bytes :=
  if packet.length < 4 then (self, .err .shortPacket)
  else
    match packet with
    | [] => (self, .panic)
    | b :: reader =>
      let self := self.readRequired b
      if self.x = 1 then
        match reader with
        | [] => (self, .panic)
        | b :: reader => (self.readExtended b).readPictureId reader
      else self.readPictureId reader

end Vp8Packet

/-! ### The descriptor of RFC 7741 -/

/-- Whether the octet at this place has a bit of the mask set. -/
def bitAt (payload : Bytes) (i : ℕ) (mask : UInt8) : Bool := payload.getD i 0 &&& mask != 0

variable (b : UInt8)

lemma bitAt_zero (payload : Bytes) (mask : UInt8) :
    bitAt (b :: payload) 0 mask = true ↔ b &&& mask ≠ 0 := bne_iff_ne

lemma bitAt_succ (payload : Bytes) (i : ℕ) (mask : UInt8) :
    bitAt (b :: payload) (i + 1) mask = bitAt payload i mask := rfl

def isExtended (payload : Bytes) : Bool := bitAt payload 0 0x80

/-- S: the packet begins a partition. -/
def startsPartition (payload : Bytes) : Bool := bitAt payload 0 0x10

def partitionIndex (payload : Bytes) : UInt8 := payload.getD 0 0 &&& 0x07

/-- I, L, T and K say which octets follow, and M whether the picture id has two. -/
def descriptorSize (payload : Bytes) : ℕ :=
  if isExtended payload then
    2 + ((if bitAt payload 1 0x80 then (if bitAt payload 2 0x80 then 2 else 1) else 0) +
      ((if bitAt payload 1 0x40 then 1 else 0) +
        (if bitAt payload 1 0x20 || bitAt payload 1 0x10 then 1 else 0)))
  else 1

def vp8Payload (payload : Bytes) : Bytes := payload.drop (descriptorSize payload)

def pictureIdOf (payload : Bytes) : Option ℕ :=
  if isExtended payload && bitAt payload 1 0x80 then
    if bitAt payload 2 0x80 then
      some ((payload.getD 2 0).toNat % 2 ^ 7 * 2 ^ 8 + (payload.getD 3 0).toNat)
    else some (payload.getD 2 0).toNat
  else none

namespace Vp8Packet

variable (self : Vp8Packet)

/-- No flag of an earlier packet is taken for one of this packet. -/
def Reads (payload : Bytes) : Prop :=
  isExtended payload = true ∨ (self.i ≠ 1 ∧ self.l ≠ 1 ∧ self.t ≠ 1 ∧ self.k ≠ 1)
  deriving Decidable

variable (b : UInt8)

lemma flag_eq_one :
    ((b &&& 0x80) >>> 7 = 1 ↔ b &&& 0x80 ≠ 0) ∧ ((b &&& 0x40) >>> 6 = 1 ↔ b &&& 0x40 ≠ 0) ∧
      ((b &&& 0x20) >>> 5 = 1 ↔ b &&& 0x20 ≠ 0) ∧ ((b &&& 0x10) >>> 4 = 1 ↔ b &&& 0x10 ≠ 0) := by
  revert b
  exact forall_byte (by decide +kernel)

lemma high_pos : b &&& 0x80 > 0 ↔ b &&& 0x80 ≠ 0 := by
  revert b
  exact forall_byte (by decide +kernel)

def returned (data : Bytes) : Outcome Error Bytes :=
  if data.length = 0 then .err .shortPacket else .ok data

/-- How many octets the flags say that there are before the data. -/
def optionsSize (reader : Bytes) : ℕ :=
  (if self.i = 1 then (if bitAt reader 0 0x80 then 2 else 1) else 0) +
    ((if self.l = 1 then 1 else 0) + (if self.t = 1 ∨ self.k = 1 then 1 else 0))

lemma readData_snd (rd : Bytes) : (self.readData rd).2 = returned rd := by
  unfold readData returned
  split <;> rfl

lemma readLayers_snd (rd : Bytes) : (self.readLayers rd).2 =
      returned (rd.drop (if self.t = 1 ∨ self.k = 1 then 1 else 0)) := by
  cases rd with
  | nil =>
    rw [drop_nil]
    rfl
  | cons b rd =>
    rw [readLayers]
    split
    · exact readData_snd _ rd
    · exact readData_snd self (b :: rd)

lemma readTl0PicIdx_snd (rd : Bytes) :
    (self.readTl0PicIdx rd).2 = returned (rd.drop ((if self.l = 1 then 1 else 0) +
      (if self.t = 1 ∨ self.k = 1 then 1 else 0))) := by
  cases rd with
  | nil =>
    rw [drop_nil]
    rfl
  | cons b rd =>
    rw [readTl0PicIdx]
    split
    · rw [Nat.add_comm 1, drop_succ_cons]
      exact readLayers_snd _ rd
    · rw [Nat.zero_add]
      exact readLayers_snd self (b :: rd)

variable {rd payload : Bytes} {self : Vp8Packet}

lemma readPictureId_snd (s : Vp8Packet) (h : 2 ≤ rd.length) :
    (s.readPictureId rd).2 = returned (rd.drop (s.optionsSize rd)) := by
  obtain ⟨b, low, rd, rfl⟩ : ∃ b low rest, rd = b :: low :: rest := by
    match rd, h with
    | b :: low :: rest, _ => exact ⟨b, low, rest, rfl⟩
  unfold readPictureId optionsSize
  by_cases hid : s.i = 1
  · rw [if_pos hid, if_pos hid]
    dsimp only
    by_cases hlong : b &&& 0x80 > 0
    · rw [if_pos hlong, if_pos ((bitAt_zero ..).mpr ((high_pos b).mp hlong)), Nat.add_comm 2,
        drop_succ_cons, drop_succ_cons]
      exact readTl0PicIdx_snd _ rd
    · rw [if_neg hlong, if_neg fun hbit => hlong ((high_pos b).mpr ((bitAt_zero ..).mp hbit)),
        Nat.add_comm 1, drop_succ_cons]
      exact readTl0PicIdx_snd _ (low :: rd)
  · rw [if_neg hid, if_neg hid, Nat.zero_add]
    exact readTl0PicIdx_snd s (b :: low :: rd)

lemma exists_cons_cons (h : 4 ≤ payload.length) : ∃ b c rd, payload = b :: c :: rd := by
  cases payload with
  | nil => cases h
  | cons b rest =>
    cases rest with
    | nil => simp at h
    | cons c rd => exact ⟨b, c, rd, rfl⟩

lemma depacketize_snd_eq (s : Vp8Packet) {b c} (h : 4 ≤ (b :: c :: rd).length) :
    (s.depacketize (b :: c :: rd)).2 = if (s.readRequired b).x = 1 then
        returned (rd.drop (((s.readRequired b).readExtended c).optionsSize rd))
      else returned ((c :: rd).drop (s.optionsSize (c :: rd))) := by
  have hr : 2 ≤ rd.length := by
    simp only [length_cons] at h
    omega
  unfold depacketize
  rw [if_neg (Nat.not_lt.mpr h)]
  dsimp only
  by_cases hx : (s.readRequired b).x = 1
  · rw [if_pos hx, if_pos hx]
    exact readPictureId_snd _ hr
  · rw [if_neg hx, if_neg hx]
    exact readPictureId_snd _ (Nat.le_succ_of_le hr)

/-- The length that is checked first is enough for all reads. -/
lemma depacketize_ne_panic (s : Vp8Packet) (payload : Bytes) :
    (s.depacketize payload).2 ≠ .panic := by
  have hret (data : Bytes) : returned data ≠ .panic := by
    unfold returned
    split <;> exact nofun
  by_cases hlen : payload.length < 4
  · unfold depacketize
    rw [if_pos hlen]
    exact nofun
  · obtain ⟨b, c, _, rfl⟩ := exists_cons_cons (Nat.not_lt.mp hlen)
    rw [depacketize_snd_eq s (Nat.not_lt.mp hlen)]
    split
    · exact hret _
    · exact hret _

lemma depacketize_snd (hreads : self.Reads payload) (hlen : 4 ≤ payload.length) :
    (self.depacketize payload).2 = returned (vp8Payload payload) := by
  obtain ⟨b, c, rd, rfl⟩ := exists_cons_cons hlen
  have hext : isExtended (b :: c :: rd) = true ↔ (self.readRequired b).x = 1 :=
    (bitAt_zero ..).trans (flag_eq_one b).1.symm
  rw [depacketize_snd_eq self hlen]
  unfold vp8Payload descriptorSize
  by_cases hx : (self.readRequired b).x = 1
  · rw [if_pos hx, if_pos (hext.mpr hx), Nat.add_comm 2, drop_succ_cons, drop_succ_cons]
    obtain ⟨hi, hl, ht, hk⟩ := flag_eq_one c
    simp only [bitAt_succ, bitAt_zero, Bool.or_eq_true, ← hi, ← hl, ← ht, ← hk]
    rfl
  · rw [if_neg hx, if_neg fun hbit => hx (hext.mp hbit)]
    -- the flags are those of an earlier packet, and none of them is set
    obtain ⟨hi, hl, ht, hk⟩ := hreads.resolve_left fun hbit => hx (hext.mp hbit)
    unfold optionsSize
    rw [if_neg hi, if_neg hl, if_neg fun hor => hor.elim ht hk]
    rfl

lemma depacketize_eq_ok {data} (hreads : self.Reads payload)
    (h : (self.depacketize payload).2 = .ok data) : data = vp8Payload payload ∧ data ≠ [] := by
  by_cases hlen : payload.length < 4
  · unfold depacketize at h
    rw [if_pos hlen] at h
    cases h
  · rw [depacketize_snd hreads (Nat.not_lt.mp hlen)] at h
    unfold returned at h
    split at h
    · cases h
    next hdata =>
      cases h
      exact ⟨rfl, fun hnil => hdata (congrArg length hnil)⟩

end Vp8Packet

/-! ### H.264 -/

def putU32 (value : ℕ) : Bytes :=
  [UInt8.ofNat (value / 2 ^ 24), UInt8.ofNat (value / 2 ^ 16), UInt8.ofNat (value / 2 ^ 8),
    UInt8.ofNat value]

/-- The H.264 depacketizer; `fuaBuffer` is what it has of a fragmented NAL unit. -/
structure H264Packet where
  isAvc : Bool
  fuaBuffer : Option Bytes
  deriving DecidableEq

namespace H264Packet

def default : H264Packet := ⟨false, none⟩

/-- What a NAL unit of this size begins with. -/
def naluStart (self : H264Packet) (size : ℕ) : Bytes :=
  if self.isAvc then putU32 size else [0, 0, 0, 1]

/-- The NAL units of an aggregation packet. -/
def stapA (self : H264Packet) (rest payload : Bytes) : Outcome Error Bytes :=
  match rest with
  | [] => .ok payload
  -- the second octet of a size is read past the end
  | [_] => .panic
  | high :: low :: rest =>
    let naluSize := high.toNat <<< 8 ||| low.toNat
    if rest.length < naluSize then .err (.stapASizeLargerThanBuffer naluSize rest.length)
    else self.stapA (rest.drop naluSize) (payload ++ self.naluStart naluSize ++ rest.take naluSize)
termination_by rest.length
decreasing_by
  simp only [List.length_drop, List.length_cons]
  omega

/-- Parse a packet: what it completes, if anything. -/
def depacketize (self : H264Packet) : Bytes → H264Packet × Outcome Error Bytes
  | b0 :: b1 :: rest =>
    let type := naluType b0
    -- an access unit delimiter can be of size 2
    if rest.length = 0 ∧ type ≠ 9 then (self, .err .shortPacket)
    else if 1 ≤ type ∧ type ≤ 23 then
      (self, .ok (self.naluStart (rest.length + 2) ++ b0 :: b1 :: rest))
    else if type = 24 then (self, self.stapA (b1 :: rest) [])
    else if type = H264_NAL_TYPE_FU_A then
      let fuaBuffer := self.fuaBuffer.getD [] ++ rest
      if b1 &&& 0x40 ≠ 0 then ({ self with fuaBuffer := none },
          .ok (self.naluStart (fuaBuffer.length + 1) ++ (b0 &&& 0x60 ||| naluType b1) :: fuaBuffer))
      else ({ self with fuaBuffer := some fuaBuffer }, .ok [])
    else (self, .err (.naluTypeIsNotHandled type))
  | _ => (self, .err .shortPacket)

end H264Packet

end LiveKit.Rtp
