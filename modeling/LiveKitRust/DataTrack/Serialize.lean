import LiveKitRust.DataTrack.Packet
import Mathlib.Algebra.Order.Floor.Div

/-!
# Serializing a packet

The writer of `packet/serialize.rs`. The length of the header is computed twice: once by
`HeaderMetrics`, which decides how much room is asked for, and once by the writes themselves.
`Header.serializeInto_eq` is where the two meet: with room for `serializedLen` bytes the writer
succeeds and appends `Header.bytes`, whose length is that number, so neither the final assertion nor
a `put_*` call can panic.
-/

open Rust

namespace LiveKit.DataTrack

open Consts

inductive SerializeError where
  | tooSmallForHeader
  | tooSmallForPayload
  deriving DecidableEq

/-! ### Extensions -/

def E2eeExt.serializeInto (self : E2eeExt) (buf : BufMut) : Outcome SerializeError BufMut := do
  let buf ← buf.putU8 E2eeExt.TAG
  let buf ← buf.putU8 (UInt8.ofNat E2eeExt.LEN)
  let buf ← buf.putU8 self.keyIndex
  buf.putSlice self.iv.toList

def UserTimestampExt.serializeInto (self : UserTimestampExt) (buf : BufMut) :
    Outcome SerializeError BufMut := do
  let buf ← buf.putU8 UserTimestampExt.TAG
  let buf ← buf.putU8 (UInt8.ofNat UserTimestampExt.LEN)
  buf.putU64 self.value

namespace Extensions

def serializedLen (self : Extensions) : ℕ :=
  (if self.e2ee.isSome then EXT_MARKER_LEN + E2eeExt.LEN else 0) +
    (if self.userTimestamp.isSome then EXT_MARKER_LEN + UserTimestampExt.LEN else 0)

def serializeInto (self : Extensions) (buf : BufMut) : Outcome SerializeError BufMut := do
  let buf ← match self.e2ee with
    | some e2ee => e2ee.serializeInto buf
    | none => .ok buf
  match self.userTimestamp with
  | some userTimestamp => userTimestamp.serializeInto buf
  | none => .ok buf

end Extensions

/-! ### Header -/

structure HeaderMetrics where
  extLen : ℕ
  extWords : ℕ
  paddingLen : ℕ

def HeaderMetrics.serializedLen (self : HeaderMetrics) : ℕ :=
  BASE_HEADER_LEN +
    if self.extLen > 0 then EXT_WORDS_INDICATOR_SIZE + self.extLen + self.paddingLen else 0

namespace Header

def metrics (self : Header) : HeaderMetrics :=
  let extLen := self.extensions.serializedLen
  let extWords := (EXT_WORDS_INDICATOR_SIZE + extLen) ⌈/⌉ 4
  let paddingLen := extWords * 4 - EXT_WORDS_INDICATOR_SIZE - extLen
  ⟨extLen, extWords, paddingLen⟩

def serializedLen (self : Header) : ℕ := self.metrics.serializedLen

lemma serializedLen_le (s : Header) : s.serializedLen ≤ 40 := by
  have hext : s.extensions.serializedLen ≤ 25 := by
    unfold Extensions.serializedLen EXT_MARKER_LEN E2eeExt.LEN UserTimestampExt.LEN
    split <;> split <;> omega
  unfold serializedLen HeaderMetrics.serializedLen metrics BASE_HEADER_LEN EXT_WORDS_INDICATOR_SIZE
  simp only [Nat.ceilDiv_eq_add_pred_div]
  split <;> omega

def markerBits : FrameMarker → UInt8
  | .single => FRAME_MARKER_SINGLE
  | .start => FRAME_MARKER_START
  | .inter => FRAME_MARKER_INTER
  | .final => FRAME_MARKER_FINAL

def initialByte (marker : FrameMarker) (hasExt : Bool) : UInt8 :=
  let initial := SUPPORTED_VERSION <<< VERSION_SHIFT
  let initial := initial ||| markerBits marker <<< FRAME_MARKER_SHIFT
  if hasExt then initial ||| 1 <<< EXT_FLAG_SHIFT else initial

/-- The block of `Header::serialize_into` that is guarded by
`metrics.ext_len > 0`: word count, records and padding. -/
def putExtensions (self : Header) (buf : BufMut) : Outcome SerializeError BufMut :=
  if self.metrics.extLen > 0 then do
    -- extension words are encoded as count - 1
    let buf ← buf.putU16 (UInt16.ofNat (self.metrics.extWords - 1))
    let buf ← self.extensions.serializeInto buf
    buf.putBytes 0 self.metrics.paddingLen
  else .ok buf

/-- `Header::serialize_into`: the number of bytes written, and the buffer. -/
def serializeInto (self : Header) (buf : BufMut) : Outcome SerializeError (ℕ × BufMut) := do
  let metrics := self.metrics
  let serializedLen := metrics.serializedLen
  let remainingInitial := buf.remaining
  if buf.remaining < serializedLen then .err .tooSmallForHeader else
  let buf ← buf.putU8 (initialByte self.marker (metrics.extLen > 0))
  let buf ← buf.putU8 0 -- Reserved
  let buf ← buf.putU16 self.trackHandle.value
  let buf ← buf.putU16 self.sequence
  let buf ← buf.putU16 self.frameNumber
  let buf ← buf.putU32 self.timestamp.asTicks
  let buf ← self.putExtensions buf
  Outcome.assert (remainingInitial - buf.remaining = serializedLen)
  .ok (serializedLen, buf)

end Header

/-! ### Packet -/

namespace Packet

def serializedLen (self : Packet) : ℕ := self.header.serializedLen + self.payload.length

/-- `Packet::serialize_into`: the number of bytes written, and the buffer. -/
def serializeInto (self : Packet) (buf : BufMut) : Outcome SerializeError (ℕ × BufMut) := do
  let payloadLen := self.payload.length
  let (headerLen, buf) ← self.header.serializeInto buf
  if buf.remaining < payloadLen then .err .tooSmallForPayload else
  let buf ← buf.putSlice self.payload
  .ok (headerLen + payloadLen, buf)

/-- `Packet::serialize`: the packet in a new buffer of just its length. A `BytesMut` may grow past
its capacity; the model grants it none of that, and `serialize_eq` shows that it is not needed. -/
def serialize (self : Packet) : Outcome SerializeError Bytes := do
  let len := self.serializedLen
  let (written, buf) ← Outcome.unwrap (ε := SerializeError)
    (self.serializeInto (BufMut.withCapacity len))
  Outcome.assert (written = len)
  .ok buf.written

end Packet

/-! ### The bytes written -/

def E2eeExt.bytes (self : E2eeExt) : Bytes :=
  E2eeExt.TAG :: UInt8.ofNat E2eeExt.LEN :: self.keyIndex :: self.iv.toList

def UserTimestampExt.bytes (self : UserTimestampExt) : Bytes :=
  UserTimestampExt.TAG :: UInt8.ofNat UserTimestampExt.LEN :: beBytes 8 self.value.toNat

def Extensions.bytes (self : Extensions) : Bytes :=
  self.e2ee.elim [] E2eeExt.bytes ++ self.userTimestamp.elim [] UserTimestampExt.bytes

namespace Header

def baseBytes (self : Header) : Bytes :=
  initialByte self.marker (self.metrics.extLen > 0) :: 0 ::
    (beBytes 2 self.trackHandle.value.toNat ++ beBytes 2 self.sequence.toNat ++
      beBytes 2 self.frameNumber.toNat ++ beBytes 4 self.timestamp.asTicks.toNat)

/-- The word count as it is written, one less than the number of words. -/
def extWordsField (self : Header) : UInt16 := UInt16.ofNat (self.metrics.extWords - 1)

/-- The extension block: word count, records and padding, when there is one. -/
def extBytes (self : Header) : Bytes :=
  if self.metrics.extLen > 0 then
    beBytes 2 self.extWordsField.toNat ++ self.extensions.bytes ++
      List.replicate self.metrics.paddingLen 0
  else []

def bytes (self : Header) : Bytes := self.baseBytes ++ self.extBytes

end Header

@[simp] lemma E2eeExt.length_bytes (s : E2eeExt) :
    s.bytes.length = EXT_MARKER_LEN + E2eeExt.LEN := by
  simp [E2eeExt.bytes, EXT_MARKER_LEN, E2eeExt.LEN]

@[simp] lemma UserTimestampExt.length_bytes (s : UserTimestampExt) :
    s.bytes.length = EXT_MARKER_LEN + UserTimestampExt.LEN := by
  simp [UserTimestampExt.bytes, EXT_MARKER_LEN, UserTimestampExt.LEN]

@[simp] lemma Extensions.length_bytes (s : Extensions) : s.bytes.length = s.serializedLen := by
  obtain ⟨ts, e2ee⟩ := s
  cases ts <;> cases e2ee <;> simp [Extensions.bytes, Extensions.serializedLen]

variable (s : Header)

@[simp] lemma Header.length_baseBytes : s.baseBytes.length = BASE_HEADER_LEN := by
  simp [Header.baseBytes, BASE_HEADER_LEN]

lemma Header.length_extBytes : BASE_HEADER_LEN + s.extBytes.length = s.serializedLen := by
  unfold Header.extBytes Header.serializedLen HeaderMetrics.serializedLen
  split
  · simp [Header.metrics, EXT_WORDS_INDICATOR_SIZE]
    omega
  · rfl

@[simp] lemma Header.length_bytes : s.bytes.length = s.serializedLen := by
  rw [Header.bytes, List.length_append, Header.length_baseBytes, Header.length_extBytes]

/-! ### What the writers do -/

section Writers

variable {buf : BufMut}

lemma E2eeExt.serializeInto_eq (s : E2eeExt) (h : s.bytes.length ≤ buf.remaining) :
    s.serializeInto buf = .ok (buf.push s.bytes) := by
  have hroom : 15 ≤ buf.remaining := by simpa [EXT_MARKER_LEN, E2eeExt.LEN] using h
  simp (disch := simp; omega) only [E2eeExt.serializeInto, BufMut.putU8, BufMut.putSlice_eq,
    Outcome.ok_bind, BufMut.push_push]
  rfl

lemma UserTimestampExt.serializeInto_eq (s : UserTimestampExt)
    (h : s.bytes.length ≤ buf.remaining) : s.serializeInto buf = .ok (buf.push s.bytes) := by
  have hroom : 10 ≤ buf.remaining := by
    simpa [EXT_MARKER_LEN, UserTimestampExt.LEN] using h
  simp (disch := simp; omega) only [UserTimestampExt.serializeInto, BufMut.putU8, BufMut.putU64,
    BufMut.putSlice_eq, Outcome.ok_bind, BufMut.push_push]
  rfl

lemma Extensions.serializeInto_eq (s : Extensions) (h : s.bytes.length ≤ buf.remaining) :
    s.serializeInto buf = .ok (buf.push s.bytes) := by
  obtain ⟨userTimestamp, e2ee⟩ := s
  cases e2ee with
  | none =>
    cases userTimestamp with
    | none => simp [Extensions.serializeInto, Extensions.bytes]
    | some ts => exact ts.serializeInto_eq h
  | some e =>
    have he2ee : e.bytes.length ≤ buf.remaining := by
      simp only [Extensions.bytes, Option.elim_some, List.length_append] at h
      omega
    rw [Extensions.serializeInto]
    simp only [e.serializeInto_eq he2ee, Outcome.ok_bind]
    cases userTimestamp with
    | none => simp [Extensions.bytes]
    | some ts =>
      -- what the encryption record leaves is enough for the timestamp
      have hts : ts.bytes.length ≤ (buf.push e.bytes).remaining := by
        simp only [Extensions.bytes, Option.elim_some, List.length_append] at h
        rw [BufMut.push_remaining]
        omega
      simp only [ts.serializeInto_eq hts, BufMut.push_push]
      rfl

variable (s : Header)

private lemma Header.putBase_bind (h : BASE_HEADER_LEN ≤ buf.remaining)
    (k : BufMut → Outcome SerializeError (ℕ × BufMut)) :
    (do
      let buf ← buf.putU8 (initialByte s.marker (s.metrics.extLen > 0))
      let buf ← buf.putU8 0
      let buf ← buf.putU16 s.trackHandle.value
      let buf ← buf.putU16 s.sequence
      let buf ← buf.putU16 s.frameNumber
      let buf ← buf.putU32 s.timestamp.asTicks
      k buf) = k (buf.push s.baseBytes) := by
  have hroom : 12 ≤ buf.remaining := h
  simp (disch := simp; omega) only [BufMut.putU8, BufMut.putU16, BufMut.putU32,
    BufMut.putSlice_eq, Outcome.ok_bind, BufMut.push_push]
  rfl

lemma Header.putExtensions_eq (h : s.extBytes.length ≤ buf.remaining) :
    s.putExtensions buf = .ok (buf.push s.extBytes) := by
  rw [Header.extBytes] at h ⊢
  rw [Header.putExtensions]
  split
  · next hpos =>
    rw [if_pos hpos] at h
    simp only [List.length_append, length_beBytes, List.length_replicate] at h
    -- word count, records and padding each find their room
    have hwords : (beBytes 2 s.extWordsField.toNat).length ≤ buf.remaining := by
      rw [length_beBytes]
      omega
    have hrecords : s.extensions.bytes.length ≤
        (buf.push (beBytes 2 s.extWordsField.toNat)).remaining := by
      rw [BufMut.push_remaining, length_beBytes]
      omega
    have hpadding : (List.replicate s.metrics.paddingLen (0 : UInt8)).length ≤
        ((buf.push (beBytes 2 s.extWordsField.toNat)).push s.extensions.bytes).remaining := by
      simp only [BufMut.push_remaining, length_beBytes, List.length_replicate]
      omega
    rw [BufMut.putU16, ← Header.extWordsField, BufMut.putSlice_eq hwords, Outcome.ok_bind,
      Extensions.serializeInto_eq _ hrecords, Outcome.ok_bind, BufMut.putBytes,
      BufMut.putSlice_eq hpadding, BufMut.push_push, BufMut.push_push, List.append_assoc]
  · rw [BufMut.push_nil]

/-- **The header writer.** With room for `serializedLen` bytes the writer
succeeds, reports that many, and has appended exactly the header's bytes. -/
theorem Header.serializeInto_eq (h : s.serializedLen ≤ buf.remaining) :
    s.serializeInto buf = .ok (s.serializedLen, buf.push s.bytes) := by
  have hlen := s.length_extBytes
  have hbase : BASE_HEADER_LEN ≤ buf.remaining := by omega
  have hext : s.extBytes.length ≤ (buf.push s.baseBytes).remaining := by
    rw [BufMut.push_remaining, Header.length_baseBytes]
    omega
  -- the assertion compares the room used with the length computed up front
  have hused : buf.remaining - (buf.push s.bytes).remaining = s.serializedLen := by
    rw [BufMut.push_remaining, Header.length_bytes]
    omega
  change (if buf.remaining < s.serializedLen then _ else _) = _
  rw [if_neg (Nat.not_lt.mpr h), Header.putBase_bind s hbase, Header.putExtensions_eq s hext,
    Outcome.ok_bind, BufMut.push_push]
  change (Outcome.assert (decide (buf.remaining - (buf.push s.bytes).remaining
    = s.serializedLen)) >>= _) = _
  rw [decide_eq_true hused, Outcome.assert_true, Outcome.ok_bind]
  rfl

/-- **The packet writer.** With room for `serializedLen` bytes the writer
succeeds, reports that many, and has appended the header and the payload. -/
theorem Packet.serializeInto_eq (s : Packet) (h : s.serializedLen ≤ buf.remaining) :
    s.serializeInto buf = .ok (s.serializedLen, buf.push (s.header.bytes ++ s.payload)) := by
  have htotal : s.header.serializedLen + s.payload.length ≤ buf.remaining := h
  have hheader : s.header.serializedLen ≤ buf.remaining := by omega
  have hpay : s.payload.length ≤ (buf.push s.header.bytes).remaining := by
    rw [BufMut.push_remaining, Header.length_bytes]
    omega
  rw [Packet.serializeInto, Header.serializeInto_eq _ hheader, Outcome.ok_bind]
  change (if (buf.push s.header.bytes).remaining < s.payload.length then _ else _) = _
  rw [if_neg (Nat.not_lt.mpr hpay), BufMut.putSlice_eq hpay, Outcome.ok_bind, BufMut.push_push]
  rfl

end Writers

/-- `Packet::serialize` never panics: it returns the header's bytes followed by
the payload. -/
lemma Packet.serialize_eq (s : Packet) : s.serialize = .ok (s.header.bytes ++ s.payload) := by
  have hfits : s.serializedLen ≤ (BufMut.withCapacity s.serializedLen).remaining := le_rfl
  rw [Packet.serialize, Packet.serializeInto_eq s hfits, Outcome.unwrap_ok, Outcome.ok_bind]
  change (Outcome.assert (decide (s.serializedLen = s.serializedLen)) >>= _) = _
  rw [decide_eq_true rfl, Outcome.assert_true, Outcome.ok_bind]
  rfl

/-- The word count stands for the whole extension block: `4 (w + 1)` bytes are
the two bytes of the count itself, the records and the padding. -/
lemma Header.extWordsField_spec : 4 * (s.extWordsField.toNat + 1) =
      EXT_WORDS_INDICATOR_SIZE + s.extensions.bytes.length + s.metrics.paddingLen := by
  -- at most two records, so the word count fits sixteen bits
  have hlen : s.extensions.serializedLen ≤ 25 := by
    unfold Extensions.serializedLen EXT_MARKER_LEN E2eeExt.LEN UserTimestampExt.LEN
    split <;> split <;> omega
  have hwords : s.metrics.extWords - 1 < 2 ^ 16 := by
    simp only [Header.metrics, EXT_WORDS_INDICATOR_SIZE, Nat.ceilDiv_eq_add_pred_div]
    omega
  rw [Header.extWordsField, UInt16.toNat_ofNat', Nat.mod_eq_of_lt hwords, Extensions.length_bytes]
  simp only [Header.metrics, EXT_WORDS_INDICATOR_SIZE, Nat.ceilDiv_eq_add_pred_div]
  omega

end LiveKit.DataTrack
