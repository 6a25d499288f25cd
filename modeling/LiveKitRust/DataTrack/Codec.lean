import LiveKitRust.DataTrack.Deserialize

/-!
# The packet codec round trip

`Packet.deserialize` undoes `Packet.serialize`, and the length computed up front is the number of
bytes written (`Packet.codec_round_trip`).

The reader follows the writer section by section. The first byte is a finite table; the base header
is six fixed-width fields; the extension block is cut off by its word count, which
`Header.extWordsField_spec` ties to the bytes written after it, and its records are read by a loop
(`Extensions.deserialize_bytes`). Without extensions nothing is written after the base header, and
the flag tells the reader so.
-/

open Rust List

namespace LiveKit.DataTrack

open Consts

/-! ### The first byte -/

namespace Header

variable (marker : FrameMarker) (s : Header)

lemma initialByte_version (hasExt : Bool) :
    initialByte marker hasExt >>> VERSION_SHIFT &&& VERSION_MASK = SUPPORTED_VERSION := by
  cases marker <;> cases hasExt <;> decide

lemma markerOf_initialByte (hasExt : Bool) : markerOf (initialByte marker hasExt) = marker := by
  cases marker <;> cases hasExt <;> decide

lemma extFlag_initialByte (hasExt : Bool) :
    decide ((initialByte marker hasExt >>> EXT_FLAG_SHIFT &&& EXT_FLAG_MASK) > 0) = hasExt := by
  cases marker <;> cases hasExt <;> decide

/-! ### The extension block -/

lemma extensions_eq_of_extLen (h : ¬ s.metrics.extLen > 0) : s.extensions = {} := by
  have hlen : s.extensions.serializedLen = 0 := Nat.eq_zero_of_not_pos h
  generalize s.extensions = exts at hlen ⊢
  obtain ⟨ts, e2ee⟩ := exts
  cases e2ee with
  | some => exact absurd hlen (by simp [Extensions.serializedLen, EXT_MARKER_LEN])
  | none =>
    cases ts with
    | some => cases hlen
    | none => rfl

lemma deserializeExtensions_block {words : UInt16} {block : Bytes}
    (h : 4 * (words.toNat + 1) = EXT_WORDS_INDICATOR_SIZE + block.length) (rest : Bytes) :
    deserializeExtensions true (beBytes 2 words.toNat ++ (block ++ rest)) =
      (Extensions.deserialize block >>= fun exts => .ok (exts, rest)) := by
  have hlen : ¬ (beBytes 2 words.toNat ++ (block ++ rest)).length < 2 := by
    rw [length_append, length_beBytes]
    exact Nat.not_lt.mpr (Nat.le_add_right 2 _)
  rw [deserializeExtensions, if_neg (by simp), if_neg hlen, Buf.getU16_append, Outcome.ok_bind]
  change (if 4 * (words.toNat + 1) - EXT_WORDS_INDICATOR_SIZE > (block ++ rest).length
    then _ else _) = _
  rw [h, Nat.add_sub_cancel_left, if_neg (by simp), Buf.copyToBytes_append rfl, Outcome.ok_bind]

lemma deserializeExtensions_extBytes (rest : Bytes) :
    deserializeExtensions (s.metrics.extLen > 0) (s.extBytes ++ rest) =
      .ok (s.extensions, rest) := by
  by_cases hpos : s.metrics.extLen > 0
  · have hwords : 4 * (s.extWordsField.toNat + 1) = EXT_WORDS_INDICATOR_SIZE +
        (s.extensions.bytes ++ replicate s.metrics.paddingLen 0).length := by
      rw [s.extWordsField_spec, length_append, length_replicate, Nat.add_assoc]
    rw [extBytes, if_pos hpos, decide_eq_true hpos, append_assoc, append_assoc,
      ← append_assoc s.extensions.bytes, deserializeExtensions_block hwords,
      Extensions.deserialize_bytes, Outcome.ok_bind]
  · -- no extension flag: nothing was written, nothing is read
    rw [deserializeExtensions, decide_eq_false hpos, if_pos (by simp),
      s.extensions_eq_of_extLen hpos, extBytes, if_neg hpos, nil_append]

/-! ### The header -/

lemma deserialize_baseBytes (hasExt : Bool) (rest : Bytes) :
    deserialize (initialByte s.marker hasExt :: (s.baseBytes.tail ++ rest)) =
      (deserializeExtensions hasExt rest >>= fun read =>
        .ok ({ s with extensions := read.1 }, read.2)) := by
  -- the bytes in the order the reader takes them
  have hbytes : s.baseBytes.tail ++ rest = 0 :: (beBytes 2 s.trackHandle.value.toNat ++
      (beBytes 2 s.sequence.toNat ++ (beBytes 2 s.frameNumber.toNat ++
        (beBytes 4 s.timestamp.asTicks.toNat ++ rest)))) := by
    simp [baseBytes]
  have hlong : ¬ (initialByte s.marker hasExt :: (s.baseBytes.tail ++ rest)).length <
      BASE_HEADER_LEN := by
    rw [length_cons, length_append, length_tail, length_baseBytes]
    exact Nat.not_lt.mpr (by simp [BASE_HEADER_LEN])
  -- the writer leaves the version bits zero
  have hversion : ¬ initialByte s.marker hasExt >>> VERSION_SHIFT &&& VERSION_MASK >
      SUPPORTED_VERSION := by
    rw [initialByte_version]
    decide
  rw [deserialize, if_neg hlong, hbytes, Buf.getU8_cons, Outcome.ok_bind]
  simp only [if_neg hversion, markerOf_initialByte, extFlag_initialByte, Buf.advance_one_cons,
    Outcome.ok_bind, Buf.getU16_append, Buf.getU32_append, Handle.tryFromU16_value,
    Outcome.mapErr_ok]

/-- **Header round trip**: the header is read back from its bytes, and what
follows them is left over. -/
theorem deserialize_bytes (rest : Bytes) : deserialize (s.bytes ++ rest) = .ok (s, rest) := by
  have hbytes : s.bytes ++ rest = initialByte s.marker (s.metrics.extLen > 0) ::
      (s.baseBytes.tail ++ (s.extBytes ++ rest)) := append_assoc ..
  rw [hbytes, deserialize_baseBytes, deserializeExtensions_extBytes, Outcome.ok_bind]

end Header

/-! ### The packet -/

namespace Packet

lemma deserialize_of_header {bytes data header}
    (h : Header.deserialize bytes = .ok (header, data)) :
    deserialize bytes = .ok ⟨header, data⟩ := by
  rw [deserialize, h, Outcome.ok_bind]
  change (Buf.copyToBytes data.length data >>= _) = _
  rw [Buf.copyToBytes, if_neg (Nat.lt_irrefl _), take_length, Outcome.ok_bind]

lemma deserialize_bytes (s : Packet) : deserialize (s.header.bytes ++ s.payload) = .ok s :=
  deserialize_of_header (s.header.deserialize_bytes s.payload)

/-- **Codec round trip.** Serializing a packet writes exactly `serializedLen` bytes, into a new
buffer or any given one that has the room, and deserializing them gives the packet back. With an
extension present the word count `w` after the base header covers itself, the records and the
padding: `4 (w + 1)` bytes. -/
theorem codec_round_trip (self : Packet) : ∃ bytes : Bytes, self.serialize = .ok bytes ∧
      bytes.length = self.serializedLen ∧ (∀ buf : BufMut, self.serializedLen ≤ buf.remaining →
        self.serializeInto buf = .ok (self.serializedLen, buf.push bytes)) ∧
      deserialize bytes = .ok self ∧
      (self.header.extensions ≠ {} → ∃ (base : Bytes) (w : UInt16) (padding : ℕ),
          bytes = base ++ beBytes 2 w.toNat ++ self.header.extensions.bytes ++
            List.replicate padding 0 ++ self.payload ∧ base.length = BASE_HEADER_LEN ∧
          4 * (w.toNat + 1) =
            EXT_WORDS_INDICATOR_SIZE + self.header.extensions.bytes.length + padding) := by
  refine ⟨self.header.bytes ++ self.payload, self.serialize_eq, ?_,
    fun buf hroom => self.serializeInto_eq hroom, self.deserialize_bytes, fun hext => ?_⟩
  · rw [length_append, Header.length_bytes]
    rfl
  · -- an extension has at least its marker, so the block is there
    have hpos : self.header.metrics.extLen > 0 := by
      by_contra hn
      exact hext (self.header.extensions_eq_of_extLen hn)
    refine ⟨self.header.baseBytes, self.header.extWordsField, self.header.metrics.paddingLen,
      ?_, self.header.length_baseBytes, self.header.extWordsField_spec⟩
    rw [Header.bytes, Header.extBytes, if_pos hpos]
    simp only [append_assoc]

end Packet

/-! ### Arbitrary bytes -/

def extFlag (raw : Bytes) : Bool := (raw.headD 0 >>> EXT_FLAG_SHIFT &&& EXT_FLAG_MASK) > 0

def extWords (raw : Bytes) : ℕ := (UInt16.ofNat (beNat ((raw.drop BASE_HEADER_LEN).take 2))).toNat

/-- The length of the header, as its fields announce it. -/
def headerLen (raw : Bytes) : ℕ :=
  if extFlag raw then BASE_HEADER_LEN + 4 * (extWords raw + 1) else BASE_HEADER_LEN

lemma Extensions.deserializeLoop_ensures (exts raw) :
    (deserializeLoop exts raw).Ensures fun _ => True := by
  have hext {ext : Type} {TAG : ExtensionTag} {LEN len : ℕ}
      {deserialize : List.Vector UInt8 LEN → ext} {raw : Bytes} (hlen : LEN ≤ len) :
      deserializeExt TAG LEN deserialize raw len ≠ .panic := by
    rw [deserializeExt]
    split
    · intro h
      cases h
    · rw [Buf.copyToSlice, dif_neg (by omega), Outcome.ok_bind]
      dsimp only
      rw [Buf.advance_eq (by rw [length_drop]; omega)]
      intro h
      cases h
  fun_induction deserializeLoop exts raw with
  | case1 | case2 | case5 | case9 => assumption
  | case3 | case6 | case8 | case10 | case12 => trivial
  | case4 _ _ _ _ _ htag hread | case7 _ _ _ _ _ _ htag hread =>
    exact absurd hread (hext htag.2)
  | case11 _ _ _ _ _ _ _ hsh hread =>
    rw [Buf.advance_eq (Nat.not_lt.mp hsh)] at hread
    cases hread

lemma Header.deserializeExtensions_ensures (flag : Bool) (raw : Bytes) :
    (deserializeExtensions flag raw).Ensures fun read => read.2 = raw.drop
      (if flag then 4 * ((UInt16.ofNat (beNat (raw.take 2))).toNat + 1) else 0) := by
  rw [deserializeExtensions]
  cases flag with
  | false => exact rfl
  | true =>
    rw [if_pos rfl]
    show Outcome.Ensures _ (if raw.length < 2 then _ else _)
    split
    · trivial
    next hsh =>
      rw [Buf.getU16_eq (Nat.not_lt.mp hsh), Outcome.ok_bind]
      dsimp only
      split
      · trivial
      next hlong =>
        rw [Buf.copyToBytes_eq (Nat.not_lt.mp hlong), Outcome.ok_bind]
        refine (Extensions.deserializeLoop_ensures {} _).bind fun _ _ => ?_
        show drop _ (drop 2 raw) = drop _ raw
        rw [drop_drop]
        congr 1
        simp only [EXT_WORDS_INDICATOR_SIZE]
        omega

/-- **Arbitrary bytes.** The reader does not panic. It returns an error, or a packet whose payload
is what follows the header as its flag and its word count announce it. -/
theorem Packet.deserialize_ensures (raw : Bytes) :
    (Packet.deserialize raw).Ensures fun packet => packet.payload = raw.drop (headerLen raw) := by
  have hheader : (Header.deserialize raw).Ensures fun read =>
      read.2 = raw.drop (headerLen raw) := by
    rw [Header.deserialize]
    split
    · trivial
    next hlong =>
      have hlen : 12 ≤ raw.length := Nat.not_lt.mp hlong
      rw [Buf.getU8_eq (by omega), Outcome.ok_bind]
      dsimp only
      split
      · trivial
      simp (disch := simp only [length_drop]; omega) only [Buf.advance_eq, Buf.getU16_eq,
        Buf.getU32_eq, Outcome.ok_bind, drop_drop, Nat.reduceAdd]
      have hh (value : UInt16) : ((Handle.tryFromU16 value).mapErr
          DeserializeError.invalidHandle).Ensures fun _ => True := by
        unfold Handle.tryFromU16
        split <;> trivial
      refine (hh _).bind fun _ _ => ?_
      refine (Header.deserializeExtensions_ensures _ _).bind fun read hread => ?_
      refine hread.trans ((drop_drop ..).trans (congrArg (raw.drop ·) ?_))
      show BASE_HEADER_LEN + (if extFlag raw then 4 * (extWords raw + 1) else 0) = headerLen raw
      unfold headerLen
      split <;> rfl
  refine hheader.bind fun ⟨_, data⟩ hread => ?_
  show (Buf.copyToBytes data.length data >>= _).Ensures _
  rw [Buf.copyToBytes_eq (Nat.le_refl _), Outcome.ok_bind, take_length]
  exact hread

end LiveKit.DataTrack
