import LiveKitRust.DataTrack.Serialize

/-!
# Deserializing a packet

The reader of `packet/deserialize.rs`. The header is read field by field; the extension block is cut
off first and then read record by record, in a loop that skips padding, records of an unknown tag
and records shorter than the extension they are tagged as. Each round takes the two bytes of a
marker off the block, so the loop ends.
-/

open Rust List

namespace LiveKit.DataTrack

open Consts

inductive DeserializeError where
  | tooShort
  | headerOverrun
  | missingExtWords
  | unsupportedVersion (version : UInt8)
  | invalidHandle (error : HandleError)
  | malformedExt (tag : ExtensionTag)
  deriving DecidableEq

/-! ### Extensions -/

def UserTimestampExt.deserialize (raw : List.Vector UInt8 UserTimestampExt.LEN) :
    UserTimestampExt :=
  ⟨UInt64.ofNat (beNat raw.toList)⟩

def E2eeExt.deserialize (raw : List.Vector UInt8 E2eeExt.LEN) : E2eeExt :=
  ⟨raw.head, raw.tail⟩

/-- The `deserialize_ext!` macro: read the known bytes of a record of `len` bytes and skip the rest,
which a future version of the extension may have added. -/
def deserializeExt {ext : Type} (TAG : ExtensionTag) (LEN : ℕ)
    (deserialize : List.Vector UInt8 LEN → ext) (raw : Bytes) (len : ℕ) :
    Outcome DeserializeError (ext × Bytes) := do
  if raw.length < len then .err (.malformedExt TAG) else
  let (buf, raw) ← Buf.copyToSlice LEN raw
  let extraBytes := len - LEN
  let raw ← Buf.advance extraBytes raw
  .ok (deserialize buf, raw)

section

variable {len : ℕ} {ext : Type} {TAG : ExtensionTag} {LEN : ℕ}
  {deserialize : List.Vector UInt8 LEN → ext} {raw rest : Bytes} {e : ext}
  (h : deserializeExt TAG LEN deserialize raw len = .ok (e, rest))
include h

lemma exists_of_deserializeExt : ∃ (bs : List.Vector UInt8 LEN) (extra : Bytes),
      raw = bs.toList ++ (extra ++ rest) ∧ e = deserialize bs := by
  rw [deserializeExt] at h
  split at h
  · cases h
  · rw [Outcome.bind_eq_ok] at h
    obtain ⟨⟨bs, tail⟩, hcopy, h⟩ := h
    rw [Outcome.bind_eq_ok] at h
    obtain ⟨_, hadvance, h⟩ := h
    cases h
    refine ⟨bs, tail.take (len - LEN), ?_, rfl⟩
    rw [Buf.eq_of_advance hadvance]
    exact Buf.eq_of_copyToSlice hcopy

lemma deserializeExt_length : rest.length ≤ raw.length := by
  obtain ⟨_, _, rfl, -⟩ := exists_of_deserializeExt h
  simp only [length_append]
  omega

end

namespace Extensions

def deserializeLoop (extensions : Extensions) (raw : Bytes) : Outcome DeserializeError Extensions :=
  match raw with
  | tag :: len :: rest =>
    if tag = EXT_TAG_PADDING then
      deserializeLoop extensions rest -- Skip padding
    else if tag = E2eeExt.TAG ∧ len.toNat ≥ E2eeExt.LEN then
      match _h : deserializeExt E2eeExt.TAG E2eeExt.LEN E2eeExt.deserialize rest len.toNat with
      | .ok (e2ee, rest') => deserializeLoop { extensions with e2ee := some e2ee } rest'
      | .err e => .err e
      | .panic => .panic
    else if tag = UserTimestampExt.TAG ∧ len.toNat ≥ UserTimestampExt.LEN then
      match _h : deserializeExt UserTimestampExt.TAG UserTimestampExt.LEN
          UserTimestampExt.deserialize rest len.toNat with
      | .ok (userTimestamp, rest') =>
        deserializeLoop { extensions with userTimestamp := some userTimestamp } rest'
      | .err e => .err e
      | .panic => .panic
    else if rest.length < len.toNat then
      -- Skip over unknown or length-mismatched extensions (forward compatible).
      .err (.malformedExt tag)
    else
      match _h : Buf.advance (ε := DeserializeError) len.toNat rest with
      | .ok rest' => deserializeLoop extensions rest'
      | .err e => .err e
      | .panic => .panic
  | _ => .ok extensions
termination_by raw.length
decreasing_by
  · simp only [List.length_cons]
    omega
  · have h_le := deserializeExt_length _h
    simp only [List.length_cons]
    omega
  · have h_le := deserializeExt_length _h
    simp only [List.length_cons]
    omega
  · rw [← Buf.eq_of_advance _h]
    simp only [List.length_cons, List.length_append]
    omega

def deserialize (raw : Bytes) : Outcome DeserializeError Extensions :=
  deserializeLoop {} raw

end Extensions

/-! ### Header and packet -/

namespace Header

def markerOf (initial : UInt8) : FrameMarker :=
  let bits := initial >>> FRAME_MARKER_SHIFT &&& FRAME_MARKER_MASK
  if bits = FRAME_MARKER_START then .start
  else if bits = FRAME_MARKER_FINAL then .final
  else if bits = FRAME_MARKER_SINGLE then .single
  else .inter

/-- The block of `Header::deserialize` guarded by the extension flag; without it the extensions are
the default ones. -/
def deserializeExtensions (extFlag : Bool) (raw : Bytes) :
    Outcome DeserializeError (Extensions × Bytes) := do
  if ¬ extFlag then .ok ({}, raw) else
  if raw.length < 2 then .err .missingExtWords else
  let (extWords, raw) ← Buf.getU16 raw
  let extLen := 4 * (extWords.toNat + 1) - EXT_WORDS_INDICATOR_SIZE
  if extLen > raw.length then .err .headerOverrun else
  let (extBlock, raw) ← Buf.copyToBytes extLen raw
  let extensions ← Extensions.deserialize extBlock
  .ok (extensions, raw)

def deserialize (raw : Bytes) : Outcome DeserializeError (Header × Bytes) := do
  if raw.length < BASE_HEADER_LEN then .err .tooShort else
  let (initial, raw) ← Buf.getU8 raw
  let version := initial >>> VERSION_SHIFT &&& VERSION_MASK
  if version > SUPPORTED_VERSION then .err (.unsupportedVersion version) else
  let marker := markerOf initial
  let extFlag : Bool := (initial >>> EXT_FLAG_SHIFT &&& EXT_FLAG_MASK) > 0
  let raw ← Buf.advance 1 raw -- Reserved
  let (handle, raw) ← Buf.getU16 raw
  let trackHandle ← (Handle.tryFromU16 handle).mapErr DeserializeError.invalidHandle
  let (sequence, raw) ← Buf.getU16 raw
  let (frameNumber, raw) ← Buf.getU16 raw
  let (ticks, raw) ← Buf.getU32 raw
  let (extensions, raw) ← deserializeExtensions extFlag raw
  .ok (⟨marker, trackHandle, sequence, frameNumber, ⟨ticks⟩, extensions⟩, raw)

end Header

def Packet.deserialize (raw : Bytes) : Outcome DeserializeError Packet := do
  let (header, raw) ← Header.deserialize raw
  let payloadLen := raw.length
  let (payload, _) ← Buf.copyToBytes payloadLen raw
  .ok ⟨header, payload⟩

/-! ### Reading the records that are written -/

lemma deserializeExt_append {ext : Type} (TAG) {LEN} (deserialize : List.Vector UInt8 LEN → ext)
    (bs extra rest) :
    deserializeExt TAG LEN deserialize (bs.toList ++ (extra ++ rest)) (LEN + extra.length) =
      .ok (deserialize bs, rest) := by
  have hlen : ¬ (bs.toList ++ (extra ++ rest)).length < LEN + extra.length := by simp
  rw [deserializeExt, if_neg hlen, Buf.copyToSlice_append, Outcome.ok_bind]
  change (Buf.advance (LEN + extra.length - LEN) (extra ++ rest) >>= _) = _
  rw [Nat.add_sub_cancel_left, Buf.advance, if_neg (by simp), drop_left, Outcome.ok_bind]

def E2eeExt.longBytes (self : E2eeExt) (extra : Bytes) : Bytes :=
  E2eeExt.TAG :: UInt8.ofNat (E2eeExt.LEN + extra.length) :: self.keyIndex ::
    self.iv.toList ++ extra

/-- The record of a user timestamp extension, with bytes added to it. -/
def UserTimestampExt.longBytes (self : UserTimestampExt) (extra : Bytes) : Bytes :=
  UserTimestampExt.TAG :: UInt8.ofNat (UserTimestampExt.LEN + extra.length) ::
    beBytes 8 self.value.toNat ++ extra

namespace Extensions

variable {extra : Bytes}

variable (exts : Extensions)

lemma deserializeLoop_e2ee (e rest) (h : E2eeExt.LEN + extra.length < 256) :
    deserializeLoop exts (e.longBytes extra ++ rest) =
      deserializeLoop { exts with e2ee := some e } rest := by
  have hlen := UInt8.toNat_ofNat_of_lt' h
  have hread : deserializeExt E2eeExt.TAG E2eeExt.LEN E2eeExt.deserialize
      (e.keyIndex :: e.iv.toList ++ (extra ++ rest)) (E2eeExt.LEN + extra.length) = .ok (e, rest) :=
    deserializeExt_append E2eeExt.TAG E2eeExt.deserialize (e.keyIndex ::ᵥ e.iv) extra rest
  rw [E2eeExt.longBytes, append_assoc, cons_append, cons_append, deserializeLoop,
    if_neg (by decide), if_pos ⟨rfl, by rw [hlen]; exact Nat.le_add_right _ _⟩]
  generalize hx : deserializeExt E2eeExt.TAG E2eeExt.LEN E2eeExt.deserialize _ _ = x
  rw [hlen] at hx
  cases hread.symm.trans hx
  rfl

lemma deserializeLoop_userTimestamp (ts rest) (h : UserTimestampExt.LEN + extra.length < 256) :
    deserializeLoop exts (ts.longBytes extra ++ rest) =
      deserializeLoop { exts with userTimestamp := some ts } rest := by
  -- the eight bytes of a `u64` say all of it
  have hvalue : ts.value.toNat % 256 ^ 8 = ts.value.toNat := Nat.mod_eq_of_lt ts.value.toNat_lt
  have hts : UserTimestampExt.deserialize ⟨beBytes 8 ts.value.toNat, length_beBytes 8 _⟩ = ts := by
    change (⟨UInt64.ofNat (beNat (beBytes 8 ts.value.toNat))⟩ : UserTimestampExt) = ts
    rw [beNat_beBytes, hvalue, UInt64.ofNat_toNat]
  have hlen := UInt8.toNat_ofNat_of_lt' h
  have hread := deserializeExt_append UserTimestampExt.TAG UserTimestampExt.deserialize
    ⟨beBytes 8 ts.value.toNat, length_beBytes 8 _⟩ extra rest
  rw [hts] at hread
  -- neither padding nor the other tag
  rw [UserTimestampExt.longBytes, append_assoc, cons_append, cons_append, deserializeLoop,
    if_neg (by decide), if_neg fun htag => absurd htag.1 (by decide),
    if_pos ⟨rfl, by rw [hlen]; exact Nat.le_add_right _ _⟩]
  generalize hx : deserializeExt UserTimestampExt.TAG UserTimestampExt.LEN
    UserTimestampExt.deserialize _ _ = x
  rw [hlen] at hx
  cases hread.symm.trans hx
  rfl

lemma deserializeLoop_zeros (n : ℕ) (byte : UInt8) (rest : Bytes) :
    deserializeLoop exts (replicate n 0 ++ byte :: rest) =
      deserializeLoop exts (if n % 2 = 0 then byte :: rest else rest) := by
  induction n using Nat.twoStepInduction with
  | zero => rfl
  | one => rw [replicate_one, singleton_append, deserializeLoop, if_pos (by decide)]; rfl
  | more _ ih =>
    rw [replicate_succ, replicate_succ, cons_append, cons_append, deserializeLoop,
      if_pos (by decide), Nat.add_mod_right]
    exact ih

lemma deserializeLoop_padding (n : ℕ) : deserializeLoop exts (replicate n 0) = .ok exts := by
  cases n with
  | zero => rw [replicate_zero, deserializeLoop]; simp
  | succ n =>
    rw [replicate_succ', deserializeLoop_zeros]
    split <;> rw [deserializeLoop] <;> simp

end Extensions

/-! ### Records -/

/-- An extension that this version reads. -/
inductive Known where
  | e2ee (ext : E2eeExt)
  | userTimestamp (ext : UserTimestampExt)

namespace Known

def LEN : Known → ℕ
  | e2ee _ => E2eeExt.LEN
  | userTimestamp _ => UserTimestampExt.LEN

/-- The record of the extension, with bytes added to it. -/
def longBytes (extra : Bytes) : Known → Bytes
  | e2ee ext => ext.longBytes extra
  | userTimestamp ext => ext.longBytes extra

def store (extensions : Extensions) : Known → Extensions
  | e2ee ext => { extensions with e2ee := some ext }
  | userTimestamp ext => { extensions with userTimestamp := some ext }

end Known

/-- A later version may have added bytes to the extensions that are known, and extensions that are
not. -/
inductive Record where
  | known (ext : Known) (extra : Bytes) (h_len : ext.LEN + extra.length < 256)
  | unknown (tag : ExtensionTag) (contents : Bytes)
      (h_tag : tag ∉ [EXT_TAG_PADDING, E2eeExt.TAG, UserTimestampExt.TAG])
      (h_len : contents.length < 256)

namespace Record

def bytes : Record → Bytes
  | known ext extra _ => ext.longBytes extra
  | unknown tag contents _ _ => tag :: UInt8.ofNat contents.length :: contents

def known? : Record → Option Known
  | known ext _ _ => some ext
  | unknown .. => none

def store (extensions : Extensions) (self : Record) : Extensions :=
  self.known?.elim extensions (Known.store extensions)

/-- A record as this version writes it. -/
def plain (ext : Known) : Record := known ext [] (by cases ext <;> exact Nat.lt_of_sub_eq_succ rfl)

lemma exists_bytes (s : Record) : ∃ tag rest, s.bytes = tag :: rest ∧ tag ≠ 0 := by
  cases s with
  | known ext => cases ext <;> exact ⟨_, _, rfl, by decide⟩
  | unknown tag _ htag => exact ⟨tag, _, rfl, fun h => htag (h ▸ mem_cons_self)⟩

end Record

/-- Records with zeros before each of them, and after the last one. -/
def block (records : List (ℕ × Record)) (n : ℕ) : Bytes :=
  records.flatMap (fun record => replicate record.1 0 ++ record.2.bytes) ++ replicate n 0

namespace Extensions

/-- The extensions in the order they are written. -/
def known (self : Extensions) : List Known :=
  self.e2ee.toList.map .e2ee ++ self.userTimestamp.toList.map .userTimestamp

lemma foldl_store_known (s : Extensions) : s.known.foldl Known.store {} = s := by
  obtain ⟨_ | _, _ | _⟩ := s <;> rfl

variable (exts : Extensions)

lemma deserializeLoop_record (record : Record) (rest : Bytes) :
    deserializeLoop exts (record.bytes ++ rest) = deserializeLoop (record.store exts) rest := by
  cases record with
  | known ext _ hlen =>
    cases ext with
    | e2ee e => exact deserializeLoop_e2ee exts e rest hlen
    | userTimestamp ts => exact deserializeLoop_userTimestamp exts ts rest hlen
  | unknown tag cs htag hlen =>
    simp only [mem_cons, not_mem_nil, or_false, not_or] at htag
    have hcontents := UInt8.toNat_ofNat_of_lt' hlen
    rw [Record.bytes, cons_append, cons_append, deserializeLoop, if_neg htag.1,
      if_neg fun h => htag.2.1 h.1, if_neg fun h => htag.2.2 h.1, if_neg (by simp [hcontents])]
    generalize hx : Buf.advance _ (cs ++ rest) = x
    rw [hcontents, Buf.advance_eq (by simp), drop_left] at hx
    cases hx
    rfl

lemma deserializeLoop_block {recs} (h : ∀ record ∈ recs, record.1 % 2 = 0) (n : ℕ) :
    deserializeLoop exts (block recs n) =
      .ok ((recs.filterMap (·.2.known?)).foldl Known.store exts) := by
  induction recs generalizing exts with
  | nil => exact deserializeLoop_padding exts n
  | cons record recs ih =>
    obtain ⟨tag, rest, hbytes, -⟩ := record.2.exists_bytes
    have hblock : block (record :: recs) n =
        replicate record.1 0 ++ tag :: (rest ++ block recs n) := by
      simp [block, hbytes]
    have hrecord : tag :: (rest ++ block recs n) = record.2.bytes ++ block recs n := by
      rw [hbytes, cons_append]
    rw [hblock, deserializeLoop_zeros, if_pos (h record mem_cons_self), hrecord,
      deserializeLoop_record, ih _ fun record hm => h record (mem_cons_of_mem _ hm), filterMap_cons]
    cases record.2 <;> rfl

lemma deserialize_bytes (s : Extensions) (n : ℕ) :
    deserialize (s.bytes ++ replicate n 0) = .ok s := by
  have hbytes : block (s.known.map fun ext => (0, .plain ext)) n = s.bytes ++ replicate n 0 := by
    have he2ee (e : E2eeExt) : e.longBytes [] = e.bytes := append_nil _
    have hts (ts : UserTimestampExt) : ts.longBytes [] = ts.bytes := append_nil _
    obtain ⟨_ | _, _ | _⟩ := s <;>
      simp [block, known, bytes, Record.bytes, Record.plain, Known.longBytes, he2ee, hts]
  rw [← hbytes, deserialize, deserializeLoop_block _ (by simp)]
  simp [filterMap_map, Record.plain, Record.known?, foldl_store_known]

end Extensions

end LiveKit.DataTrack
