import LiveKitRust.DataTrack.Codec

/-!
# What the reader tolerates in an extension block

The format allows zero padding before and after any extension, and the reader is meant to skip what
later versions may add. Padding is skipped two bytes at a time, the length of a marker
(`Packet.deserialize_padded_iff`): before a record, an odd number of zeros takes the tag of the
record with it. What is then read cannot be the extensions of the packet, since the loop never reads
more bytes that are not zero than there are (`Extensions.weight_le_of_deserializeLoop`).
-/

open Rust List

namespace LiveKit.DataTrack

open Consts

/-! ### Padding -/

def nonzero (bytes : Bytes) : ℕ := bytes.countP (· ≠ 0)

lemma nonzero_append (bytes bytes' : Bytes) :
    nonzero (bytes ++ bytes') = nonzero bytes + nonzero bytes' := countP_append

lemma nonzero_cons {byte} (h : byte ≠ 0) (bytes : Bytes) :
    nonzero (byte :: bytes) = nonzero bytes + 1 := countP_cons_of_pos (by simpa using h)

lemma nonzero_cons_le (byte : UInt8) (bytes : Bytes) :
    nonzero (byte :: bytes) ≤ nonzero bytes + 1 := by
  rw [nonzero, countP_cons]
  split <;> simp [nonzero]

namespace Extensions

/-- What is not zero in the records of the extensions. -/
def weight (self : Extensions) : ℕ := (self.known.map fun ext => nonzero (ext.longBytes [])).sum

lemma weight_store_le (extensions) (ext : Known) :
    (ext.store extensions).weight ≤ extensions.weight + nonzero (ext.longBytes []) := by
  obtain ⟨userTimestamp, e2ee⟩ := extensions
  cases ext with
  | e2ee | userTimestamp =>
    simp only [weight, known, Known.store, Option.toList_some, map_append, map_cons, map_nil,
      sum_append, sum_cons, sum_nil]
    omega

variable {extensions res : Extensions}

lemma weight_le_of_deserializeExt {tag len LEN raw rest} {ext : Type} {deserialize e}
    (known : ext → Known) (htag : tag ≠ 0) (hlen : LEN ≤ len.toNat) (hpos : 0 < LEN)
    (hkn : ∀ bs : List.Vector UInt8 LEN,
      (known (deserialize bs)).longBytes [] = tag :: UInt8.ofNat LEN :: bs.toList)
    (hread : deserializeExt tag LEN deserialize raw len.toNat = .ok (e, rest))
    (hr : res.weight ≤ ((known e).store extensions).weight + nonzero rest) :
    res.weight ≤ extensions.weight + nonzero (tag :: len :: raw) := by
  obtain ⟨bs, extra, rfl, rfl⟩ := exists_of_deserializeExt hread
  have hnonzero : len ≠ 0 := by
    rintro rfl
    exact absurd hlen (Nat.not_le.mpr hpos)
  have hstore := weight_store_le extensions (known (deserialize bs))
  rw [hkn bs, nonzero_cons htag] at hstore
  have hmarker := nonzero_cons_le (UInt8.ofNat LEN) bs.toList
  rw [nonzero_cons htag, nonzero_cons hnonzero, nonzero_append, nonzero_append]
  omega

lemma weight_le_of_deserializeLoop {raw} (h : deserializeLoop extensions raw = .ok res) :
    res.weight ≤ extensions.weight + nonzero raw := by
  have hskip {tag len : UInt8} {raw rest : Bytes} (hsuffix : rest <:+ raw) :
      nonzero rest ≤ nonzero (tag :: len :: raw) :=
    (hsuffix.sublist.trans ((sublist_cons_self ..).trans (sublist_cons_self ..))).countP_le
  fun_induction deserializeLoop extensions raw with
  | case1 extensions len rest ih =>
    exact (ih h).trans (Nat.add_le_add_left (hskip suffix_rfl) _)
  | case2 extensions tag len raw _ htag e rest hread ih =>
    obtain ⟨rfl, hlen⟩ := htag
    refine weight_le_of_deserializeExt .e2ee (by decide) hlen (by decide) ?_ hread (ih h)
    rintro ⟨_ | ⟨keyIndex, iv⟩, hbs⟩
    · cases hbs
    · exact append_nil _
  | case5 extensions tag len raw _ _ htag e rest hread ih =>
    obtain ⟨rfl, hlen⟩ := htag
    refine weight_le_of_deserializeExt .userTimestamp (by decide) hlen (by decide) ?_ hread (ih h)
    intro bs
    have hlength : bs.toList.length = 8 := bs.toList_length
    have hbs := beBytes_beNat bs.toList
    have hvalue := beNat_lt bs.toList
    rw [hlength] at hbs hvalue
    show UserTimestampExt.TAG :: _ :: beBytes 8 (UInt64.ofNat (beNat bs.toList)).toNat ++ [] = _
    rw [append_nil, UInt64.toNat_ofNat_of_lt' hvalue, hbs]
    rfl
  | case9 extensions tag len raw _ _ _ _ rest hread ih =>
    exact (ih h).trans (Nat.add_le_add_left (hskip ⟨_, Buf.eq_of_advance hread⟩) _)
  | case12 =>
    cases h
    exact Nat.le_add_right ..
  | _ => cases h

/-- Records as they are written, with zeros before each of them and after the last one. -/
def padded (records : List (ℕ × Known)) (n : ℕ) : Bytes :=
  block (records.map fun record => (record.1, .plain record.2)) n

lemma padded_cons (record recs n) :
    padded (record :: recs) n =
      replicate record.1 0 ++ (record.2.longBytes [] ++ padded recs n) := by
  simp [padded, block, Record.bytes, Record.plain]

lemma nonzero_padded (recs n) :
    nonzero (padded recs n) = (recs.map fun record => nonzero (record.2.longBytes [])).sum := by
  have hzeros (n : ℕ) : nonzero (replicate n 0) = 0 := by simp [nonzero]
  induction recs with
  | nil => exact hzeros n
  | cons _ _ ih =>
    rw [padded_cons, nonzero_append, nonzero_append, hzeros, ih, Nat.zero_add]
    rfl

lemma weight_lt_of_odd {recs n} (hodd : ∃ record ∈ recs, record.1 % 2 ≠ 0)
    (h : deserializeLoop extensions (padded recs n) = .ok res) :
    res.weight < extensions.weight + nonzero (padded recs n) := by
  induction recs generalizing extensions with
  | nil => simp at hodd
  | cons record recs ih =>
    obtain ⟨tag, rest, hbytes, htag⟩ := (Record.plain record.2).exists_bytes
    have hbytes : record.2.longBytes [] = tag :: rest := hbytes
    have htotal : nonzero (padded (record :: recs) n) =
        nonzero (record.2.longBytes []) + nonzero (padded recs n) := by
      simp [nonzero_padded]
    rw [padded_cons, hbytes, cons_append, deserializeLoop_zeros] at h
    rw [htotal]
    by_cases heven : record.1 % 2 = 0
    · rw [if_pos heven, ← cons_append, ← hbytes] at h
      have hrecord := deserializeLoop_record extensions (.plain record.2) (padded recs n)
      have hla : ∃ record ∈ recs, record.1 % 2 ≠ 0 := by simpa [heven] using hodd
      have hlt := ih hla (hrecord.symm.trans h)
      have hstore : (Record.store extensions (.plain record.2)).weight ≤ _ :=
        weight_store_le extensions record.2
      omega
    · rw [if_neg heven] at h
      have hle := weight_le_of_deserializeLoop h
      rw [nonzero_append] at hle
      rw [hbytes, nonzero_cons htag]
      omega

lemma foldl_store_of_perm {s exts} (h : exts ~ s.known) : exts.foldl Known.store {} = s := by
  have hcomm : ∀ ext ∈ exts, ∀ ext' ∈ exts, ∀ extensions,
      ext'.store (ext.store extensions) = ext.store (ext'.store extensions) := by
    intro ext hm ext' hm' extensions
    rw [h.mem_iff] at hm hm'
    -- there is only one of each kind
    cases ext <;> cases ext' <;> simp_all [known, Known.store]
  rw [h.foldl_eq' hcomm, foldl_store_known]

end Extensions

namespace Packet

open Extensions

def withBlock (self : Packet) (words : UInt16) (block : Bytes) : Bytes :=
  Header.initialByte self.header.marker true :: (self.header.baseBytes.tail ++
    (beBytes 2 words.toNat ++ (block ++ self.payload)))

lemma deserialize_withBlock (s : Packet) {words block}
    (h : 4 * (words.toNat + 1) = EXT_WORDS_INDICATOR_SIZE + block.length) :
    deserialize (s.withBlock words block) = .ok s ↔
      Extensions.deserialize block = .ok s.header.extensions := by
  have hheader := s.header.deserialize_baseBytes true
    (beBytes 2 words.toNat ++ (block ++ s.payload))
  rw [Header.deserializeExtensions_block h] at hheader
  cases hblock : Extensions.deserialize block with
  | ok extensions =>
    rw [hblock] at hheader
    have hread := deserialize_of_header hheader
    rw [withBlock, hread]
    obtain ⟨⟨_, _, _, _, _, _⟩, _⟩ := s
    simp
  | err | panic =>
    rw [hblock] at hheader
    rw [withBlock, deserialize, hheader]
    simp

/-- **Padding.** Zeros between the records of a packet, in whichever order these are, are read
over if and only if there is an even number of them before each record. -/
theorem deserialize_padded_iff (self : Packet) (records : List (ℕ × Known)) (n : ℕ)
    (words : UInt16) (h_records : records.map (·.2) ~ self.header.extensions.known)
    (h_words : 4 * (words.toNat + 1) = EXT_WORDS_INDICATOR_SIZE + (padded records n).length) :
    deserialize (self.withBlock words (padded records n)) = .ok self ↔
      ∀ record ∈ records, record.1 % 2 = 0 := by
  rw [deserialize_withBlock self h_words]
  constructor
  · intro hread
    by_contra! hodd
    have hlt := weight_lt_of_odd hodd hread
    -- but the bytes of the records are all that is not zero
    have hsum := (h_records.map fun ext => nonzero (ext.longBytes [])).sum_eq
    rw [map_map] at hsum
    rw [nonzero_padded] at hlt
    exact Nat.lt_irrefl _ (hlt.trans_eq ((Nat.zero_add _).trans hsum))
  · intro heven
    have hknown : (records.map fun record => (record.1, Record.plain record.2)).filterMap
        (·.2.known?) = records.map (·.2) := by
      simp [filterMap_map, Record.plain, Record.known?]
    rw [Extensions.deserialize, padded, deserializeLoop_block _ (forall_mem_map.mpr heven), hknown,
      foldl_store_of_perm h_records]

/-- Two zeros before the timestamp. -/
theorem deserialize_padded_two :
    let packet : Packet := ⟨⟨.single, .one, 0, 0, ⟨0⟩, { userTimestamp := some ⟨5⟩ }⟩, [9]⟩
    deserialize (packet.withBlock 3 (padded [(2, .userTimestamp ⟨5⟩)] 2)) = .ok packet :=
  (deserialize_padded_iff _ [(2, .userTimestamp ⟨5⟩)] 2 3 (.refl _) rfl).mpr (by decide)

/-- One zero before the timestamp: the timestamp is gone. -/
theorem deserialize_padded_one :
    let packet : Packet := ⟨⟨.single, .one, 0, 0, ⟨0⟩, { userTimestamp := some ⟨5⟩ }⟩, [9]⟩
    deserialize (packet.withBlock 3 (padded [(1, .userTimestamp ⟨5⟩)] 3)) ≠ .ok packet := by
  intro packet
  rw [Ne, deserialize_withBlock packet rfl]
  intro hread
  exact absurd (weight_lt_of_odd ⟨_, .head _, by decide⟩ hread) (by decide)

/-- **Extensions of later versions.** Records of unknown extensions are skipped wherever they are,
and so is what was added to the records of known extensions. -/
theorem deserialize_extended (self : Packet) (records : List Record) (n : ℕ) (words : UInt16)
    (h_known : records.filterMap Record.known? = self.header.extensions.known)
    (h_words : 4 * (words.toNat + 1) =
      EXT_WORDS_INDICATOR_SIZE + (block (records.map (Prod.mk 0)) n).length) :
    deserialize (self.withBlock words (block (records.map (Prod.mk 0)) n)) = .ok self := by
  rw [deserialize_withBlock self h_words, Extensions.deserialize,
    deserializeLoop_block _ (by simp), filterMap_map]
  show Outcome.ok ((records.filterMap Record.known?).foldl Known.store {}) = _
  rw [h_known, foldl_store_known]

/-- An unknown record comes first, and the timestamp has a byte more than it needs. -/
theorem deserialize_extended_timestamp :
    let packet : Packet := ⟨⟨.single, .one, 0, 0, ⟨0⟩, { userTimestamp := some ⟨5⟩ }⟩, [9]⟩
    let records := [.unknown 7 [1, 2] (by decide) (by decide),
      .known (.userTimestamp ⟨5⟩) [3] (by decide)]
    deserialize (packet.withBlock 4 (block (records.map (Prod.mk 0)) 3)) = .ok packet :=
  deserialize_extended _ _ 3 4 rfl rfl

end Packet

end LiveKit.DataTrack
