import LiveKitRust.Base.Iterator
import LiveKitRust.Base.Outcome
import LiveKitRust.Base.Utf8

/-!
# Splitting what is written into chunks

A write is sent in chunks of at most `CHUNK_SIZE` bytes. Bytes are cut by `slice::chunks`
(`Chunks`), text by `Utf8AwareChunks`, which goes back from the chunk size to a byte that does not
continue a character.

The loops over the iterators end, with these chunks (`yields_chunks`, `yields_utf8AwareChunks`). On
bytes that are not a text the second one may not end: where all bytes up to the chunk size continue
a character, `next` gives an empty chunk and leaves the bytes as they are.
-/

open Rust List

namespace LiveKit.DataStream

abbrev Bytes := List UInt8

structure IsChunking (chunkSize : ℕ) (bytes : Bytes) (pieces : List Bytes) : Prop where
  flatten : pieces.flatten = bytes
  ne_nil : ∀ piece ∈ pieces, piece ≠ []
  length_le : ∀ piece ∈ pieces, piece.length ≤ chunkSize

lemma IsChunking.nil (chunkSize : ℕ) : IsChunking chunkSize [] [] := ⟨rfl, by simp, by simp⟩

variable {chunkSize : ℕ} {pieces : List Bytes}

lemma IsChunking.cons {piece rest} (hne : piece ≠ []) (hle : piece.length ≤ chunkSize)
    (h : IsChunking chunkSize rest pieces) :
    IsChunking chunkSize (piece ++ rest) (piece :: pieces) where
  flatten := by rw [flatten_cons, h.flatten]
  ne_nil := forall_mem_cons.mpr ⟨hne, h.ne_nil⟩
  length_le := forall_mem_cons.mpr ⟨hle, h.length_le⟩

/-! ### Bytes -/

structure Chunks where
  bytes : Bytes
  chunkSize : ℕ

namespace Chunks

def next (self : Chunks) : Option (Bytes × Chunks) :=
  if self.bytes.isEmpty then none
  else some (self.bytes.take self.chunkSize, { self with bytes := self.bytes.drop self.chunkSize })

variable {s : Chunks}

lemma next_eq_none : s.next = none ↔ s.bytes = [] := by
  unfold next
  split
  next h => exact iff_of_true rfl (isEmpty_iff.mp h)
  next h => exact iff_of_false (by simp) fun hnil => h (isEmpty_iff.mpr hnil)

lemma next_eq_some {rest piece} (h : s.next = some (piece, rest)) :
    s.bytes ≠ [] ∧ piece = s.bytes.take s.chunkSize ∧
      rest = { s with bytes := s.bytes.drop s.chunkSize } := by
  unfold next at h
  split at h
  next => cases h
  next hne =>
    cases h
    exact ⟨fun hnil => hne (isEmpty_iff.mpr hnil), rfl, rfl⟩

lemma isChunking {pieces} (h : Iterator.Yields next s pieces) (hpos : 0 < s.chunkSize) :
    IsChunking s.chunkSize s.bytes pieces := by
  induction h with
  | nil hend =>
    rw [next_eq_none.mp hend]
    exact .nil _
  | @cons s _ _ _ hn _ ih =>
    obtain ⟨hne, rfl, rfl⟩ := next_eq_some hn
    have hpiece : s.bytes.take s.chunkSize ≠ [] := by
      rw [Ne, take_eq_nil_iff]
      rintro (hzero | hnil)
      · exact hpos.ne' hzero
      · exact hne hnil
    have hcut := IsChunking.cons hpiece (length_take_le _ _) (ih hpos)
    rwa [take_append_drop] at hcut

end Chunks

def chunks (chunkSize : ℕ) (bytes : Bytes) : List Bytes :=
  Iterator.collect Chunks.next (bytes.length + 1) ⟨bytes, chunkSize⟩

lemma yields_chunks (hpos : 0 < chunkSize) (bytes : Bytes) :
    Iterator.Yields Chunks.next ⟨bytes, chunkSize⟩ (chunks chunkSize bytes) := by
  refine Iterator.yields_collect (P := fun self => 0 < self.chunkSize)
    (fun self => self.bytes.length) ?_ hpos (Nat.lt_succ_self _)
  intro _ _ _ hpos hn
  obtain ⟨hne, -, rfl⟩ := Chunks.next_eq_some hn
  refine ⟨hpos, ?_⟩
  have hlen := length_pos_iff.mpr hne
  rw [length_drop]
  omega

lemma isChunking_chunks (hpos : 0 < chunkSize) (bytes : Bytes) :
    IsChunking chunkSize bytes (chunks chunkSize bytes) :=
  Chunks.isChunking (yields_chunks hpos bytes) hpos

/-! ### Text -/

structure Utf8AwareChunks where
  bytes : Bytes
  chunkSize : ℕ

namespace Utf8AwareChunks

def new (bytes : Bytes) (chunkSize : ℕ) : Outcome Empty Utf8AwareChunks :=
  if chunkSize < 4 then .panic else .ok ⟨bytes, chunkSize⟩

/-- The loop of `next`: from `k` down to a byte that does not continue a character,
or to the beginning. -/
def boundary (bytes : Bytes) : (k : ℕ) → k < bytes.length → ℕ
  | 0, _ => 0
  | k + 1, h =>
    if bytes[k + 1] &&& 0xc0 ≠ 0x80 then k + 1 else boundary bytes k (Nat.lt_of_succ_lt h)

def next (self : Utf8AwareChunks) : Option (Bytes × Utf8AwareChunks) :=
  if self.bytes.isEmpty then none
  else if h : self.bytes.length ≤ self.chunkSize then some (self.bytes, { self with bytes := [] })
  else
    let k := boundary self.bytes self.chunkSize (Nat.lt_of_not_le h)
    some (self.bytes.take k, { self with bytes := self.bytes.drop k })

/-- The loop does not go past a byte that begins a character, and stops at one unless
it comes to the beginning. -/
lemma boundary_spec {bytes k} (h : k < bytes.length) : boundary bytes k h ≤ k ∧
      (∀ j ≤ k, ∀ byte, bytes[j]? = some byte → ¬ Utf8.IsContinuation byte →
        j ≤ boundary bytes k h) ∧ (boundary bytes k h = 0 ∨
        ∀ byte ∈ bytes[boundary bytes k h]?, ¬ Utf8.IsContinuation byte) := by
  induction k with
  | zero =>
    refine ⟨Nat.le_refl 0, fun j hle _ _ _ => ?_, .inl rfl⟩
    rw [Nat.le_zero.mp hle]
    exact Nat.zero_le _
  | succ _ ih =>
    rw [boundary]
    split
    next hst =>
      refine ⟨Nat.le_refl _, fun j hle _ _ _ => hle, .inr fun byte hbyte => ?_⟩
      rw [getElem?_eq_getElem h] at hbyte
      cases hbyte
      exact hst
    next hinside =>
      obtain ⟨hle, hbef, hstop⟩ := ih (Nat.lt_of_succ_lt h)
      refine ⟨Nat.le_succ_of_le hle, fun j hj byte hbyte hnot => ?_, hstop⟩
      rcases Nat.le_succ_iff.mp hj with hj | rfl
      · exact hbef j hj byte hbyte hnot
      · rw [getElem?_eq_getElem h] at hbyte
        cases hbyte
        exact absurd hnot hinside

lemma next_eq_none {s : Utf8AwareChunks} : s.next = none ↔ s.bytes = [] := by
  unfold next
  split
  next h => exact iff_of_true rfl (isEmpty_iff.mp h)
  next h =>
    refine iff_of_false ?_ fun hnil => h (isEmpty_iff.mpr hnil)
    split <;> simp

lemma next_encode {chars chunkSize} (hsize : 4 ≤ chunkSize) {piece rest}
    (h : next ⟨Utf8.encode chars, chunkSize⟩ = some (piece, rest)) :
    ∃ left right, chars = left ++ right ∧ piece = Utf8.encode left ∧
      rest = ⟨Utf8.encode right, chunkSize⟩ ∧ piece ≠ [] ∧ piece.length ≤ chunkSize ∧
      ∀ left' right', chars = left' ++ right' → (Utf8.encode left').length ≤ chunkSize →
        (Utf8.encode left').length ≤ piece.length := by
  unfold next at h
  split at h
  next => cases h
  next hne =>
  have hne : Utf8.encode chars ≠ [] := fun hnil => hne (isEmpty_iff.mpr hnil)
  split at h
  next hle =>
    -- all of it
    cases h
    refine ⟨chars, [], (append_nil chars).symm, rfl, rfl, hne, hle, ?_⟩
    rintro left' right' rfl -
    rw [Utf8.encode_append, length_append]
    exact Nat.le_add_right _ _
  next hlong =>
    have hlt : chunkSize < (Utf8.encode chars).length := Nat.lt_of_not_le hlong
    obtain ⟨hle, hbef, hstop⟩ := boundary_spec hlt
    -- the loop stops after at most three bytes, so not at the beginning
    obtain ⟨j, hj, _, byte, hbyte, hnot⟩ := Utf8.exists_boundary chars hlt
    have hpos : 0 < boundary (Utf8.encode chars) chunkSize hlt := by
      have := hbef j hj byte hbyte hnot
      omega
    -- it does not go past a character that begins before the chunk size
    have hlast : ∀ left' right', chars = left' ++ right' → (Utf8.encode left').length ≤ chunkSize →
          (Utf8.encode left').length ≤ boundary (Utf8.encode chars) chunkSize hlt := by
      rintro left' right' rfl hreach
      have hright : right' ≠ [] := by
        rintro rfl
        rw [append_nil] at hlt
        omega
      obtain ⟨byte, hbyte, hnot⟩ := Utf8.exists_first left' hright
      exact hbef _ hreach byte hbyte hnot
    obtain ⟨left, right, rfl, hlen⟩ :=
      Utf8.exists_split chars (hstop.resolve_left hpos.ne') (by omega)
    cases h
    have htake : (Utf8.encode (left ++ right)).take
        (boundary (Utf8.encode (left ++ right)) chunkSize hlt) = Utf8.encode left := by
      rw [← hlen, Utf8.encode_append, take_left]
    have hdrop : (Utf8.encode (left ++ right)).drop
        (boundary (Utf8.encode (left ++ right)) chunkSize hlt) = Utf8.encode right := by
      rw [← hlen, Utf8.encode_append, drop_left]
    refine ⟨left, right, rfl, htake, congrArg (mk · chunkSize) hdrop, ?_⟩
    rw [← length_pos_iff, htake, hlen]
    exact ⟨hpos, hle, hlast⟩

end Utf8AwareChunks

def utf8AwareChunks (chunkSize : ℕ) (bytes : Bytes) : List Bytes :=
  Iterator.collect Utf8AwareChunks.next (bytes.length + 1) ⟨bytes, chunkSize⟩

lemma yields_utf8AwareChunks (hsize : 4 ≤ chunkSize) (text : String) :
    Iterator.Yields Utf8AwareChunks.next ⟨Utf8.asBytes text, chunkSize⟩
      (utf8AwareChunks chunkSize (Utf8.asBytes text)) := by
  refine Iterator.yields_collect (P := fun self => ∃ chars, self = ⟨Utf8.encode chars, chunkSize⟩)
    (fun self => self.bytes.length) ?_ ⟨text.toList, rfl⟩ (Nat.lt_succ_self _)
  rintro _ _ _ ⟨_, rfl⟩ hn
  obtain ⟨_, right, rfl, rfl, rfl, hne, -⟩ := Utf8AwareChunks.next_encode hsize hn
  refine ⟨⟨right, rfl⟩, ?_⟩
  dsimp only
  rw [Utf8.encode_append, length_append]
  have := length_pos_iff.mpr hne
  omega

/-- Each piece goes to the last boundary between characters that it can reach. -/
def Maximal (chunkSize : ℕ) (chars : List Char) (pieces : List Bytes) : Prop :=
  ∀ before piece after, pieces = before ++ piece :: after → ∀ left right, chars = left ++ right →
      (Utf8.encode left).length ≤ before.flatten.length + chunkSize →
      (Utf8.encode left).length ≤ before.flatten.length + piece.length

lemma Maximal.cons {left right} (hlast : ∀ left' right', left ++ right = left' ++ right' →
      (Utf8.encode left').length ≤ chunkSize →
        (Utf8.encode left').length ≤ (Utf8.encode left).length)
    (h : Maximal chunkSize right pieces) :
    Maximal chunkSize (left ++ right) (Utf8.encode left :: pieces) := by
  intro pre piece after heq left' right' hsplit hreach
  cases pre with
  | nil =>
    cases heq
    rw [flatten_nil, length_nil, Nat.zero_add] at hreach ⊢
    exact hlast left' right' hsplit hreach
  | cons _ pre =>
    cases heq
    rw [flatten_cons, length_append] at hreach ⊢
    -- a boundary in the first piece, or one in the rest of the text
    rcases append_eq_append_iff.mp hsplit with ⟨more, rfl, hmore⟩ | ⟨more, rfl, -⟩
    · rw [Utf8.encode_append, length_append] at hreach ⊢
      have := h pre piece after rfl more right' hmore (by omega)
      omega
    · rw [Utf8.encode_append, length_append]
      omega

lemma exists_texts (hsize : 4 ≤ chunkSize) {s : Utf8AwareChunks}
    (h : Iterator.Yields Utf8AwareChunks.next s pieces) {chars : List Char}
    (hself : s = ⟨Utf8.encode chars, chunkSize⟩) :
    IsChunking chunkSize (Utf8.encode chars) pieces ∧ Maximal chunkSize chars pieces ∧
      ∃ texts : List String, pieces = texts.map Utf8.asBytes := by
  induction h generalizing chars with
  | nil hend =>
    rw [hself, Utf8AwareChunks.next_eq_none] at hend
    dsimp only at hend
    rw [hend]
    exact ⟨.nil chunkSize, fun pre _ _ heq => by simp at heq, [], rfl⟩
  | cons hn _ ih =>
    rw [hself] at hn
    obtain ⟨left, _, rfl, rfl, rfl, hne, hle, hlast⟩ := Utf8AwareChunks.next_encode hsize hn
    obtain ⟨hr, hmaximal, texts, rfl⟩ := ih rfl
    refine ⟨?_, hmaximal.cons hlast, String.ofList left :: texts, ?_⟩
    · rw [Utf8.encode_append]
      exact .cons hne hle hr
    · rw [map_cons, Utf8.asBytes_ofList]

lemma isChunking_utf8AwareChunks (hsize : 4 ≤ chunkSize) (text : String) :
    IsChunking chunkSize (Utf8.asBytes text) (utf8AwareChunks chunkSize (Utf8.asBytes text)) ∧
      Maximal chunkSize text.toList (utf8AwareChunks chunkSize (Utf8.asBytes text)) ∧
      ∃ texts : List String,
        utf8AwareChunks chunkSize (Utf8.asBytes text) = texts.map Utf8.asBytes :=
  exists_texts hsize (yields_utf8AwareChunks hsize text) rfl

/-- **The chunks of a text.** With a chunk size of four or more the iterator is created, a loop
over it ends, and the chunks make up the text. None is empty or too long, each is a text, and
each ends at the last boundary between characters within the chunk size. -/
theorem utf8AwareChunks_law (chunkSize : ℕ) (h_size : 4 ≤ chunkSize) (text : String) :
    ∃ pieces, Utf8AwareChunks.new (Utf8.asBytes text) chunkSize =
        .ok ⟨Utf8.asBytes text, chunkSize⟩ ∧
      Iterator.Yields Utf8AwareChunks.next ⟨Utf8.asBytes text, chunkSize⟩ pieces ∧
      IsChunking chunkSize (Utf8.asBytes text) pieces ∧ Maximal chunkSize text.toList pieces ∧
      ∃ texts : List String, pieces = texts.map Utf8.asBytes :=
  ⟨_, if_neg (Nat.not_lt.mpr h_size), yields_utf8AwareChunks h_size text,
    isChunking_utf8AwareChunks h_size text⟩

theorem utf8AwareChunks_law_four : ∃ pieces,
    Utf8AwareChunks.new (Utf8.asBytes "Hello 👋") 4 = .ok ⟨Utf8.asBytes "Hello 👋", 4⟩ ∧
      Iterator.Yields Utf8AwareChunks.next ⟨Utf8.asBytes "Hello 👋", 4⟩ pieces ∧
      IsChunking 4 (Utf8.asBytes "Hello 👋") pieces ∧ Maximal 4 "Hello 👋".toList pieces ∧
      ∃ texts : List String, pieces = texts.map Utf8.asBytes :=
  utf8AwareChunks_law 4 (Nat.le_refl 4) "Hello 👋"

end LiveKit.DataStream
