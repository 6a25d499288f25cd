import Mathlib.Algebra.Order.Group.Nat
import Mathlib.Data.List.Basic

/-!
# UTF-8 as bytes

A text is the list of bytes of its characters' encodings, `encode`. The first byte of a character is
not a continuation byte and the at most three others are (`encodeChar_eq`): a place at which there
is none is a boundary between characters (`exists_split`), and there is one among any four places in
a row (`exists_boundary`).

`decode` is the checked conversion of bytes to a string.
-/

open List

namespace Utf8

def IsContinuation (byte : UInt8) : Prop := byte &&& 0xc0 = 0x80
  deriving Decidable

def encode (chars : List Char) : List UInt8 := chars.flatMap String.utf8EncodeChar

@[simp] lemma encode_nil : encode [] = [] := rfl

variable (c : Char) (chars : List Char) {k : ℕ} (text : String)

@[simp] lemma encode_cons (chars : List Char) :
    encode (c :: chars) = String.utf8EncodeChar c ++ encode chars := rfl

lemma encode_append (chars chars' : List Char) :
    encode (chars ++ chars') = encode chars ++ encode chars' := flatMap_append

/-! ### The bytes of one character -/

lemma isContinuation_ofNat (n : ℕ) : IsContinuation (UInt8.ofNat (n % 64 + 128)) := by
  have hall : ∀ m < 64, IsContinuation (UInt8.ofNat (m + 128)) := by decide
  exact hall _ (Nat.mod_lt n (by decide))

lemma encodeChar_eq : ∃ first rest, String.utf8EncodeChar c = first :: rest ∧
    ¬ IsContinuation first ∧ (∀ byte ∈ rest, IsContinuation byte) ∧ rest.length ≤ 3 := by
  have hone : ∀ m < 128, ¬ IsContinuation (UInt8.ofNat m) := by decide
  have htwo : ∀ m < 32, ¬ IsContinuation (UInt8.ofNat (m + 192)) := by decide
  have hthree : ∀ m < 16, ¬ IsContinuation (UInt8.ofNat (m + 224)) := by decide
  have hfour : ∀ m < 8, ¬ IsContinuation (UInt8.ofNat (m + 240)) := by decide
  have hmore : ∀ {n : ℕ} {rest : List UInt8}, (∀ byte ∈ rest, IsContinuation byte) →
      ∀ byte ∈ UInt8.ofNat (n % 64 + 128) :: rest, IsContinuation byte := fun hr =>
    forall_mem_cons.mpr ⟨isContinuation_ofNat _, hr⟩
  unfold String.utf8EncodeChar
  dsimp only
  split
  next h => exact ⟨_, _, rfl, hone _ (by omega), by simp, by simp⟩
  split
  next => exact ⟨_, _, rfl, htwo _ (Nat.mod_lt _ (by decide)), hmore (by simp), by simp⟩
  split
  next =>
    exact ⟨_, _, rfl, hthree _ (Nat.mod_lt _ (by decide)), hmore (hmore (by simp)), by simp⟩
  next =>
    exact ⟨_, _, rfl, hfour _ (Nat.mod_lt _ (by decide)), hmore (hmore (hmore (by simp))), by simp⟩

/-! ### Boundaries between characters -/

lemma exists_split
    (h : ∀ byte ∈ (encode chars)[k]?, ¬ IsContinuation byte) (hle : k ≤ (encode chars).length) :
    ∃ left right, chars = left ++ right ∧ (encode left).length = k := by
  induction chars generalizing k with
  | nil => exact ⟨[], [], rfl, (Nat.le_zero.mp hle).symm⟩
  | cons c chars ih =>
    obtain ⟨_, rest, hchar, -, hr, -⟩ := encodeChar_eq c
    rw [encode_cons, hchar] at h hle
    cases k with
    | zero => exact ⟨[], c :: chars, rfl, rfl⟩
    | succ k =>
      rw [cons_append, length_cons, length_append] at hle
      rw [cons_append, getElem?_cons_succ] at h
      by_cases hinside : k < rest.length
      · -- inside the first character
        rw [getElem?_append_left hinside, getElem?_eq_getElem hinside] at h
        exact absurd (hr _ (getElem_mem hinside)) (h _ rfl)
      · -- in the rest of the text
        rw [getElem?_append_right (by omega)] at h
        obtain ⟨left, right, rfl, hlen⟩ := ih h (by omega)
        refine ⟨c :: left, right, rfl, ?_⟩
        rw [encode_cons, hchar, length_append, length_cons, hlen]
        omega

lemma exists_boundary (h : k < (encode chars).length) :
    ∃ j ≤ k, k ≤ j + 3 ∧ ∃ byte, (encode chars)[j]? = some byte ∧ ¬ IsContinuation byte := by
  induction chars generalizing k with
  | nil => exact absurd h (Nat.not_lt_zero k)
  | cons c chars ih =>
    obtain ⟨first, rest, hchar, hf, -, _⟩ := encodeChar_eq c
    rw [encode_cons, hchar, cons_append, length_cons, length_append] at h
    rw [encode_cons, hchar]
    by_cases hinside : k < rest.length + 1
    · exact ⟨0, Nat.zero_le k, by omega, first, rfl, hf⟩
    · obtain ⟨j, _, _, byte, hbyte, hst⟩ :=
        ih (show k - (rest.length + 1) < (encode chars).length by omega)
      refine ⟨j + (rest.length + 1), by omega, by omega, byte, ?_, hst⟩
      rw [getElem?_append_right (by simp), length_cons, Nat.add_sub_cancel]
      exact hbyte

lemma exists_first (left : List Char) {right : List Char} (h : right ≠ []) :
    ∃ byte, (encode (left ++ right))[(encode left).length]? = some byte ∧
      ¬ IsContinuation byte := by
  obtain ⟨c, chars, rfl⟩ := exists_cons_of_ne_nil h
  obtain ⟨first, rest, hchar, hf, -⟩ := encodeChar_eq c
  refine ⟨first, ?_, hf⟩
  rw [encode_append, getElem?_append_right (Nat.le_refl _), Nat.sub_self, encode_cons, hchar]
  rfl

/-! ### Decoding -/

def decode (bytes : List UInt8) : Option String := String.fromUTF8? bytes.toByteArray

def asBytes (text : String) : List UInt8 := encode text.toList

lemma toByteArray_asBytes : (asBytes text).toByteArray = text.toByteArray := by
  rw [← String.utf8Encode_toList]
  rfl

@[simp] lemma asBytes_empty : asBytes "" = [] := by
  simp [asBytes]

lemma asBytes_append (text text' : String) :
    asBytes (text ++ text') = asBytes text ++ asBytes text' := by
  rw [asBytes, String.toList_append, encode_append]
  rfl

lemma asBytes_foldl (texts : List String) (buffer : String) :
    asBytes (texts.foldl (· ++ ·) buffer) = asBytes buffer ++ (texts.map asBytes).flatten := by
  induction texts generalizing buffer with
  | nil => simp
  | cons _ _ ih =>
    rw [foldl_cons, ih, asBytes_append, map_cons, flatten_cons, append_assoc]

lemma asBytes_ofList : asBytes (String.ofList chars) = encode chars := by
  rw [asBytes, String.toList_ofList]

lemma decode_asBytes : decode (asBytes text) = some text := by
  rw [decode, toByteArray_asBytes, String.fromUTF8?, dif_pos text.isValidUTF8]
  rfl

lemma decode_eq_some_iff {bytes : List UInt8} {text : String} :
    decode bytes = some text ↔ bytes = asBytes text := by
  constructor
  · intro h
    rw [decode, String.fromUTF8?] at h
    split at h
    next _ =>
      have htext := Option.some.inj h
      have hbytes : bytes.toByteArray = (asBytes text).toByteArray := by
        rw [toByteArray_asBytes, ← htext]
        rfl
      have hdata := congrArg (fun array : ByteArray => array.data.toList) hbytes
      simpa using hdata
    next => cases h
  · rintro rfl
    exact decode_asBytes text

end Utf8
