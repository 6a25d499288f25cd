import Mathlib.Data.List.Range
import Mathlib.Tactic.Ring

/-!
# Where the video codecs look for chroma (`ohos/h264_encoder.rs`, `ohos/software_vp8.rs`)

The planes of an I420 buffer follow each other, and those of chroma have half the width and height,
rounded up. `i420_to_nv12_into` reads them there, but the sizes that the encoders check, and the
planes of the VP8 encoder and decoder, are rounded down, and computed in 32 bits
(`consistent_iff`).
-/

open List

namespace LiveKit.Ohos

/-- The positions in a buffer that are copied for each plane, in order. -/
structure Planes where
  y : List ℕ
  u : List ℕ
  v : List ℕ

variable (w h : UInt32)

def chromaLen : ℕ := (w.toNat + 1) / 2 * ((h.toNat + 1) / 2)

def i420Planes : Planes where
  y := range' 0 (w.toNat * h.toNat)
  u := range' (w.toNat * h.toNat) (chromaLen w h)
  v := range' (w.toNat * h.toNat + chromaLen w h) (chromaLen w h)

def i420Len : ℕ := w.toNat * h.toNat + 2 * chromaLen w h

/-- `(self.width * self.height * 3 / 2) as usize`. -/
def expectedLen : ℕ := (w * h * 3 / 2).toNat

def H264Encoder.encode (len : ℕ) : Option Planes :=
  if len < expectedLen w h then none
  else
    let cw := (w.toNat + 1) / 2
    let ch := (h.toNat + 1) / 2
    let y := w.toNat * h.toNat
    some ⟨range' 0 y, range' y (cw * ch), range' (y + cw * ch) (cw * ch)⟩

/-- The rows of the NV12 buffer are padded to 64 bytes. -/
def nv12Stride : ℕ := (w.toNat + 63) / 64 * 64

def nv12Len : ℕ := nv12Stride w * h.toNat + nv12Stride w * ((h.toNat + 1) / 2)

def nv12Writes : List ℕ :=
  ((range h.toNat).flatMap fun row => range' (row * nv12Stride w) w.toNat) ++
    (range ((h.toNat + 1) / 2)).flatMap fun row =>
      range' (nv12Stride w * h.toNat + row * nv12Stride w) (2 * ((w.toNat + 1) / 2))

def copyRows (offset width rows : ℕ) : List ℕ :=
  (range rows).flatMap fun row => range' (offset + row * width) width

/-- A plane whose stride in the image of libvpx is its width is copied at once. -/
def copyPlane (offset size stride width rows : ℕ) : List ℕ :=
  if stride = width then range' offset size else copyRows offset width rows

def ySize : ℕ := (w * h).toNat

def uSize : ℕ := ySize w h / 4

def Vp8Encoder.encode (yStride uStride vStride len : ℕ) : Option Planes :=
  if len < expectedLen w h ∨ len < ySize w h + ySize w h / 2 then none
  else
    let uvWidth := w.toNat / 2
    let uvHeight := h.toNat / 2
    some {
      y := copyPlane 0 (ySize w h) yStride w.toNat h.toNat
      u := copyPlane (ySize w h) (uSize w h) uStride uvWidth uvHeight
      v := copyPlane (ySize w h + uSize w h) (uSize w h) vStride uvWidth uvHeight }

def SoftwareVP8Decoder.decode : Planes where
  y := copyRows 0 w.toNat h.toNat
  u := copyRows (ySize w h) (w.toNat / 2) (h.toNat / 2)
  v := copyRows (ySize w h + uSize w h) (w.toNat / 2) (h.toNat / 2)

def SoftwareVP8Decoder.totalSize : ℕ := ySize w h + uSize w h + uSize w h

/-- An encoder takes a frame, and from every buffer it takes it copies the planes of the frame,
within the buffer. -/
def Handles (encode : ℕ → Option Planes) : Prop :=
  (encode (i420Len w h)).isSome ∧ ∀ len, ∀ planes ∈ encode len,
    planes = i420Planes w h ∧ ∀ i ∈ planes.y ++ planes.u ++ planes.v, i < len

def Consistent : Prop :=
  Handles w h (H264Encoder.encode w h) ∧ (∀ i ∈ nv12Writes w h, i < nv12Len w h) ∧
    (∀ yStride uStride vStride, Handles w h (Vp8Encoder.encode w h yStride uStride vStride)) ∧
    SoftwareVP8Decoder.decode w h = i420Planes w h ∧
    SoftwareVP8Decoder.totalSize w h = i420Len w h

lemma copyRows_eq (offset width rows : ℕ) :
    copyRows offset width rows = range' offset (rows * width) := by
  induction rows with
  | zero => simp [copyRows]
  | succ rows ih =>
    rw [copyRows, range_succ, flatMap_append, flatMap_singleton, ← copyRows, ih, range'_append_1,
      Nat.succ_mul]

/-- Without an overflow, and with even dimensions, nothing is rounded. -/
structure Exact : Prop where
  expected : expectedLen w h = i420Len w h
  size : ySize w h + ySize w h / 2 = i420Len w h
  y : ySize w h = w.toNat * h.toNat
  u : uSize w h = chromaLen w h
  half : h.toNat / 2 * (w.toNat / 2) = chromaLen w h

variable {w h}

lemma expectedLen_eq : expectedLen w h = 3 * (w.toNat * h.toNat) % 2 ^ 32 / 2 := by
  rw [expectedLen, UInt32.toNat_div, UInt32.toNat_mul, UInt32.toNat_mul]
  change w.toNat * h.toNat % 2 ^ 32 * 3 % 2 ^ 32 / 2 = _
  omega

lemma chromaLen_of_even (hw : Even w.toNat) (hh : Even h.toNat) :
    w.toNat * h.toNat = 4 * chromaLen w h ∧ h.toNat / 2 * (w.toNat / 2) = chromaLen w h := by
  obtain ⟨a, ha⟩ := hw
  obtain ⟨b, hb⟩ := hh
  have hchroma : chromaLen w h = a * b := by
    rw [chromaLen, ha, hb]
    congr 1 <;> omega
  rw [hchroma, ha, hb]
  refine ⟨by ring, ?_⟩
  rw [Nat.mul_comm a]
  congr 1 <;> omega

lemma Exact.of_even (hw : Even w.toNat) (hh : Even h.toNat)
    (hlt : 3 * (w.toNat * h.toNat) < 2 ^ 32) : Exact w h := by
  obtain ⟨hmul, hhalf⟩ := chromaLen_of_even hw hh
  have hy : ySize w h = w.toNat * h.toNat := by
    rw [ySize, UInt32.toNat_mul]
    omega
  refine ⟨?_, ?_, hy, ?_, hhalf⟩
  · rw [expectedLen_eq, i420Len]
    omega
  · rw [hy, i420Len]
    omega
  · rw [uSize, hy]
    omega

lemma i420Planes_within {len} (hlen : i420Len w h ≤ len) (i : ℕ)
    (hi : i ∈ (i420Planes w h).y ++ (i420Planes w h).u ++ (i420Planes w h).v) : i < len := by
  simp only [i420Planes, mem_append, mem_range'_1] at hi
  rw [i420Len] at hlen
  omega

lemma nv12Writes_within (i : ℕ) (hi : i ∈ nv12Writes w h) : i < nv12Len w h := by
  have hw : 2 * ((w.toNat + 1) / 2) ≤ nv12Stride w := by
    rw [nv12Stride]
    omega
  have hrow {row rows : ℕ} (hlt : row < rows) :
      row * nv12Stride w + nv12Stride w ≤ nv12Stride w * rows := by
    rw [← Nat.succ_mul, Nat.mul_comm]
    exact Nat.mul_le_mul_left _ hlt
  simp only [nv12Writes, mem_append, mem_flatMap, mem_range, mem_range'_1] at hi
  rw [nv12Len]
  obtain ⟨row, hlt, hi⟩ | ⟨row, hlt, hi⟩ := hi
  all_goals
    have := hrow hlt
    omega

lemma Handles.of_layout {encode}
    (hencode : ∀ len, encode len = if len < i420Len w h then none else some (i420Planes w h)) :
    Handles w h encode := by
  refine ⟨by rw [hencode, if_neg (lt_irrefl _)]; rfl, fun len planes hplanes => ?_⟩
  rw [hencode] at hplanes
  split at hplanes
  · cases hplanes
  next hlen =>
    cases hplanes
    exact ⟨rfl, i420Planes_within (not_lt.mp hlen)⟩

lemma copyPlane_eq {offset size stride width rows} (hsize : rows * width = size) :
    copyPlane offset size stride width rows = range' offset size := by
  rw [copyPlane, copyRows_eq, hsize, ite_self]

lemma Exact.consistent (he : Exact w h) : Consistent w h := by
  obtain ⟨hexpected, hsize, hy, hu, hhalf⟩ := he
  refine ⟨.of_layout fun len => ?_, nv12Writes_within, fun _ _ _ => .of_layout fun len => ?_,
    ?_, ?_⟩
  · rw [H264Encoder.encode, hexpected]
    rfl
  · simp only [Vp8Encoder.encode, hexpected, hsize, or_self,
      copyPlane_eq ((Nat.mul_comm ..).trans hy.symm), copyPlane_eq (hhalf.trans hu.symm)]
    rw [hy, hu]
    rfl
  · rw [SoftwareVP8Decoder.decode, copyRows_eq, copyRows_eq, copyRows_eq, hhalf, hy, hu,
      Nat.mul_comm]
    rfl
  · rw [SoftwareVP8Decoder.totalSize, hy, hu, i420Len]
    omega

lemma even_of_half {a b} (ha : 0 < a) (hb : 0 < b)
    (hhalf : b / 2 * (a / 2) = (a + 1) / 2 * ((b + 1) / 2)) : Even a ∧ Even b := by
  have hle : b / 2 * (a / 2) ≤ (b + 1) / 2 * (a / 2) := Nat.mul_le_mul_right _ (by omega)
  have hle' : b / 2 * (a / 2) ≤ b / 2 * ((a + 1) / 2) := Nat.mul_le_mul_left _ (by omega)
  rw [Nat.even_iff, Nat.even_iff]
  constructor
  · by_contra hodd
    have hup : (a + 1) / 2 = a / 2 + 1 := by omega
    rw [hup, Nat.add_one_mul, Nat.mul_comm (a / 2)] at hhalf
    omega
  · by_contra hodd
    have hup : (b + 1) / 2 = b / 2 + 1 := by omega
    rw [hup, Nat.mul_add_one, Nat.mul_comm ((a + 1) / 2)] at hhalf
    omega

/-- **Odd dimensions.** The encoders and the decoder agree on where the planes are, and read within
every buffer they take, exactly if both dimensions are even and the size of the buffer does not
overflow. -/
theorem consistent_iff (hw : 0 < w.toNat) (hh : 0 < h.toNat) :
    Consistent w h ↔ Even w.toNat ∧ Even h.toNat ∧ 3 * (w.toNat * h.toNat) < 2 ^ 32 := by
  constructor
  · rintro ⟨⟨-, hh264⟩, -, -, hdecode, -⟩
    have hlen := congrArg (fun planes => planes.u.length) hdecode
    simp only [SoftwareVP8Decoder.decode, copyRows_eq, i420Planes, length_range'] at hlen
    obtain ⟨heven, heven'⟩ := even_of_half hw hh hlen
    refine ⟨heven, heven', ?_⟩
    by_contra hlt
    -- a buffer of the size that is left after the overflow is taken
    have htaken : i420Planes w h ∈ H264Encoder.encode w h (expectedLen w h) :=
      if_neg (lt_irrefl _)
    obtain ⟨-, hwithin⟩ := hh264 _ _ htaken
    obtain ⟨hmul, -⟩ := chromaLen_of_even heven heven'
    have hlast : i420Len w h - 1 ∈ (i420Planes w h).v := by
      rw [i420Planes, mem_range'_1, i420Len]
      have := Nat.mul_pos hw hh
      omega
    have := hwithin _ (mem_append_right _ hlast)
    rw [expectedLen_eq, i420Len] at this
    omega
  · rintro ⟨hw, hh, hlt⟩
    exact (Exact.of_even hw hh hlt).consistent

theorem consistent_iff_two : Consistent 2 2 :=
  (consistent_iff (by decide) (by decide)).mpr (by decide)

/-- A buffer of 1 byte is taken for a frame of 3 bytes, and the decoder loses its chroma. -/
theorem inconsistent_one : ¬ Consistent 1 1 ∧ i420Len 1 1 = 3 ∧
    (H264Encoder.encode 1 1 1).map Planes.v = some [2] ∧
    (SoftwareVP8Decoder.decode 1 1).v = [] := by
  refine ⟨?_, by decide⟩
  rintro ⟨⟨-, hh264⟩, -⟩
  have htaken : i420Planes 1 1 ∈ H264Encoder.encode 1 1 1 := rfl
  exact absurd ((hh264 1 _ htaken).2 2 (by decide)) (by decide)

end LiveKit.Ohos
