import LiveKitRust.Base.Monitor

/-!
# Requests for key frames (`ohos/video_source.rs`)

A request sets a flag, which `encode_and_send` takes back before it encodes the next frame. It asks
the H.264 codec for a key frame, which may refuse, or make one of a frame that has waited since
before the request; the VP8 encoder is not asked, and makes its next periodic one
(`honoured_of_due`).
-/

open Machine Monitor

namespace LiveKit.Ohos

/-- What can be seen of the key frames. `submitted` says of a frame that takes a request with it
whether the encoder owes a key frame then, and `encoded` whether the frame is forced to be one. -/
inductive KeyEvent where
  | requested
  | submitted (asked : Option Bool)
  | encoded (frame : ℕ) (forced : Bool)
  deriving DecidableEq

inductive Codec where
  | h264
  | vp8

/-- Frames are numbered as they are submitted. The codec makes a key frame of the next that it takes
from `pending` if it was asked to (`sync`), and of its first. -/
inductive VideoEncoder where
  | h264 (pending : List ℕ) (sync : Bool)
  | vp8 (frameCount framesSinceKeyframe : ℕ)

namespace VideoEncoder

def new : Codec → VideoEncoder
  | .h264 => .h264 [] true
  | .vp8 => .vp8 0 0

/-- For VP8 this is `force_kf`, with the interval that `Vp8Encoder::new` sets. -/
def keyDue : VideoEncoder → Bool
  | .h264 _ sync => sync
  | .vp8 frameCount framesSinceKeyframe => frameCount = 0 || 30 ≤ framesSinceKeyframe

def requestKeyframe (ok : Bool) : VideoEncoder → VideoEncoder
  | .h264 pending sync => .h264 pending (sync || ok)
  | .vp8 frameCount framesSinceKeyframe => .vp8 frameCount framesSinceKeyframe

/-- `ok` says whether the frame gets through, and `key` whether libvpx makes it a key frame. -/
def encode (frame : ℕ) (ok key : Bool) (self : VideoEncoder) : VideoEncoder × List KeyEvent :=
  if ok then
    match self with
    | .h264 pending sync =>
      (.h264 ((if 8 ≤ pending.length then pending.tail else pending) ++ [frame]) sync, [])
    | .vp8 frameCount framesSinceKeyframe =>
      (.vp8 (frameCount + 1) (if key then 0 else framesSinceKeyframe + 1),
        [.encoded frame self.keyDue])
  else (self, [])

end VideoEncoder

/-- `current` is the frame of the call that has the lock of the encoder. -/
structure NativeVideoSource where
  keyframeRequested : Bool := false
  lastSize : ℕ × ℕ := (0, 0)
  encoder : Option VideoEncoder := none
  submitted : ℕ := 0
  current : Option ℕ := none

namespace NativeVideoSource

variable (self : NativeVideoSource)

inductive Action where
  | requestKeyframe
  /-- `encode_and_send` until it has looked at the flag. `created` is the encoder that can be had
  for a new size, and `ok` says whether the codec takes the request. -/
  | submit (size : ℕ × ℕ) (created : Option Codec) (ok : Bool)
  | encode (ok key : Bool)
  /-- The codec takes a frame, unless it does not fit the buffer. -/
  | take (fits : Bool)

def encoderFor (size : ℕ × ℕ) (created : Option Codec) : Option VideoEncoder :=
  if size = self.lastSize then self.encoder else created.map .new

def step : Action → NativeVideoSource × List KeyEvent
  | .requestKeyframe => ({ self with keyframeRequested := true }, [.requested])
  | .submit size created ok =>
    match self.current, self.encoderFor size created with
    | none, some encoder =>
      let asked := if self.keyframeRequested then encoder.requestKeyframe ok else encoder
      ({ self with
          keyframeRequested := false
          lastSize := size
          encoder := some asked
          submitted := self.submitted + 1
          current := some self.submitted },
        [.submitted (if self.keyframeRequested then some asked.keyDue else none)])
    | _, _ => (self, [])
  | .encode ok key =>
    match self.current, self.encoder with
    | some frame, some encoder =>
      let res := encoder.encode frame ok key
      ({ self with encoder := some res.1, current := none }, res.2)
    | _, _ => (self, [])
  | .take fits =>
    match self.encoder with
    | some (.h264 (frame :: pending) sync) =>
      if fits then ({ self with encoder := some (.h264 pending false) }, [.encoded frame sync])
      else ({ self with encoder := some (.h264 pending sync) }, [])
    | _ => (self, [])

/-- The frames that have been submitted, and for each request that no later frame has been encoded
for, the number that was next then. -/
structure Requests where
  next : ℕ := 0
  due : List ℕ := []

/-- A request is not taken by an encoder that owes no key frame, and the first frame that is encoded
of those submitted after it is forced to be one. -/
def observe (m : Requests) : KeyEvent → Option Requests
  | .requested => some { m with due := m.next :: m.due }
  | .submitted asked => if asked = some false then none else some { m with next := m.next + 1 }
  | .encoded frame forced =>
    if forced = false ∧ ∃ k ∈ m.due, k ≤ frame then none
    else some { m with due := m.due.filter (frame < ·) }

/-- The encoder can make the next frame a key frame: no other waits before it in the H.264 encoder,
which owes one or takes the request, or the VP8 encoder is about to make one. -/
def Grants (ok : Bool) : VideoEncoder → Prop
  | .h264 pending sync => pending = [] ∧ (sync ∨ ok)
  | .vp8 frameCount framesSinceKeyframe => frameCount = 0 ∨ 30 ≤ framesSinceKeyframe

def Due (self : NativeVideoSource) : Action → Prop
  | .submit size created ok => self.keyframeRequested →
    ∀ encoder ∈ self.encoderFor size created, Grants ok encoder
  | _ => True

/-- The encoder makes a key frame of the first frame from `k` on. -/
def Owes (k : ℕ) : VideoEncoder → Prop
  | .h264 pending sync => sync ∧ ∀ n ∈ pending, k ≤ n
  | .vp8 frameCount framesSinceKeyframe => frameCount = 0 ∨ 30 ≤ framesSinceKeyframe

structure Sound (source : NativeVideoSource) (m : Requests) : Prop where
  next : m.next = source.submitted
  current : ∀ n, source.current = some n → n + 1 = source.submitted
  pending : ∀ pending sync, source.encoder = some (.h264 pending sync) →
    ∀ n ∈ pending, n < source.submitted
  due : ∀ k ∈ m.due, source.keyframeRequested ∧ k = source.submitted ∨
    k < source.submitted ∧ ∃ encoder, source.encoder = some encoder ∧ Owes k encoder

lemma Grants.keyDue {ok encoder} (h : Grants ok encoder) : (encoder.requestKeyframe ok).keyDue := by
  cases encoder <;> grind [Grants, VideoEncoder.requestKeyframe, VideoEncoder.keyDue]

lemma Grants.owes {ok encoder} (h : Grants ok encoder) (k : ℕ) :
    Owes k (encoder.requestKeyframe ok) := by
  cases encoder <;> grind [Grants, VideoEncoder.requestKeyframe, Owes]

lemma owes_new (k : ℕ) (codec : Codec) : Owes k (.new codec) := by
  cases codec <;> simp [VideoEncoder.new, Owes]

variable {self} {m : Requests} {a : Action}

lemma Sound.encoderFor {size created encoder} (h : self.Sound m)
    (he : self.encoderFor size created = some encoder) :
    (∀ pending sync, encoder = .h264 pending sync → ∀ n ∈ pending, n < self.submitted) ∧
      ∀ k ∈ m.due, self.keyframeRequested ∧ k = self.submitted ∨
        k < self.submitted ∧ Owes k encoder := by
  obtain ⟨-, -, hpending, hdue⟩ := h
  rw [NativeVideoSource.encoderFor] at he
  split at he
  · grind
  · obtain ⟨codec, -, rfl⟩ := Option.map_eq_some_iff.mp he
    refine ⟨?_, fun k hk => ?_⟩
    · cases codec <;> grind [VideoEncoder.new]
    · exact (hdue k hk).imp_right fun hlt => ⟨hlt.1, owes_new k codec⟩

lemma Sound.passes (h : self.Sound m) (hd : self.Due a) :
    Passes observe m (self.step a).2 ((self.step a).1.Sound) := by
  cases a with
  | requestKeyframe =>
    obtain ⟨hnext, hcurrent, hpending, hdue⟩ := h
    refine .single rfl ?_
    constructor <;> grind [step]
  | submit size created ok =>
    rw [step]
    split
    next encoder _ he =>
      obtain ⟨hpending, hdue⟩ := h.encoderFor he
      by_cases hreq : self.keyframeRequested
      · have hgrants := hd hreq encoder he
        simp only [hreq, if_true, hgrants.keyDue]
        refine .single rfl ⟨?_, ?_, ?_, ?_⟩
        · exact congrArg (· + 1) h.next
        · grind
        · cases encoder <;> grind [VideoEncoder.requestKeyframe]
        · have := hgrants.owes
          grind
      · simp only [hreq, Bool.false_eq_true, if_false]
        refine .single rfl ⟨?_, ?_, ?_, ?_⟩
        · exact congrArg (· + 1) h.next
        · grind
        · grind
        · grind
    · exact .nil h
  | encode ok key =>
    rw [step]
    split
    next frame encoder hframe hencoder =>
      obtain ⟨hnext, hcurrent, hpending, hdue⟩ := h
      rw [hencoder] at hpending hdue
      unfold VideoEncoder.encode
      split
      · cases encoder with
        | h264 pending sync =>
          have hlt := hpending pending sync rfl
          refine .nil ⟨hnext, nofun, ?_, ?_⟩
          · grind [→ List.mem_of_mem_tail]
          · grind [Owes, → List.mem_of_mem_tail]
        | vp8 frameCount framesSinceKeyframe =>
          refine .single (if_neg ?_) ⟨hnext, nofun, nofun, ?_⟩
          · grind [Owes, VideoEncoder.keyDue]
          · grind
      · exact .nil ⟨hnext, nofun, hpending, hdue⟩
    · exact .nil h
  | take fits =>
    rw [step]
    split
    next frame pending sync hencoder =>
      obtain ⟨hnext, hcurrent, hpending, hdue⟩ := h
      have hlt := hpending _ _ hencoder frame (.head _)
      have hhead (k : ℕ) (ho : Owes k (.h264 (frame :: pending) sync)) : k ≤ frame :=
        ho.2 frame (.head _)
      split
      · refine .single (if_neg ?_) ⟨hnext, hcurrent, ?_, ?_⟩
        · grind [Owes]
        · grind
        · grind [Owes]
      · refine .nil ⟨hnext, hcurrent, ?_, ?_⟩
        · grind
        · grind [Owes]
    · exact .nil h

end NativeVideoSource

end LiveKit.Ohos
