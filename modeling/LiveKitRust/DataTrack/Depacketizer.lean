import LiveKitRust.Base.Machine
import LiveKitRust.Base.Maps
import LiveKitRust.Base.Sequence
import LiveKitRust.DataTrack.Packet

/-!
# The depacketizer

Reassembly of packets into frames (`remote/depacketizer.rs`). Partial frames are kept in insertion
order, keyed by frame number; a partial frame keeps the payloads received so far, keyed by sequence
number. Both keys wrap, and packets arrive lost, repeated, reordered and interleaved.

There is a lemma for a push of each kind of packet, and `assemble_eq` for the loop of `finalize`.
-/

open Sequence

namespace LiveKit.DataTrack

/-! ### Model -/

structure DepacketizerFrame where
  payload : Bytes
  extensions : Extensions
  deriving DecidableEq

structure DepacketizerPushOptions where
  maxPartialFrames : ℕ := 1
  deriving DecidableEq

inductive DepacketizerDropReason where
  | interrupted (newFrameNumber : UInt16)
  /-- Initial packet was never received. -/
  | unknownFrame
  | bufferFull
  /-- Not all packets received before the final packet. -/
  | incomplete (received expected : UInt16)
  deriving DecidableEq

structure DepacketizerDropError where
  frameNumber : UInt16
  reason : DepacketizerDropReason
  deriving DecidableEq

structure DepacketizerPushResult where
  frame : Option DepacketizerFrame := none
  dropError : Option DepacketizerDropError := none
  deriving DecidableEq

structure PartialFrame where
  startSequence : UInt16
  extensions : Extensions
  payloads : Map UInt16 Bytes
  deriving DecidableEq

structure Depacketizer where
  /-- Partial frames currently being assembled, keyed by frame number; the
  oldest comes first. -/
  partials : Map UInt16 PartialFrame
  deriving DecidableEq

namespace Depacketizer

def MAX_BUFFER_PACKETS : ℕ := 128

def new : Depacketizer := ⟨∅⟩

variable (self : Depacketizer)

/-- Evict the oldest partial frame, attributing the interruption to
`newFrameNumber`; `none` when there is nothing to evict. -/
def evictOldest (newFrameNumber : UInt16) : Option DepacketizerDropError × Depacketizer :=
  match self.partials.first with
  | none => (none, self)
  | some (oldest, _) =>
    (some ⟨oldest, .interrupted newFrameNumber⟩, ⟨self.partials.erase oldest⟩)

/-- An eviction removes an entry, so that the loop of `begin_partial` ends. -/
lemma len_evictOldest_lt {s : Depacketizer} {frameNumber : UInt16}
    (h : (s.evictOldest frameNumber).1.isSome) :
    (s.evictOldest frameNumber).2.partials.len < s.partials.len := by
  unfold evictOldest at h ⊢
  cases hf : s.partials.first with
  | none =>
    rw [hf] at h
    cases h
  | some => exact AList.len_erase_lt (AList.lookup_of_first hf)

/-- A single packet is a frame of its own; at capacity the oldest partial frame
is taken to be stale. -/
def frameFromSingle (packet : Packet) (options : DepacketizerPushOptions) :
    DepacketizerPushResult × Depacketizer :=
  let frame : DepacketizerFrame := ⟨packet.payload, packet.header.extensions⟩
  if options.maxPartialFrames ≤ self.partials.len then
    let (dropError, self) := self.evictOldest packet.header.frameNumber
    (⟨some frame, dropError⟩, self)
  else (⟨some frame, none⟩, self)

/-- The `while` loop of `begin_partial`: evict until there is room for a new
partial frame. Only the first eviction is reported. -/
def makeRoom (self : Depacketizer) (options : DepacketizerPushOptions) (frameNumber : UInt16)
    (dropError : Option DepacketizerDropError) : Option DepacketizerDropError × Depacketizer :=
  if options.maxPartialFrames ≤ self.partials.len then
    let evicted := self.evictOldest frameNumber
    if _h : evicted.1.isSome then
      evicted.2.makeRoom options frameNumber (dropError.or evicted.1)
    else (dropError, evicted.2)
  else (dropError, self)
  termination_by self.partials.len
  decreasing_by exact len_evictOldest_lt _h

def beginPartial (packet : Packet) (options : DepacketizerPushOptions) :
    DepacketizerPushResult × Depacketizer :=
  let frameNumber := packet.header.frameNumber
  let (dropError, self) := self.makeRoom options frameNumber none
  let startSequence := packet.header.sequence
  let partialFrame : PartialFrame :=
    ⟨startSequence, packet.header.extensions, AList.singleton startSequence packet.payload⟩
  (⟨none, dropError⟩, ⟨self.partials.insertLast frameNumber partialFrame⟩)

/-- The loop of `finalize`: take the payloads of consecutive sequence numbers
until the end sequence; `none` at the first one missing. -/
def assemble (payloads : Map UInt16 Bytes) (endSequence sequence : UInt16) (payload : Bytes) :
    Option Bytes :=
  match _h : payloads.lookup sequence with
  | none => none
  | some partialPayload =>
    if sequence ≠ endSequence then
      assemble (payloads.erase sequence) endSequence (sequence + 1) (payload ++ partialPayload)
    else
      some (payload ++ partialPayload)
  termination_by payloads.len
  decreasing_by exact AList.len_erase_lt _h

def finalize (frameNumber : UInt16) (partialFrame : PartialFrame) (endSequence : UInt16) :
    DepacketizerPushResult :=
  let received := UInt16.ofNat partialFrame.payloads.len
  match assemble partialFrame.payloads endSequence partialFrame.startSequence [] with
  | some payload => ⟨some ⟨payload, partialFrame.extensions⟩, none⟩
  | none =>
    ⟨none, some ⟨frameNumber, .incomplete received (endSequence - partialFrame.startSequence + 1)⟩⟩

def pushToPartial (packet : Packet) : DepacketizerPushResult × Depacketizer :=
  let frameNumber := packet.header.frameNumber
  match self.partials.lookup frameNumber with
  | none => (⟨none, some ⟨frameNumber, .unknownFrame⟩⟩, self)
  | some partialFrame =>
    if MAX_BUFFER_PACKETS ≤ partialFrame.payloads.len then
      (⟨none, some ⟨frameNumber, .bufferFull⟩⟩, ⟨self.partials.erase frameNumber⟩)
    else
      -- a payload received twice for one sequence number is replaced by the latest
      let partialFrame := { partialFrame with
        payloads := partialFrame.payloads.insert packet.header.sequence packet.payload }
      if packet.header.marker = .final then
        (finalize frameNumber partialFrame packet.header.sequence,
          ⟨self.partials.erase frameNumber⟩)
      else ({}, ⟨self.partials.insertLast frameNumber partialFrame⟩)

def push (packet : Packet) (options : DepacketizerPushOptions) :
    DepacketizerPushResult × Depacketizer :=
  match packet.header.marker with
  | .single => self.frameFromSingle packet options
  | .start => self.beginPartial packet options
  | .inter | .final => self.pushToPartial packet

def step (pushed : Packet × DepacketizerPushOptions) : Depacketizer × List DepacketizerPushResult :=
  let (result, self) := self.push pushed.1 pushed.2
  (self, [result])

def packetsOf (pushes : List (Packet × DepacketizerPushOptions)) : List Packet :=
  pushes.map Prod.fst

/-! ### Finalizing -/

/-- **Finalizing** succeeds when there is a payload for every sequence number up to the end
sequence, and concatenates them. Taking one out cannot disturb the later ones: fewer than `2 ^ 16`
steps never come back to it. -/
theorem assemble_eq (payloads : Map UInt16 Bytes) (endSequence seq : UInt16) (data : Bytes) :
    assemble payloads endSequence seq data = (consecutive (fun s => payloads.lookup s) seq
          ((endSequence - seq).toNat + 1)).map (data ++ ·.flatten) := by
  -- on the distance to the end sequence, which a round shortens by one
  induction hdist : (endSequence - seq).toNat generalizing payloads seq data with
  | zero =>
    have hend : seq = endSequence := by
      by_contra hne
      have := toNat_sub_succ hne
      omega
    rw [assemble, consecutive_succ]
    split
    next hn => simp [hn]
    next _ hs =>
      rw [if_neg (not_not.mpr hend)]
      simp [hs, consecutive]
  | succ k ih =>
    have hne : seq ≠ endSequence := by
      rintro rfl
      simp at hdist
    have hnext : (endSequence - (seq + 1)).toNat = k := by
      have := toNat_sub_succ hne
      omega
    rw [assemble, consecutive_succ]
    split
    next hn => simp [hn]
    next _ hs =>
      have hlt := (endSequence - seq).toNat_lt
      -- the payload just taken out is not asked for again
      have hf : consecutive (fun s => (payloads.erase seq).lookup s) (seq + 1)
          (k + 1) = consecutive (fun s => payloads.lookup s) (seq + 1) (k + 1) := by
        refine consecutive_congr fun i hi => ?_
        exact AList.lookup_erase_ne (add_one_add_ofNat_ne seq (by omega))
      rw [if_pos hne, ih _ _ _ hnext, hf, hs]
      simp only [Option.bind_some, Option.map_map]
      refine congrArg (fun g => Option.map g _) (funext fun parts => ?_)
      simp

/-! ### What one push does -/

lemma evictOldest_lookup (frameNumber n : UInt16) :
    (self.evictOldest frameNumber).2.partials.lookup n = none ∨
      (self.evictOldest frameNumber).2.partials.lookup n = self.partials.lookup n := by
  unfold evictOldest
  split
  · exact Or.inr rfl
  · rw [AList.lookup_erase_ite]
    split
    · exact Or.inl rfl
    · exact Or.inr rfl

lemma makeRoom_lookup (s : Depacketizer) (opts : DepacketizerPushOptions)
    (frameNumber : UInt16) (dropError : Option DepacketizerDropError) (n : UInt16) :
    (s.makeRoom opts frameNumber dropError).2.partials.lookup n = none ∨
      (s.makeRoom opts frameNumber dropError).2.partials.lookup n = s.partials.lookup n := by
  induction s, dropError using makeRoom.induct opts frameNumber with
  | case1 s _ hfull _ hs ih =>
    -- one eviction, then the loop again
    rw [makeRoom, if_pos hfull, dif_pos hs]
    rcases ih with h | h
    · exact Or.inl h
    · rw [h]
      exact s.evictOldest_lookup frameNumber n
  | case2 s _ hfull _ hn =>
    rw [makeRoom, if_pos hfull, dif_neg hn]
    exact s.evictOldest_lookup frameNumber n
  | case3 _ _ hroom =>
    rw [makeRoom, if_neg hroom]
    exact Or.inr rfl

section Push

variable {s : Depacketizer} {pkt : Packet} {opts : DepacketizerPushOptions} {n : UInt16}

lemma push_single (h : pkt.header.marker = .single) :
    (s.push pkt opts).1.frame = some ⟨pkt.payload, pkt.header.extensions⟩ ∧
      ∀ n, (s.push pkt opts).2.partials.lookup n = none ∨
        (s.push pkt opts).2.partials.lookup n = s.partials.lookup n := by
  unfold push
  rw [h]
  change (s.frameFromSingle pkt opts).1.frame = _ ∧ _
  unfold frameFromSingle
  split
  · exact ⟨rfl, s.evictOldest_lookup pkt.header.frameNumber⟩
  · exact ⟨rfl, fun n => Or.inr rfl⟩

lemma push_start (h : pkt.header.marker = .start) : (s.push pkt opts).1.frame = none ∧
      (s.push pkt opts).2.partials.lookup pkt.header.frameNumber =
        some ⟨pkt.header.sequence, pkt.header.extensions,
          AList.singleton pkt.header.sequence pkt.payload⟩ ∧
      ∀ n, n ≠ pkt.header.frameNumber → (s.push pkt opts).2.partials.lookup n = none ∨
          (s.push pkt opts).2.partials.lookup n = s.partials.lookup n := by
  unfold push
  rw [h]
  refine ⟨rfl, ?_, fun n hn => ?_⟩
  · exact (AList.lookup_insertLast ..).trans (if_pos rfl)
  · -- other frames are only touched by making room
    have hf : (s.beginPartial pkt opts).2.partials.lookup n =
        (s.makeRoom opts pkt.header.frameNumber none).2.partials.lookup n :=
      (AList.lookup_insertLast ..).trans (if_neg hn)
    rw [hf]
    exact s.makeRoom_lookup opts pkt.header.frameNumber none n

lemma push_of_ne (hsingle : pkt.header.marker ≠ .single) (hst : pkt.header.marker ≠ .start) :
    s.push pkt opts = s.pushToPartial pkt := by
  unfold push
  cases h : pkt.header.marker with
  | single => exact absurd h hsingle
  | start => exact absurd h hst
  | inter | final => rfl

lemma pushToPartial_unknown (h : s.partials.lookup pkt.header.frameNumber = none) :
    s.pushToPartial pkt = (⟨none, some ⟨pkt.header.frameNumber, .unknownFrame⟩⟩, s) := by
  simp only [pushToPartial, h]

variable {pf : PartialFrame}

section

variable (h : s.partials.lookup pkt.header.frameNumber = some pf)
include h

lemma pushToPartial_full (hfull : MAX_BUFFER_PACKETS ≤ pf.payloads.len) :
    s.pushToPartial pkt = (⟨none, some ⟨pkt.header.frameNumber, .bufferFull⟩⟩,
        ⟨s.partials.erase pkt.header.frameNumber⟩) := by
  simp only [pushToPartial, h]
  exact if_pos hfull

lemma pushToPartial_inter (hroom : ¬ MAX_BUFFER_PACKETS ≤ pf.payloads.len)
    (hmarker : pkt.header.marker ≠ .final) :
    s.pushToPartial pkt =
      ({}, ⟨s.partials.insertLast pkt.header.frameNumber { pf with
        payloads := pf.payloads.insert pkt.header.sequence pkt.payload }⟩) := by
  simp only [pushToPartial, h]
  exact (if_neg hroom).trans (if_neg hmarker)

lemma pushToPartial_final (hroom : ¬ MAX_BUFFER_PACKETS ≤ pf.payloads.len)
    (hmarker : pkt.header.marker = .final) :
    s.pushToPartial pkt = (finalize pkt.header.frameNumber { pf with
        payloads := pf.payloads.insert pkt.header.sequence pkt.payload }
        pkt.header.sequence, ⟨s.partials.erase pkt.header.frameNumber⟩) := by
  simp only [pushToPartial, h]
  exact (if_neg hroom).trans (if_pos hmarker)

end

/-- **What is buffered after a push** was there before, or the packet starts it or goes into it. -/
lemma lookup_push (h : (s.push pkt opts).2.partials.lookup n = some pf) :
    s.partials.lookup n = some pf ∧ (pkt.header.marker = .single ∨ n ≠ pkt.header.frameNumber) ∨
      n = pkt.header.frameNumber ∧ (pkt.header.marker = .start ∧
          pf = ⟨pkt.header.sequence, pkt.header.extensions,
            AList.singleton pkt.header.sequence pkt.payload⟩ ∨
        pkt.header.marker = .inter ∧ ∃ old, s.partials.lookup n = some old ∧
          ¬ MAX_BUFFER_PACKETS ≤ old.payloads.len ∧ pf = { old with
            payloads := old.payloads.insert pkt.header.sequence pkt.payload }) := by
  -- a single packet may evict a frame and buffers nothing
  by_cases hsingle : pkt.header.marker = .single
  · rcases (@push_single s pkt opts hsingle).2 n with hnone | hsame
    · cases hnone.symm.trans h
    · exact .inl ⟨hsame ▸ h, .inl hsingle⟩
  -- a start packet evicts and opens its own frame
  by_cases hst : pkt.header.marker = .start
  · obtain ⟨-, hnew, hremoved⟩ := @push_start s pkt opts hst
    by_cases hn : n = pkt.header.frameNumber
    · subst hn
      exact .inr ⟨rfl, .inl ⟨hst, (Option.some.inj (hnew.symm.trans h)).symm⟩⟩
    · rcases hremoved n hn with hnone | hsame
      · cases hnone.symm.trans h
      · exact .inl ⟨hsame ▸ h, .inr hn⟩
  -- an inter or a final packet: only its own frame number can change
  rw [push_of_ne hsingle hst] at h
  cases hl : s.partials.lookup pkt.header.frameNumber with
  | none =>
    rw [pushToPartial_unknown hl] at h
    refine .inl ⟨h, .inr ?_⟩
    rintro rfl
    cases hl.symm.trans h
  | some old =>
    by_cases hfull : MAX_BUFFER_PACKETS ≤ old.payloads.len
    · rw [pushToPartial_full hl hfull] at h
      exact .inl ((AList.of_lookup_erase h).symm.imp_right .inr)
    by_cases hfinal : pkt.header.marker = .final
    · rw [pushToPartial_final hl hfull hfinal] at h
      exact .inl ((AList.of_lookup_erase h).symm.imp_right .inr)
    · rw [pushToPartial_inter hl hfull hfinal, AList.lookup_insertLast] at h
      have hinter : pkt.header.marker = .inter := by
        cases hm : pkt.header.marker <;> simp_all
      split at h
      next hn =>
        cases h
        subst hn
        exact .inr ⟨rfl, .inr ⟨hinter, old, hl, hfull, rfl⟩⟩
      next hn => exact .inl ⟨h, .inr hn⟩

end Push

lemma finalize_frame (frameNumber pf endSequence) :
    (finalize frameNumber pf endSequence).frame =
      (consecutive (fun s => pf.payloads.lookup s) pf.startSequence
          ((endSequence - pf.startSequence).toNat + 1)).map
        fun parts => ⟨parts.flatten, pf.extensions⟩ := by
  unfold finalize
  rw [assemble_eq]
  cases consecutive (fun s => pf.payloads.lookup s) pf.startSequence
      ((endSequence - pf.startSequence).toNat + 1) with
  | none => rfl
  | some => rfl

/-! ### How much is buffered -/

/-- The loop of `finalize`, given up after `fuel` iterations. -/
def assembleWithin : ℕ → Map UInt16 Bytes → UInt16 → UInt16 → Bytes → Option (Option Bytes)
  | fuel, payloads, endSequence, sequence, payload =>
    match payloads.lookup sequence with
    | none => some none
    | some partialPayload =>
      match fuel with
      | 0 => none
      | fuel + 1 =>
        if sequence ≠ endSequence then
          assembleWithin fuel (payloads.erase sequence) endSequence (sequence + 1)
            (payload ++ partialPayload)
        else some (some (payload ++ partialPayload))

/-- Each iteration takes a payload out. -/
lemma assembleWithin_eq {fuel payloads} (h : payloads.len ≤ fuel) (endSequence seq : UInt16)
    (data : Bytes) :
    assembleWithin fuel payloads endSequence seq data =
      some (assemble payloads endSequence seq data) := by
  induction fuel generalizing payloads seq data with
  | zero =>
    rw [assemble]
    split
    next hn => simp [assembleWithin, hn]
    next hs => exact absurd (AList.len_erase_lt hs) (by omega)
  | succ fuel ih =>
    rw [assemble]
    split
    next hn => simp [assembleWithin, hn]
    next hs =>
      have hlt := AList.len_erase_lt hs
      simp only [assembleWithin, hs, ih (Nat.le_of_lt_succ (hlt.trans_le h))]
      split <;> rfl

lemma len_makeRoom_lt (s : Depacketizer) {opts} (hlimit : 0 < opts.maxPartialFrames)
    (frameNumber : UInt16) (dropError : Option DepacketizerDropError) :
    (s.makeRoom opts frameNumber dropError).2.partials.len < opts.maxPartialFrames := by
  induction s, dropError using makeRoom.induct opts frameNumber with
  | case1 s _ hfull _ hs ih =>
    rw [makeRoom, if_pos hfull, dif_pos hs]
    exact ih
  | case2 s _ hfull _ hn =>
    rw [makeRoom, if_pos hfull, dif_neg hn]
    change ¬ (s.evictOldest frameNumber).1.isSome at hn
    cases hf : s.partials.first with
    | none =>
      -- there is nothing to evict
      have hempty : s.partials.entries = [] := by simpa [AList.first] using hf
      simpa [evictOldest, hf, AList.len, hempty] using hlimit
    | some => simp [evictOldest, hf] at hn
  | case3 _ _ hroom =>
    rw [makeRoom, if_neg hroom]
    exact not_le.mp hroom

section

variable {s : Depacketizer} {pkt : Packet} {opts : DepacketizerPushOptions}

lemma len_push_start (hlimit : 0 < opts.maxPartialFrames) (h : pkt.header.marker = .start) :
    (s.push pkt opts).2.partials.len ≤ opts.maxPartialFrames := by
  unfold push
  rw [h]
  exact (AList.len_insertLast_le ..).trans (s.len_makeRoom_lt hlimit pkt.header.frameNumber none)

lemma len_push_le (h : pkt.header.marker ≠ .start) :
    (s.push pkt opts).2.partials.len ≤ s.partials.len := by
  rw [← AList.length_keys, ← AList.length_keys]
  -- no frame number is new
  refine ((s.push pkt opts).2.partials.keys_nodup.subperm fun n hn => ?_).length_le
  obtain ⟨_, hl⟩ := Option.isSome_iff_exists.mp (AList.lookup_isSome.mpr hn)
  refine AList.lookup_isSome.mp ?_
  rcases lookup_push hl with ⟨hold, -⟩ | ⟨-, ⟨hst, -⟩ | ⟨-, _, hold, -⟩⟩
  · simp [hold]
  · exact absurd hst h
  · simp [hold]

end

lemma len_insert_le {m : Map UInt16 Bytes} (h : ¬ MAX_BUFFER_PACKETS ≤ m.len) (seq : UInt16)
    (data : Bytes) : (m.insert seq data).len ≤ MAX_BUFFER_PACKETS := by
  have hle : (m.keys.erase seq).length ≤ m.keys.length := List.length_erase_le
  rw [AList.length_keys] at hle
  rw [← AList.length_keys, AList.keys_insert, List.length_cons]
  omega

def Bounded : Prop := ∀ n partialFrame, self.partials.lookup n = some partialFrame →
  partialFrame.payloads.lookup partialFrame.startSequence ≠ none ∧
    partialFrame.payloads.len ≤ MAX_BUFFER_PACKETS

lemma Bounded.push {s : Depacketizer} (h : s.Bounded) (pkt opts) : (s.push pkt opts).2.Bounded := by
  intro n pf hl
  rcases lookup_push hl with ⟨hold, -⟩ | ⟨-, ⟨-, rfl⟩ | ⟨-, old, hold, hroom, rfl⟩⟩
  · exact h n pf hold
  · simp [← AList.insert_empty, len_insert_le (m := ∅) (by decide)]
  · refine ⟨?_, len_insert_le hroom ..⟩
    rw [AList.lookup_insert_ite]
    split
    · exact Option.some_ne_none _
    · exact (h n old hold).1

/-- **Memory bound.** Whatever was pushed, with limits of at least one, each partial frame has
between 1 and 128 payloads, one of them under its start sequence number. There are never more
partial frames, of distinct numbers, than the largest limit, nor than the current one after a start
packet. A frame is put together in at most 128 iterations. -/
theorem push_bounded (pushes : List (Packet × DepacketizerPushOptions)) (packet : Packet)
    (options : DepacketizerPushOptions)
    (h_limits : ∀ pushed ∈ pushes ++ [(packet, options)], 1 ≤ pushed.2.maxPartialFrames) :
    let self := Machine.state step new pushes
    (∀ n partialFrame, self.partials.lookup n = some partialFrame →
      1 ≤ partialFrame.payloads.len ∧ partialFrame.payloads.len ≤ 128 ∧
        partialFrame.payloads.lookup partialFrame.startSequence ≠ none) ∧
    self.partials.keys.Nodup ∧
    (∀ limit, (∀ pushed ∈ pushes, pushed.2.maxPartialFrames ≤ limit) → self.partials.len ≤ limit) ∧
    (packet.header.marker = .start →
      (self.push packet options).2.partials.len ≤ options.maxPartialFrames) ∧
    ∀ partialFrame, self.partials.lookup packet.header.frameNumber = some partialFrame →
      partialFrame.payloads.len < MAX_BUFFER_PACKETS →
      let payloads := partialFrame.payloads.insert packet.header.sequence packet.payload
      assembleWithin 128 payloads packet.header.sequence partialFrame.startSequence [] =
        some (assemble payloads packet.header.sequence partialFrame.startSequence []) := by
  intro self
  refine ⟨fun n pf hl => ?_, self.partials.keys_nodup, fun limit h => ?_,
    len_push_start (h_limits _ List.mem_concat_self), fun pf _ hroom => ?_⟩
  · have hbounded : self.Bounded :=
      Machine.state_invariant nofun pushes fun _ pushed _ hs => hs.push pushed.1 pushed.2
    obtain ⟨hstart, hle⟩ := hbounded n pf hl
    obtain ⟨_, hdata⟩ := Option.ne_none_iff_exists'.mp hstart
    exact ⟨Nat.zero_lt_of_lt (AList.len_erase_lt hdata), hle, hstart⟩
  · refine Machine.state_invariant (P := fun s : Depacketizer => s.partials.len ≤ limit)
      (Nat.zero_le _) pushes fun s pushed hm hs => ?_
    by_cases hst : pushed.1.header.marker = .start
    · exact (len_push_start (h_limits pushed (List.mem_append_left _ hm)) hst).trans (h pushed hm)
    · exact (len_push_le hst).trans hs
  · exact assembleWithin_eq (len_insert_le (not_le.mpr hroom) ..) ..

/-- A third frame starts while two are incomplete. -/
theorem push_bounded_third :
    let packet (marker : FrameMarker) (sequence frameNumber : UInt16) : Packet :=
      ⟨⟨marker, .one, sequence, frameNumber, ⟨0⟩, {}⟩, [0]⟩
    let pushes := [(packet .start 10 1, ⟨2⟩), (packet .inter 11 1, ⟨2⟩), (packet .start 20 2, ⟨2⟩)]
    (Machine.state step new pushes).partials.len = 2 ∧
      ((Machine.state step new pushes).push (packet .start 30 3) ⟨2⟩).2.partials.len ≤ 2 := by
  intro packet pushes
  exact ⟨by decide +kernel, (push_bounded pushes _ ⟨2⟩ (by decide)).2.2.2.1 rfl⟩

end Depacketizer

end LiveKit.DataTrack
