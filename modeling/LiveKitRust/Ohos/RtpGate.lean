import Mathlib.Data.List.Infix
import LiveKitRust.Base.Maps
import LiveKitRust.Base.Monitor

/-!
# The gate for RTP (`ohos/rtc_io_driver.rs`)

`do_write_rtp` holds the packets of a track back until a remote answer has the mid of its sender.
It looks for the mid in the text of the answer, where it is also found as the beginning of a longer
one, and remembers the id of the track, also for another sender that is added for it later
(`gated_of_distinct`).

The rtc crate gives out the mids, and keeps the remote description that was applied last.
-/

open Machine Monitor

namespace LiveKit.Ohos

def midLine (mid : String) : String := "a=mid:" ++ mid

/-- `sdp.contains`, on the lines of a description. -/
def containsMid (sdp : List String) (mid : String) : Bool :=
  sdp.any fun line => (midLine mid).toList <:+: line.toList

/-- What can be seen of the senders: `handed` is a packet that the rtc crate is given, with the mid
of its sender. -/
inductive GateEvent where
  | added (sender : ℕ)
  | answered (sdp : List String)
  | handed (sender : ℕ) (mid : Option String)
  deriving DecidableEq

/-- Senders are numbered as they are added. -/
structure RtcIoDriver where
  senders : List ℕ := []
  tracks : Map String ℕ := ∅
  rtpNegotiatedTracks : List String := []
  nextSender : ℕ := 0
  mids : ℕ → Option String := fun _ => none
  remoteDescription : Option (List String) := none

namespace RtcIoDriver

variable (self : RtcIoDriver)

inductive Action where
  | addTrack (trackId : String)
  | removeTrack (sender : ℕ)
  /-- The rtc crate gives the transceiver of a sender its mid. -/
  | assignMid (sender : ℕ) (mid : String)
  | answer (sdp : List String)
  | writeRtp (trackId : String)

def doWriteRtp (trackId : String) : RtcIoDriver × List GateEvent :=
  match self.tracks.lookup trackId with
  | none => (self, [])
  | some sender =>
    if trackId ∈ self.rtpNegotiatedTracks then (self, [.handed sender (self.mids sender)])
    else
      match self.mids sender, self.remoteDescription with
      | some mid, some remote =>
        if containsMid remote mid then
          ({ self with rtpNegotiatedTracks := trackId :: self.rtpNegotiatedTracks },
            [.handed sender mid])
        else (self, [])
      | _, _ => (self, [])

def step : Action → RtcIoDriver × List GateEvent
  | .addTrack trackId =>
    ({ self with
        senders := self.nextSender :: self.senders
        tracks := self.tracks.insert trackId self.nextSender
        nextSender := self.nextSender + 1 }, [.added self.nextSender])
  | .removeTrack sender =>
    (if sender ∈ self.senders then
      { self with
        senders := self.senders.erase sender
        tracks := self.tracks.retain fun _ sid => sid ≠ sender }
    else self, [])
  | .assignMid sender mid =>
    (if sender < self.nextSender ∧ self.mids sender = none then
      { self with mids := fun n => if n = sender then some mid else self.mids n }
    else self, [])
  | .answer sdp => ({ self with remoteDescription := some sdp }, [.answered sdp])
  | .writeRtp trackId => self.doWriteRtp trackId

/-- The lines of the answers that have been applied since the sender was added. A packet of it is
handed over only if its mid is in one of them. -/
def observe (sender : ℕ) (since : List String) : GateEvent → Option (List String)
  | .added n => some (if n = sender then [] else since)
  | .answered sdp => some (since ++ sdp)
  | .handed n mid =>
    if n = sender → ∃ m ∈ mid, midLine m ∈ since then some since else none

/-- No track is added under the id of one that was negotiated, no sender gets a mid that is found
in the description already, and a mid that is found in it is one of its mids. -/
def Distinct (self : RtcIoDriver) : Action → Prop
  | .addTrack trackId => trackId ∉ self.rtpNegotiatedTracks
  | .assignMid _ mid => ∀ sdp, self.remoteDescription = some sdp → containsMid sdp mid = false
  | .writeRtp trackId => ∀ sender mid sdp, self.tracks.lookup trackId = some sender →
    self.mids sender = some mid → self.remoteDescription = some sdp → containsMid sdp mid →
    midLine mid ∈ sdp
  | _ => True

/-- The sender of a negotiated track has its mid in an answer since it was added, and a mid that is
found in the description was given before that was applied. -/
structure Sound (sender : ℕ) (driver : RtcIoDriver) (since : List String) : Prop where
  mid : driver.mids sender ≠ none → sender < driver.nextSender
  track : ∀ trackId, driver.tracks.lookup trackId = some sender → sender < driver.nextSender
  negotiated : ∀ trackId, driver.tracks.lookup trackId = some sender →
    trackId ∈ driver.rtpNegotiatedTracks → ∃ m, driver.mids sender = some m ∧ midLine m ∈ since
  described : ∀ m sdp, driver.mids sender = some m → driver.remoteDescription = some sdp →
    containsMid sdp m → sdp ⊆ since

variable {self} {sender : ℕ} {since : List String} {a : Action}

lemma Sound.passes (h : Sound sender self since) (hd : self.Distinct a) :
    Passes (observe sender) since (self.step a).2 (Sound sender (self.step a).1) := by
  obtain ⟨hmid, htrack, hnegotiated, hdescribed⟩ := h
  cases a with
  | addTrack trackId =>
    refine .single rfl ?_
    rw [step]
    split <;> constructor <;> grind [Distinct, AList.lookup_insert_ite]
  | removeTrack n =>
    refine .nil ?_
    rw [step]
    split <;> constructor <;> grind [AList.lookup_retain, Option.filter_eq_some_iff]
  | assignMid n mid =>
    refine .nil ?_
    rw [step]
    split <;> constructor <;> grind [Distinct]
  | answer sdp =>
    refine .single rfl ?_
    rw [step]
    constructor <;> grind
  | writeRtp trackId =>
    rw [step, doWriteRtp]
    split
    · exact .nil ⟨hmid, htrack, hnegotiated, hdescribed⟩
    next n hl =>
      split
      next hm =>
        refine .single (if_pos ?_) ⟨hmid, htrack, hnegotiated, hdescribed⟩
        rintro rfl
        exact hnegotiated trackId hl hm
      · split
        next mid sdp hmids hsdp =>
          split
          next hcontains =>
            have hline := hd n mid sdp hl hmids hsdp hcontains
            refine .single (if_pos ?_) ?_
            · rintro rfl
              exact ⟨mid, rfl, hdescribed mid sdp hmids hsdp hcontains hline⟩
            · constructor <;> grind
          · exact .nil ⟨hmid, htrack, hnegotiated, hdescribed⟩
        · exact .nil ⟨hmid, htrack, hnegotiated, hdescribed⟩

/-- **The gate.** In a run in which track ids and mids stay distinct, a packet is handed to the rtc
crate only if the mid of its sender is a mid of an answer that was applied after the sender was
added. -/
theorem gated_of_distinct {actions : List Action} (h : Along step Distinct {} actions)
    (sender : ℕ) : (watch (observe sender) [] (outputs step {} actions)).isSome := by
  have hinit : Sound sender {} [] := ⟨nofun, nofun, nofun, nofun⟩
  exact (Passes.along h hinit fun s a since hd hs => hs.passes hd).isSome

theorem gated_of_distinct_one : (watch (observe 0) [] (outputs step {}
    [.addTrack "t", .assignMid 0 "1", .answer ["a=mid:1"], .writeRtp "t"])).isSome := by
  refine gated_of_distinct ?_ 0
  refine ⟨nofun, nofun, trivial, ?_, trivial⟩
  rintro sender mid sdp - hmid ⟨⟩ -
  obtain ⟨-, rfl⟩ : sender = 0 ∧ "1" = mid := by simpa [step] using hmid
  decide +kernel

/-- A track is added again after it was negotiated. -/
theorem readded_ungated :
    let outs := outputs step {} [.addTrack "t", .assignMid 0 "1", .answer ["a=mid:1"],
      .writeRtp "t", .removeTrack 0, .addTrack "t", .writeRtp "t"]
    outs.getLast? = some (.handed 1 none) ∧ watch (observe 1) [] outs = none := by
  decide +kernel

end RtcIoDriver

end LiveKit.Ohos
