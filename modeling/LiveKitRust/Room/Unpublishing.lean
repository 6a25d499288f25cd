import LiveKitRust.Base.Maps
import LiveKitRust.Base.Outcome

/-!
# Unpublishing a local track (`room/participant/local_participant.rs`)

`unpublish_track` takes the publication out of the map before the transport is asked to remove the
track. If the transport refuses (after a full reconnect the sender is one of a closed peer
connection), the call fails with the publication gone and nobody told (`unpublishTrack_clean_iff`).
-/

open Rust

namespace LiveKit.Room

variable {τ ε : Type}

structure LocalTrack (τ : Type) where
  sender : Option τ

structure LocalTrackPublication (τ : Type) where
  sid : String
  track : Option (LocalTrack τ)

inductive LocalEvent (τ : Type) where
  | localTrackUnpublished (publication : LocalTrackPublication τ)

/-- `RoomError`, as far as `unpublish_track` returns it. -/
inductive UnpublishError (ε : Type) where
  | engine (error : ε)
  | internal (message : String)

structure LocalParticipant (τ : Type) where
  trackPublications : Map String (LocalTrackPublication τ)

structure Unpublished (τ ε : Type) where
  result : Outcome (UnpublishError ε) (LocalTrackPublication τ)
  participant : LocalParticipant τ
  events : List (LocalEvent τ)

namespace LocalParticipant

variable (self : LocalParticipant τ) (sid : String) (removeTrack : τ → Except ε Unit)

/-- `removeTrack` is `RtcEngine::remove_track`. The negotiation is started in a task of its own. -/
def unpublishTrack : Unpublished τ ε :=
  match self.trackPublications.lookup sid with
  | none => ⟨.err (.internal "track not found"), self, []⟩
  | some publication =>
    let removed : LocalParticipant τ := ⟨self.trackPublications.erase sid⟩
    match publication.track.bind (·.sender) with
    -- the two calls of unwrap
    | none => ⟨.panic, removed, []⟩
    | some sender =>
      match removeTrack sender with
      | .error error => ⟨.err (.engine error), removed, []⟩
      | .ok () => ⟨.ok { publication with track := none }, removed,
        [.localTrackUnpublished { publication with track := some ⟨none⟩ }]⟩

/-- All or nothing: the publication is removed and this is told once, or nothing happens. -/
def Clean (outcome : Unpublished τ ε) : Prop :=
  match outcome.result with
  | .ok publication => (self.trackPublications.lookup sid).isSome ∧
    outcome.participant.trackPublications = self.trackPublications.erase sid ∧
    ∃ told, outcome.events = [.localTrackUnpublished told] ∧ told.sid = publication.sid
  | .err _ => outcome.participant = self ∧ outcome.events = []
  | .panic => False

/-- **All or nothing**, exactly when there is nothing to unpublish or the transport removes the
track. -/
theorem unpublishTrack_clean_iff : self.Clean sid (self.unpublishTrack sid removeTrack) ↔
    ∀ publication, self.trackPublications.lookup sid = some publication →
      ∃ sender, publication.track.bind (·.sender) = some sender ∧ (removeTrack sender).isOk := by
  cases hl : self.trackPublications.lookup sid with
  | none =>
    rw [unpublishTrack, hl]
    exact iff_of_true ⟨rfl, rfl⟩ nofun
  | some publication =>
    simp only [Option.some.injEq, forall_eq']
    rw [unpublishTrack, hl]
    dsimp only
    cases publication.track.bind (·.sender) with
    | none => exact iff_of_false id nofun
    | some sender =>
      simp only [Option.some.injEq, exists_eq_left']
      cases removeTrack sender with
      | error error =>
        -- the publication was there and is gone
        refine iff_of_false (fun hclean => ?_) Bool.false_ne_true
        have hsame : self.trackPublications.erase sid = self.trackPublications :=
          congrArg trackPublications hclean.1
        have herased := AList.lookup_erase sid self.trackPublications
        rw [hsame, hl] at herased
        cases herased
      | ok => exact iff_of_true ⟨by rw [hl]; rfl, rfl, _, rfl, rfl⟩ rfl

/-- The transport refuses to remove the sender of an earlier session. -/
theorem unpublishTrack_refused :
    let part : LocalParticipant Unit :=
      ⟨(∅ : Map _ _).insert "TR_a" ⟨"TR_a", some ⟨some ()⟩⟩⟩
    let outcome := part.unpublishTrack "TR_a" fun _ => .error "wrong peer connection"
    (part.trackPublications.lookup "TR_a").isSome ∧
      outcome.result = .err (.engine "wrong peer connection") ∧
      outcome.participant.trackPublications.lookup "TR_a" = none ∧ outcome.events = [] :=
  ⟨rfl, rfl, rfl, rfl⟩

end LocalParticipant

end LiveKit.Room
