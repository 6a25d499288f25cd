import LiveKitRust.Room.Session

/-!
# Participants that rejoin

The map of the participants is by identity, and updates name a SID besides. Before an update is
taken a participant of the same identity and another SID is removed, as it must have rejoined. That
is done also for an update which says, late, that the participant has disconnected under an earlier
SID, and then it removes the participant who has rejoined.
-/

open Machine

namespace LiveKit.Room

lemma ParticipantInfo.participantDisconnected_not_mem_changes (old new : ParticipantInfo)
    (p : ParticipantRef) : .participantDisconnected p ∉ old.changes new := by
  unfold ParticipantInfo.changes
  repeat' split
  all_goals simp

namespace RoomSession

variable {s : RoomSession} {ord : Orders} {upd : ParticipantUpdate}

lemma updateParticipant_of_isLocal (h : s.isLocal upd.info) :
    updateParticipant ord s upd = s.updateLocal upd.info := if_pos h

lemma updateParticipant_of_not_isLocal (h : ¬ s.isLocal upd.info) :
    updateParticipant ord s upd = s.updateRemote ord upd := if_neg h

lemma handleParticipantUpdate_singleton :
    (s.handleParticipantUpdate ord [upd]).1 = (updateParticipant ord s upd).1 :=
  rfl

lemma mem_handleParticipantUpdate_singleton {p} :
    .participantDisconnected p ∈ (s.handleParticipantUpdate ord [upd]).2 ↔
      .participantDisconnected p ∈ (updateParticipant ord s upd).2 := by
  simp only [handleParticipantUpdate, run, List.append_nil, List.mem_append]
  split <;> simp

lemma participantDisconnected_mem_updateRemote {old}
    (hold : s.remoteParticipants.lookup upd.info.identity = some old)
    (hsid : old.info.sid ≠ upd.info.sid) :
    .participantDisconnected old.info.ref ∈ (s.updateRemote ord upd).2 := by
  have hdisconnect : s.disconnectOld ord upd.info =
      s.handleParticipantDisconnect ord upd.info.identity old := by
    unfold disconnectOld getParticipantByIdentity
    rw [hold]
    exact if_pos hsid
  refine List.mem_append_left _ ?_
  rw [hdisconnect]
  exact List.mem_append_right _ (List.mem_singleton_self _)

/-- **A disconnect and a participant that has rejoined.** The update says that a participant is
disconnected. One of the same identity that is in the room under another SID, because it has
rejoined, is left alone if and only if there is none, or the update is taken for one of the
local participant. -/
theorem disconnect_spares_rejoined_iff (room : RoomSession) (orders : Orders)
    (update : ParticipantUpdate) : update.info.state = .disconnected →
      ((∀ participant, room.remoteParticipants.lookup update.info.identity = some participant →
          participant.info.sid ≠ update.info.sid →
            (room.handleParticipantUpdate orders [update]).1.remoteParticipants.lookup
                update.info.identity = some participant ∧
              .participantDisconnected participant.info.ref ∉
                (room.handleParticipantUpdate orders [update]).2) ↔
        room.isLocal update.info ∨ ∀ participant,
            room.remoteParticipants.lookup update.info.identity = some participant →
              participant.info.sid = update.info.sid) := by
  intro _
  constructor
  · intro hspares
    by_cases hlocal : room.isLocal update.info
    · exact .inl hlocal
    · refine .inr fun participant hlook => ?_
      by_contra hsid
      refine (hspares participant hlook hsid).2 ?_
      rw [mem_handleParticipantUpdate_singleton, updateParticipant_of_not_isLocal hlocal]
      exact participantDisconnected_mem_updateRemote hlook hsid
  · rintro (hlocal | hsid) participant hlook hne
    · rw [mem_handleParticipantUpdate_singleton, handleParticipantUpdate_singleton,
        updateParticipant_of_isLocal hlocal]
      exact ⟨hlook, ParticipantInfo.participantDisconnected_not_mem_changes _ _ _⟩
    · exact absurd (hsid participant hlook) hne

/-- A participant without tracks. -/
def participantUpdate (sid identity : String) (state : ParticipantState) : ParticipantUpdate :=
  ⟨⟨sid, identity, "", state, "", ∅, .unknownReason, none⟩, []⟩

def emptyRoom : RoomSession :=
  (connect .asListed true (participantUpdate "PA_local" "local" .active).info []).1

def rejoined : RoomSession :=
  (emptyRoom.handleParticipantUpdate .asListed
    [participantUpdate "PA_1" "alice" .active, participantUpdate "PA_2" "alice" .active]).1

theorem disconnect_spares_rejoined_iff_current :
    (∀ participant, rejoined.remoteParticipants.lookup "alice" = some participant →
        participant.info.sid ≠ "PA_2" → (rejoined.handleParticipantUpdate .asListed
              [participantUpdate "PA_2" "alice" .disconnected]).1.remoteParticipants.lookup
                "alice" =
            some participant ∧ .participantDisconnected participant.info.ref ∉
            (rejoined.handleParticipantUpdate .asListed
              [participantUpdate "PA_2" "alice" .disconnected]).2) ↔
      rejoined.isLocal (participantUpdate "PA_2" "alice" .disconnected).info ∨
        ∀ participant, rejoined.remoteParticipants.lookup "alice" = some participant →
          participant.info.sid = "PA_2" :=
  disconnect_spares_rejoined_iff rejoined .asListed
    (participantUpdate "PA_2" "alice" .disconnected) rfl

/-- The late end of the first session removes the second one. -/
theorem rejoined_disconnected :
    (rejoined.remoteParticipants.lookup "alice").map (fun participant => participant.info.sid) =
        some "PA_2" ∧ ((rejoined.handleParticipantUpdate .asListed
          [participantUpdate "PA_1" "alice" .disconnected]).1.remoteParticipants.lookup
            "alice").isNone = true ∧ (rejoined.handleParticipantUpdate .asListed
          [participantUpdate "PA_1" "alice" .disconnected]).2 =
        [.participantDisconnected ⟨"PA_2", "alice"⟩] := by
  decide +kernel

end RoomSession

end LiveKit.Room
