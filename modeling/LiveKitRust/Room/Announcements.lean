import LiveKitRust.Base.Monitor
import LiveKitRust.Room.Roster

/-!
# What the room tells of its participants

A monitor reads the log for one participant, by SID and identity, and one track (`observe`). A
participant is connected once and disconnected once; its track is published once while it is there,
and unpublished once before the participant is disconnected; in between it is subscribed and
unsubscribed in turns. A restart removes everyone, and those may be told of once more.
-/

open Machine Monitor List

namespace LiveKit.Room

/-! ### The monitor -/

/-- What has been told of a participant, or of a track. -/
inductive Phase where
  | unseen
  | present
  /-- About to be removed for a restart. -/
  | leaving
  | gone
  deriving DecidableEq

namespace Phase

def here : Phase → Bool
  | .present => true
  | .leaving => true
  | _ => false

def enter : Phase → Option Phase
  | .unseen => some .present
  | _ => none

/-- What is removed for a restart may come again. -/
def leave : Phase → Option Phase
  | .present => some .gone
  | .leaving => some .unseen
  | _ => none

def restart : Phase → Phase
  | .present => .leaving
  | phase => phase

end Phase

structure Seen where
  participant : Phase
  track : Phase
  subscribed : Bool
  deriving DecidableEq

def Seen.start : Seen := ⟨.unseen, .unseen, false⟩

/-- An event is read, and rejected if it may not come now. -/
def observe (who : ParticipantRef) (track : String) (seen : Seen) : RoomEvent → Option Seen
  | .connected participants =>
    if seen = Seen.start then
      some ⟨if who ∈ participants.map Prod.fst then .present else .unseen,
        if ∃ entry ∈ participants, entry.1 = who ∧ track ∈ entry.2 then .present
          else .unseen, false⟩
    else none
  | .participantConnected participant =>
    if participant = who then
      seen.participant.enter.map fun phase => { seen with participant := phase }
    else some seen
  | .participantDisconnected participant =>
    if participant = who then
      if seen.track.here then none
      else seen.participant.leave.map fun phase => { seen with participant := phase }
    else some seen
  | .trackPublished participant sid =>
    if participant = who ∧ sid = track then
      if seen.participant = .present then
        seen.track.enter.map fun phase => { seen with track := phase }
      else none
    else some seen
  | .trackUnpublished participant sid =>
    if participant = who ∧ sid = track then
      if seen.participant.here = true ∧ seen.subscribed = false then
        seen.track.leave.map fun phase => { seen with track := phase }
      else none
    else some seen
  | .trackSubscribed participant sid =>
    if participant = who ∧ sid = track then
      if seen.track = .present ∧ seen.subscribed = false then some { seen with subscribed := true }
      else none
    else some seen
  | .trackUnsubscribed participant sid =>
    if participant = who ∧ sid = track then
      if seen.track.here = true ∧ seen.subscribed = true then
        some { seen with subscribed := false }
      else none
    else some seen
  | _ => some seen

def observeOutput (who : ParticipantRef) (track : String) (seen : Seen) : Output → Option Seen
  | .event event => observe who track seen event
  | .restarting =>
    some { seen with participant := seen.participant.restart, track := seen.track.restart }
  | _ => some seen

section Observe

variable {who : ParticipantRef} {track : String} {seen : Seen}

variable {event : RoomEvent} {gone : Prop} {up : Phase}

lemma observe_of_not_isRoster (h : event.isRoster = false) :
    observe who track seen event = some seen := by
  cases event <;> first | rfl | cases h

lemma observeOutput_of_not_isRoster {output} (h : output.isRoster = false) :
    observeOutput who track seen output = some seen := by
  cases output with
  | event event => exact observe_of_not_isRoster h
  | restarting => cases h
  | _ => rfl

lemma observe_of_about {ref} (h : event.about = some ref) (hne : ref ≠ who) :
    observe who track seen event = some seen := by
  cases event
  all_goals
    first
    | rfl
    | cases h
      first
      | exact if_neg hne
      | exact if_neg fun heq => hne heq.1
    | cases h

/-! ### What is told fits what is there -/

/-- The phase fits: `up` if it is there, and otherwise it has not been seen, or has gone. -/
def Phase.Reads (phase up : Phase) (here : Bool) (gone : Prop) : Prop :=
  (here = true → phase = up) ∧ (here = false → phase = .unseen ∨ phase = .gone ∧ gone)

lemma Phase.Reads.present_iff {phase : Phase} {here : Bool} (h : phase.Reads .present here gone) :
    phase = .present ↔ here = true := by
  constructor
  · rintro rfl
    by_contra hout
    rcases h.2 (by simpa using hout) with hp | ⟨hp, -⟩
    all_goals cases hp
  · exact h.1

/-- What is there leaves: to come again after a restart, or for good. -/
def Phase.Departs (up : Phase) (gone : Prop) : Prop := up = .leaving ∨ up = .present ∧ gone

lemma Phase.Departs.leave (h : up.Departs gone) :
    ∃ phase, up.leave = some phase ∧ ∀ {up' : Phase}, phase.Reads up' false gone := by
  rcases h with rfl | ⟨rfl, hgone⟩
  · exact ⟨.unseen, rfl, nofun, fun _ => .inl rfl⟩
  · exact ⟨.gone, rfl, nofun, fun _ => .inr ⟨rfl, hgone⟩⟩

lemma Phase.Departs.here (h : up.Departs gone) : up.here = true := by
  rcases h with rfl | ⟨rfl, -⟩
  all_goals rfl

/-- What has been told fits a participant that is there or not, and its track: not there, or
there with or without media. -/
structure Shown (who : ParticipantRef) (track : String) (up : Phase)
    (gone goneTracks : List String) (here : Bool) (view : Option Bool) (seen : Seen) : Prop where
  participant : seen.participant.Reads up here (who.sid ∈ gone)
  track : seen.track.Reads up view.isSome (track ∈ goneTracks)
  subscribed : seen.subscribed = view.getD false

namespace Shown

variable {up up' : Phase} {gone gone' lost goneTracks' : List String} {here : Bool}
  {view : Option Bool}

lemma mono (h : Shown who track up gone lost here view seen) (hgone : gone ⊆ gone')
    (htrs : lost ⊆ goneTracks') :
    Shown who track up gone' goneTracks' here view seen where
  participant := ⟨h.participant.1, fun hout => (h.participant.2 hout).imp_right
    (And.imp_right fun hm => hgone hm)⟩
  track := ⟨h.track.1, fun hout => (h.track.2 hout).imp_right (And.imp_right fun hm => htrs hm)⟩
  subscribed := h.subscribed

lemma absent (h : Shown who track up gone lost false none seen) :
    Shown who track up' gone lost false none seen where
  participant := ⟨nofun, h.participant.2⟩
  track := ⟨nofun, h.track.2⟩
  subscribed := h.subscribed

lemma connect (h : Shown who track .present gone lost false none seen) (hfresh : who.sid ∉ gone) :
    Passes (observe who track) seen [.participantConnected who]
      (Shown who track .present gone lost true none) := by
  have hunseen : seen.participant = .unseen :=
    (h.participant.2 rfl).resolve_right fun hgone => hfresh hgone.2
  have hobserve : observe who track seen (.participantConnected who) =
      some { seen with participant := .present } := by
    simp [observe, hunseen, Phase.enter]
  exact .single hobserve ⟨⟨fun _ => rfl, nofun⟩, h.track, h.subscribed⟩

lemma disconnect (h : Shown who track up gone lost true none seen)
    (hup : up.Departs (who.sid ∈ gone)) :
    Passes (observe who track) seen [.participantDisconnected who]
      (Shown who track .present gone lost false none) := by
  obtain ⟨phase, hleave, hp⟩ := hup.leave
  have htr : seen.track.here = false := by
    rcases h.track.2 rfl with htr | ⟨htr, -⟩
    all_goals
      rw [htr]
      rfl
  have hobserve : observe who track seen (.participantDisconnected who) =
      some { seen with participant := phase } := by
    simp [observe, htr, h.participant.1 rfl, hleave]
  exact .single hobserve ⟨hp, ⟨nofun, h.track.2⟩, h.subscribed⟩

lemma publish (h : Shown who track .present gone lost true none seen) (hfresh : track ∉ lost) :
    Passes (observe who track) seen [.trackPublished who track]
      (Shown who track .present gone lost true (some false)) := by
  have hunseen : seen.track = .unseen := (h.track.2 rfl).resolve_right fun hgone => hfresh hgone.2
  have hobserve : observe who track seen (.trackPublished who track) =
      some { seen with track := .present } := by
    simp [observe, h.participant.1 rfl, hunseen, Phase.enter]
  exact .single hobserve ⟨h.participant, ⟨fun _ => rfl, nofun⟩, h.subscribed⟩

lemma unpublish (h : Shown who track up gone lost true (some false) seen)
    (hup : up.Departs (track ∈ lost)) :
    Passes (observe who track) seen [.trackUnpublished who track]
      (Shown who track up gone lost true none) := by
  obtain ⟨phase, hleave, hp⟩ := hup.leave
  have hobserve : observe who track seen (.trackUnpublished who track) =
      some { seen with track := phase } := by
    simp [observe, h.participant.1 rfl, hup.here, h.subscribed, h.track.1 rfl, hleave]
  exact .single hobserve ⟨h.participant, hp, h.subscribed⟩

lemma subscribe (h : Shown who track .present gone lost true (some false) seen) :
    Passes (observe who track) seen [.trackSubscribed who track]
      (Shown who track .present gone lost true (some true)) := by
  have hobserve : observe who track seen (.trackSubscribed who track) =
      some { seen with subscribed := true } := by
    simp [observe, h.track.1 rfl, h.subscribed]
  exact .single hobserve ⟨h.participant, h.track, rfl⟩

lemma unsubscribe (h : Shown who track up gone lost true (some true) seen)
    (hhere : up.here = true) : Passes (observe who track) seen [.trackUnsubscribed who track]
      (Shown who track up gone lost true (some false)) := by
  have hobserve : observe who track seen (.trackUnsubscribed who track) =
      some { seen with subscribed := false } := by
    simp [observe, h.track.1 rfl, hhere, h.subscribed]
  exact .single hobserve ⟨h.participant, h.track, rfl⟩

lemma unsubscribe_if {media} (h : Shown who track up gone lost true (some media) seen)
    (hhere : up.here = true) :
    Passes (observe who track) seen (if media then [.trackUnsubscribed who track] else [])
      (Shown who track up gone lost true (some false)) := by
  cases media with
  | true => exact h.unsubscribe hhere
  | false => exact .nil h

end Shown

end Observe

/-! ### What a participant tells -/

lemma ParticipantInfo.quiet_changes (old new : ParticipantInfo) :
    ∀ event ∈ old.changes new, event.isRoster = false := by
  simp only [ParticipantInfo.changes, forall_mem_append]
  refine ⟨⟨⟨?_, ?_⟩, ?_⟩, ?_⟩
  all_goals
    split
    · simp
    · exact forall_mem_singleton.mpr rfl

/-- The publications stand under the SIDs of their tracks. -/
def RemoteParticipant.Keyed (self : RemoteParticipant) : Prop :=
  ∀ sid publication, self.publications.lookup sid = some publication → publication.info.sid = sid

/-- Whether there is a track, with or without media. -/
def RemoteParticipant.view (self : RemoteParticipant) (track : String) : Option Bool :=
  (self.publications.lookup track).map RemoteTrackPublication.track

lemma Matches.keyed {p u} (h : Matches p u) : p.Keyed := by
  intro sid _ hl
  have htr := h.2 sid
  rw [hl] at htr
  exact ParticipantUpdate.sid_of_track? htr.symm

def RoomEvent.aboutTrack : RoomEvent → Option String
  | .trackPublished _ track => some track
  | .trackUnpublished _ track => some track
  | .trackSubscribed _ track => some track
  | .trackUnsubscribed _ track => some track
  | _ => none

lemma passes_of_aboutTrack {who track sid seen events} {Q : Seen → Prop} (h : Q seen)
    (hne : track ≠ sid) (habout : ∀ event ∈ events, event.aboutTrack = some sid) :
    Passes (observe who track) seen events Q := by
  refine .of_ignored (fun event hm => ?_) h
  have hevent := habout event hm
  cases event
  all_goals
    first
    | cases hevent
      exact if_neg fun heq => hne heq.2.symm
    | cases hevent

namespace RemoteParticipant

/-- What is told of a change fits the track before and after it. -/
def Announces (self : RemoteParticipant) (track : String) (up : Phase) (gone lost : List String)
    (changed : RemoteParticipant × List RoomEvent) : Prop :=
  ∀ ⦃seen⦄, Shown self.info.ref track up gone lost true (self.view track) seen →
    Passes (observe self.info.ref track) seen changed.2
      (Shown self.info.ref track up gone lost true (changed.1.view track))

variable {s : RemoteParticipant} {track : String} {up : Phase} {gone lost : List String}
  {seen : Seen}

lemma view_unpublishTrack (sid : String) :
    (s.unpublishTrack sid).1.view track = if track = sid then none else s.view track := by
  unfold view
  rw [lookup_unpublishTrack]
  split <;> rfl

lemma Keyed.unpublishTrack (h : s.Keyed) (sid : String) : (s.unpublishTrack sid).1.Keyed := by
  intro other pub hl
  rw [lookup_unpublishTrack] at hl
  split at hl
  · cases hl
  · exact h other pub hl

variable {sid : String} {pub : RemoteTrackPublication}

lemma unpublishTrack_events (h : s.publications.lookup sid = some pub) : (s.unpublishTrack sid).2 =
      (if pub.track then [.trackUnsubscribed s.info.ref pub.info.sid] else []) ++
        [.trackUnpublished s.info.ref pub.info.sid] := by
  simp only [unpublishTrack, h, RemoteTrackPublication.setTrack]
  cases pub.track <;> rfl

lemma announces_unpublishTrack (hkeyed : s.Keyed) (sid : String)
    (hup : up.Departs (sid ∈ lost)) : s.Announces track up gone lost (s.unpublishTrack sid) := by
  intro seen h
  rw [view_unpublishTrack]
  cases hl : s.publications.lookup sid with
  | none =>
    have hsm : s.unpublishTrack sid = (s, []) := by
      simp only [unpublishTrack, hl]
    rw [hsm]
    refine .nil ?_
    split
    · next heq =>
      subst heq
      rw [view, hl] at h
      exact h
    · exact h
  | some pub =>
    have hsid : pub.info.sid = sid := hkeyed sid pub hl
    rw [unpublishTrack_events hl, hsid]
    by_cases heq : track = sid
    · subst heq
      rw [if_pos rfl]
      rw [view, hl] at h
      exact (h.unsubscribe_if hup.here).append fun _ hmid => hmid.unpublish hup
    · rw [if_neg heq]
      refine passes_of_aboutTrack h heq (forall_mem_append.mpr ⟨?_, forall_mem_singleton.mpr rfl⟩)
      split
      · exact forall_mem_singleton.mpr rfl
      · nofun

variable (listed : TrackInfo)

lemma view_updateTrack : (s.updateTrack listed).1.view track =
      if track = listed.sid then some ((s.view track).getD false) else s.view track := by
  unfold view
  rw [lookup_updateTrack]
  split
  · next heq =>
    rw [heq]
    cases s.publications.lookup listed.sid <;> rfl
  · rfl

lemma Keyed.updateTrack (h : s.Keyed) (listed) : (s.updateTrack listed).1.Keyed := by
  intro sid pub hl
  rw [lookup_updateTrack] at hl
  split at hl
  · next heq =>
    cases hl
    rw [renewed_info, heq]
  · exact h sid pub hl

lemma quiet_updateInfo {ref} (info) :
    ∀ event ∈ (pub.updateInfo ref info).2, event.isRoster = false := by
  simp only [RemoteTrackPublication.updateInfo]
  split_ifs
  · simp
  all_goals exact forall_mem_singleton.mpr rfl

lemma announces_updateTrack (hfresh : listed.sid ∉ lost) :
    s.Announces track .present gone lost (s.updateTrack listed) := by
  intro seen h
  rw [view_updateTrack]
  cases hl : s.publications.lookup listed.sid with
  | some pub =>
    have hevs : (s.updateTrack listed).2 = (pub.updateInfo s.info.ref listed).2 := by
      simp only [updateTrack, hl]
    rw [hevs]
    refine .of_ignored (fun event hm => observe_of_not_isRoster (quiet_updateInfo _ event hm)) ?_
    split
    · next heq =>
      subst heq
      rw [view, hl] at h ⊢
      exact h
    · exact h
  | none =>
    have hevs : (s.updateTrack listed).2 = [.trackPublished s.info.ref listed.sid] := by
      simp only [updateTrack, hl]
    rw [hevs]
    by_cases heq : track = listed.sid
    · subst heq
      rw [view, hl] at h ⊢
      rw [if_pos rfl]
      exact h.publish hfresh
    · rw [if_neg heq]
      exact passes_of_aboutTrack h heq (forall_mem_singleton.mpr rfl)

lemma Keyed.announces_run {ι : Type} {items : List ι}
    {step : RemoteParticipant → ι → RemoteParticipant × List RoomEvent} (hkeyed : s.Keyed)
    (hkeeps : ∀ p i, Keeps p (step p i).1) (hstep : ∀ p : RemoteParticipant, ∀ i ∈ items, p.Keyed →
      (step p i).1.Keyed ∧ p.Announces track up gone lost (step p i)) :
    s.Announces track up gone lost (run step s items) := by
  intro seen h
  refine (Passes.run (I := fun (p : RemoteParticipant) => fun seen =>
      p.Keyed ∧ p.info.ref = s.info.ref ∧
      Shown s.info.ref track up gone lost true (p.view track) seen)
    ⟨hkeyed, rfl, h⟩ ?_).mono fun _ hend => hend.2.2
  rintro p _ i hm ⟨hkeyed, href, h⟩
  rw [← href] at h ⊢
  obtain ⟨hkeyed', hann⟩ := hstep p i hm hkeyed
  exact (hann h).mono fun _ hseen => ⟨hkeyed', by rw [(hkeeps ..).info], hseen⟩

lemma announces_unpublishTracks (hkeyed : s.Keyed) {sids : List String}
    (hup : ∀ sid ∈ sids, up.Departs (sid ∈ lost)) :
    s.Announces track up gone lost (run unpublishTrack s sids) :=
  hkeyed.announces_run keeps_unpublishTrack fun _ sid hm h =>
    ⟨h.unpublishTrack sid, announces_unpublishTrack h sid (hup sid hm)⟩

section

variable (hkeyed : s.Keyed)
include hkeyed

lemma passes_updateInfo (order : HashOrder String)
    {u : ParticipantUpdate} {goneTracks' : List String}
    (h : Shown u.info.ref track .present gone lost true (s.view track) seen)
    (hfresh : ∀ sid ∈ u.trackSids, sid ∉ lost) (hsub : lost ⊆ goneTracks')
    (hdropped : ∀ sid, (s.publications.lookup sid).isSome → sid ∉ u.trackSids → sid ∈ goneTracks') :
    Passes (observe u.info.ref track) seen (s.updateInfo order u).2
      (Shown u.info.ref track .present gone goneTracks' true
        ((s.updateInfo order u).1.view track)) := by
  let renamed : RemoteParticipant := { s with info := u.info }
  let updated := state updateTrack renamed u.tracks
  have href : updated.info.ref = u.info.ref := by
    rw [(renamed.keeps_state keeps_updateTrack _).info]
  have hrenamed : renamed.Keyed := hkeyed
  have hupdated : updated.Keyed :=
    state_invariant (P := Keyed) hrenamed u.tracks fun _ listed _ h => h.updateTrack listed
  have hann : renamed.Announces track .present gone lost (run updateTrack renamed u.tracks) :=
    hrenamed.announces_run keeps_updateTrack fun _ listed hm h =>
      ⟨h.updateTrack listed, announces_updateTrack listed (hfresh _ (mem_map_of_mem hm))⟩
  have hchanges : Passes (observe u.info.ref track) seen (s.info.changes u.info)
      (Shown u.info.ref track .present gone lost true (renamed.view track)) :=
    .of_ignored (fun event hm => observe_of_not_isRoster (s.info.quiet_changes u.info event hm)) h
  refine (hchanges.append fun _ hmid => hann hmid).append fun _ hmid => ?_
  have hmid' := hmid.mono (List.Subset.refl gone) hsub
  rw [← href] at hmid' ⊢
  refine announces_unpublishTracks hupdated (fun sid hinvalid => .inr ⟨rfl, ?_⟩) hmid'
  -- a track that is invalid was there before
  obtain ⟨hm, hunlisted⟩ := mem_filter.mp hinvalid
  have hnot : sid ∉ u.trackSids := of_decide_eq_true hunlisted
  refine hdropped sid ?_ hnot
  have hth : (updated.publications.lookup sid).isSome :=
    AList.lookup_isSome.mpr ((order.perm _).mem_iff.mp hm)
  have hn : (u.tracks.reverse.find? fun listed => listed.sid = sid) = none := by
    rw [← Option.not_isSome_iff_eq_none]
    exact fun hs => hnot (ParticipantUpdate.track?_isSome.mp hs)
  rw [lookup_state_updateTrack, hn] at hth
  exact hth

lemma passes_departure (order) (h : Shown s.info.ref track up gone lost true (s.view track) seen)
    (htrs : ∀ sid, (s.publications.lookup sid).isSome → up.Departs (sid ∈ lost))
    (hup : up.Departs (s.info.sid ∈ gone)) : Passes (observe s.info.ref track) seen
      ((s.unpublishAll order).2 ++ [.participantDisconnected s.info.ref])
      (Shown s.info.ref track .present gone lost false none) := by
  have hunpublished := announces_unpublishTracks hkeyed
    (fun sid hm => htrs sid (AList.lookup_isSome.mpr ((order.perm _).mem_iff.mp hm))) h
  have hview : (s.unpublishAll order).1.view track = none :=
    congrArg (Option.map _) (s.lookup_unpublishAll order track)
  rw [← unpublishAll, hview] at hunpublished
  exact hunpublished.append fun _ hmid => hmid.disconnect hup

lemma passes_setTrack (hl : s.publications.lookup sid = some pub) (media : Bool)
    (h : Shown s.info.ref track .present gone lost true (s.view track) seen) :
    Passes (observe s.info.ref track) seen (pub.setTrack s.info.ref media).2
      (Shown s.info.ref track .present gone lost true
        (if track = sid then some media else s.view track)) := by
  have hsid : pub.info.sid = sid := hkeyed sid pub hl
  unfold RemoteTrackPublication.setTrack
  rw [hsid]
  by_cases heq : track = sid
  · subst heq
    rw [if_pos rfl]
    rw [view, hl] at h
    refine (h.unsubscribe_if rfl).append fun _ hmid => ?_
    cases media with
    | true => exact hmid.subscribe
    | false => exact .nil hmid
  · rw [if_neg heq]
    refine passes_of_aboutTrack h heq (forall_mem_append.mpr ⟨?_, ?_⟩)
    all_goals
      split
      · exact forall_mem_singleton.mpr rfl
      · nofun

lemma announces_addSubscribedMediaTrack (sid : String) :
    s.Announces track .present gone lost (s.addSubscribedMediaTrack sid) := by
  intro seen h
  cases hl : s.publications.lookup sid with
  | none =>
    simp only [addSubscribedMediaTrack, hl]
    exact .of_ignored (forall_mem_singleton.mpr rfl) h
  | some =>
    have hview : (s.addSubscribedMediaTrack sid).1.view track =
        if track = sid then some true else s.view track := by
      simp only [view, addSubscribedMediaTrack, hl, AList.lookup_insert_ite]
      split <;> rfl
    rw [hview]
    simp only [addSubscribedMediaTrack, hl]
    exact passes_setTrack hkeyed hl true h

lemma announces_setSubscribed (sid : String) (subd : Bool) :
    s.Announces track .present gone lost (s.setSubscribed sid subd) := by
  intro seen h
  cases hl : s.publications.lookup sid with
  | none =>
    simp only [setSubscribed, hl]
    exact .nil h
  | some pub =>
    have hview : (s.setSubscribed sid subd).1.view track =
        if track = sid then some (subd && pub.track) else s.view track := by
      simp only [view, setSubscribed, hl, AList.lookup_insert_ite]
      split
      · cases subd <;> rfl
      · rfl
    rw [hview]
    simp only [setSubscribed, hl]
    cases subd with
    | false => exact passes_setTrack hkeyed hl false h
    | true =>
      refine .nil ?_
      split
      · next heq =>
        subst heq
        rw [view, hl] at h
        exact h
      · exact h

end

end RemoteParticipant

end LiveKit.Room
