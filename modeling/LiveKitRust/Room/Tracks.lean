import LiveKitRust.Room.Participant

/-!
# The publications of a participant

What the functions of a remote participant do to its publications, by the SID of a track. After an
update exactly the tracks it lists are published (`RemoteParticipant.lookup_updateInfo`): a
publication that was there keeps what the client knows of it, and a new one starts out as the
participant's default says.
-/

open Machine List

namespace LiveKit.Room

namespace ParticipantUpdate

/-- What the update says of a track: where it lists it twice, what it says last. -/
def track? (self : ParticipantUpdate) (sid : String) : Option TrackInfo :=
  self.tracks.reverse.find? fun track => track.sid = sid

variable {s : ParticipantUpdate} {sid : String}

lemma track?_isSome : (s.track? sid).isSome ↔ sid ∈ s.tracks.map TrackInfo.sid := by
  simp [track?]

lemma sid_of_track? {tr} (h : s.track? sid = some tr) : tr.sid = sid := by
  simpa using find?_some h

end ParticipantUpdate

def renewed (autoSubscribe : Bool) (publication : Option RemoteTrackPublication)
    (track : TrackInfo) : RemoteTrackPublication :=
  match publication with
  | some publication => { publication with info := track }
  | none => .new track autoSubscribe

variable (auto : Bool)

variable (pub : Option RemoteTrackPublication)

lemma renewed_renewed (tr track') :
    renewed auto (some (renewed auto pub tr)) track' = renewed auto pub track' := by
  cases pub <;> rfl

@[simp] lemma renewed_info (tr) : (renewed auto pub tr).info = tr := by
  cases pub <;> rfl

def RoomEvent.about : RoomEvent → Option ParticipantRef
  | .participantConnected participant
  | .participantActive participant
  | .participantDisconnected participant
  | .trackPublished participant _
  | .trackUnpublished participant _
  | .trackSubscribed participant _
  | .trackUnsubscribed participant _
  | .trackSubscriptionFailed participant _
  | .trackMuted participant _
  | .trackUnmuted participant _
  | .participantNameChanged participant _ _
  | .participantMetadataChanged participant _ _
  | .participantAttributesChanged participant _
  | .participantPermissionChanged participant _ => some participant
  | _ => none

namespace RemoteParticipant

/-- Only the publications differ. -/
structure Keeps (before after : RemoteParticipant) : Prop where
  info : after.info = before.info
  autoSubscribe : after.autoSubscribe = before.autoSubscribe

variable (s : RemoteParticipant)

lemma keeps_state {ι : Type} {step : RemoteParticipant → ι → RemoteParticipant × List RoomEvent}
    (h : ∀ p i, Keeps p (step p i).1) (items : List ι) : Keeps s (state step s items) :=
  state_invariant (P := Keeps s) ⟨rfl, rfl⟩ items fun p i _ hs =>
    ⟨(h p i).info.trans hs.info, (h p i).autoSubscribe.trans hs.autoSubscribe⟩

/-! ### Tracks that are taken away -/

variable (sid tr : String) (sids : List String) (tracks : List TrackInfo) (u : ParticipantUpdate)

lemma keeps_unpublishTrack : s.Keeps (s.unpublishTrack sid).1 := by
  unfold unpublishTrack
  split <;> exact ⟨rfl, rfl⟩

lemma lookup_unpublishTrack : (s.unpublishTrack sid).1.publications.lookup tr =
      if tr = sid then none else s.publications.lookup tr := by
  unfold unpublishTrack
  split
  · exact AList.lookup_erase_ite ..
  · next hn =>
    split
    · next heq => rw [heq, hn]
    · rfl

lemma lookup_state_unpublishTrack (tr : String) :
    (state unpublishTrack s sids).publications.lookup tr =
      if tr ∈ sids then none else s.publications.lookup tr := by
  induction sids generalizing s with
  | nil => rfl
  | cons sid _ ih =>
    rw [state_cons, ih, lookup_unpublishTrack]
    by_cases heq : tr = sid <;> simp [heq]

variable (order : HashOrder String)

lemma lookup_unpublishAll (tr : String) :
    (s.unpublishAll order).1.publications.lookup tr = none := by
  have hall := s.lookup_state_unpublishTrack (order.iter s.publications.keys) tr
  refine hall.trans ?_
  split
  · rfl
  · next hnot =>
    refine AList.lookup_eq_none.mpr fun hm => hnot ?_
    exact (order.perm _).mem_iff.mpr hm

lemma keeps_unpublishAll : s.Keeps (s.unpublishAll order).1 :=
  s.keeps_state keeps_unpublishTrack _

/-! ### Tracks that are listed -/

lemma keeps_updateTrack (tr) : s.Keeps (s.updateTrack tr).1 := by
  unfold updateTrack
  split <;> exact ⟨rfl, rfl⟩

lemma lookup_updateTrack (listed tr) :
    (s.updateTrack listed).1.publications.lookup tr = if tr = listed.sid then
        some (renewed s.autoSubscribe (s.publications.lookup listed.sid) listed)
      else s.publications.lookup tr := by
  unfold updateTrack
  split
  all_goals
    next hl =>
      rw [hl]
      exact AList.lookup_insert_ite ..

lemma lookup_state_updateTrack (tr : String) : (state updateTrack s tracks).publications.lookup tr =
      match tracks.reverse.find? fun listed => listed.sid = tr with
      | some listed => some (renewed s.autoSubscribe (s.publications.lookup tr) listed)
      | none => s.publications.lookup tr := by
  induction tracks using reverseRecOn with
  | nil => rfl
  | append_singleton _ last ih =>
    rw [state_concat, lookup_updateTrack, reverse_concat, find?_cons,
      (s.keeps_state keeps_updateTrack _).autoSubscribe]
    by_cases heq : last.sid = tr
    · -- what is said last counts, whether or not it was listed before
      subst heq
      rw [if_pos rfl, ih]
      simp only [decide_true]
      split
      · rw [renewed_renewed]
      · rfl
    · rw [if_neg (Ne.symm heq), ih]
      simp only [heq, decide_false]

/-! ### Media, and the user's wishes -/

lemma keeps_addSubscribedMediaTrack : s.Keeps (s.addSubscribedMediaTrack sid).1 := by
  unfold addSubscribedMediaTrack
  split <;> exact ⟨rfl, rfl⟩

variable (subd : Bool)

lemma keeps_setSubscribed : s.Keeps (s.setSubscribed sid subd).1 := by
  unfold setSubscribed
  split <;> exact ⟨rfl, rfl⟩

lemma lookup_insert_info {pubs : Map String RemoteTrackPublication}
    {pub pub' : RemoteTrackPublication} (hl : pubs.lookup sid = some pub)
    (hinfo : pub'.info = pub.info) : ((pubs.insert sid pub').lookup tr).map
      RemoteTrackPublication.info = (pubs.lookup tr).map RemoteTrackPublication.info := by
  rw [AList.lookup_insert_ite]
  split
  · next heq => rw [heq, hl, Option.map_some, hinfo, Option.map_some]
  · rfl

lemma lookup_addSubscribedMediaTrack_info :
    ((s.addSubscribedMediaTrack sid).1.publications.lookup tr).map RemoteTrackPublication.info =
      (s.publications.lookup tr).map RemoteTrackPublication.info := by
  unfold addSubscribedMediaTrack
  split
  · next hl => exact lookup_insert_info _ _ hl rfl
  · rfl

lemma lookup_setSubscribed_info (tr : String) :
    ((s.setSubscribed sid subd).1.publications.lookup tr).map RemoteTrackPublication.info =
      (s.publications.lookup tr).map RemoteTrackPublication.info := by
  unfold setSubscribed
  split
  · next hl => exact lookup_insert_info _ _ hl (by cases subd <;> rfl)
  · rfl

/-! ### Updates -/

lemma keeps_updateInfo : Keeps { s with info := u.info } (s.updateInfo order u).1 where
  info := (keeps_state _ keeps_unpublishTrack _).info.trans (keeps_state _ keeps_updateTrack _).info
  autoSubscribe := (keeps_state _ keeps_unpublishTrack _).autoSubscribe.trans
    (keeps_state _ keeps_updateTrack _).autoSubscribe

/-- **The publications after an update** are those of the tracks that it lists. -/
theorem lookup_updateInfo (tr : String) :
    (s.updateInfo order u).1.publications.lookup tr = (u.track? tr).map
        (renewed s.autoSubscribe (s.publications.lookup tr)) := by
  let updated := state updateTrack { s with info := u.info } u.tracks
  have hupdated : updated.publications.lookup tr = match u.track? tr with
      | some listed => some (renewed s.autoSubscribe (s.publications.lookup tr) listed)
      | none => s.publications.lookup tr :=
    lookup_state_updateTrack { s with info := u.info } u.tracks tr
  have hremoved : (s.updateInfo order u).1.publications.lookup tr =
      if tr ∈ updated.invalidTracks order u.tracks then none
      else updated.publications.lookup tr :=
    lookup_state_unpublishTrack ..
  rw [hremoved]
  cases htr : u.track? tr with
  | some =>
    -- a track that is listed is not invalid
    have hlisted : tr ∈ u.tracks.map TrackInfo.sid :=
      ParticipantUpdate.track?_isSome.mp (by rw [htr]; rfl)
    have hvalid : tr ∉ updated.invalidTracks order u.tracks := fun hm =>
      of_decide_eq_true (mem_filter.mp hm).2 hlisted
    rw [if_neg hvalid, hupdated, htr]
    rfl
  | none =>
    have hunlisted : tr ∉ u.tracks.map TrackInfo.sid := fun hm => by
      rw [← ParticipantUpdate.track?_isSome, htr] at hm
      exact Bool.false_ne_true hm
    split
    · rfl
    · next hvalid =>
      -- and one that is not listed has no publication, or is invalid
      refine AList.lookup_eq_none.mpr fun hm => hvalid ?_
      exact mem_filter.mpr ⟨(order.perm _).mem_iff.mpr hm, decide_eq_true hunlisted⟩

end RemoteParticipant

/-! ### What the events are about -/

/-- The event is told of the participant, and if it says that a track is published, then of one
of these. -/
def RoomEvent.Tells (participant : ParticipantRef) (tracks : List String) (event : RoomEvent) :
    Prop :=
  event.about = some participant ∧ ∀ ref track, event = .trackPublished ref track → track ∈ tracks

lemma RoomEvent.Tells.mono {p : ParticipantRef} {tracks tracks' : List String}
    {ev : RoomEvent} (h : ev.Tells p tracks) (hsub : tracks ⊆ tracks') : ev.Tells p tracks' :=
  ⟨h.1, fun ref tr heq => hsub (h.2 ref tr heq)⟩

lemma ParticipantInfo.tells_changes (old new : ParticipantInfo) :
    ∀ ev ∈ old.changes new, ev.Tells new.ref [] := by
  simp only [ParticipantInfo.changes, forall_mem_append]
  refine ⟨⟨⟨?_, ?_⟩, ?_⟩, ?_⟩
  all_goals
    split
    · nofun
    · exact forall_mem_singleton.mpr ⟨rfl, nofun⟩

namespace RemoteTrackPublication

variable (s : RemoteTrackPublication) (p : ParticipantRef)

lemma tells_setTrack (tr : Bool) : ∀ ev ∈ (s.setTrack p tr).2, ev.Tells p [] := by
  refine forall_mem_append.mpr ⟨?_, ?_⟩
  all_goals
    split
    · exact forall_mem_singleton.mpr ⟨rfl, nofun⟩
    · nofun

lemma tells_updateInfo (info : TrackInfo) : ∀ ev ∈ (s.updateInfo p info).2, ev.Tells p [] := by
  simp only [updateInfo]
  split_ifs
  · nofun
  all_goals exact forall_mem_singleton.mpr ⟨rfl, nofun⟩

end RemoteTrackPublication

namespace RemoteParticipant

variable (s : RemoteParticipant)

variable (sid : String)

lemma tells_unpublishTrack : ∀ ev ∈ (s.unpublishTrack sid).2, ev.Tells s.info.ref [] := by
  unfold unpublishTrack
  split
  · refine forall_mem_append.mpr ⟨fun ev hm => ?_, forall_mem_singleton.mpr ⟨rfl, nofun⟩⟩
    exact RemoteTrackPublication.tells_setTrack _ _ _ ev (mem_ite_nil_right.mp hm).2
  · nofun

lemma tells_updateTrack (tr) : ∀ ev ∈ (s.updateTrack tr).2, ev.Tells s.info.ref [tr.sid] := by
  unfold updateTrack
  split
  · exact fun ev hm => (RemoteTrackPublication.tells_updateInfo _ _ _ ev hm).mono (nil_subset _)
  · refine forall_mem_singleton.mpr ⟨rfl, ?_⟩
    rintro _ _ ⟨⟩
    exact mem_singleton_self _

lemma tells_outputs {ι : Type} {step : RemoteParticipant → ι → RemoteParticipant × List RoomEvent}
    {tracks : ι → List String} (hkeeps : ∀ p item, Keeps p (step p item).1)
    (htells : ∀ p item, ∀ ev ∈ (step p item).2,
      ev.Tells p.info.ref (tracks item)) (items : List ι) :
    ∀ ev ∈ outputs step s items, ev.Tells s.info.ref (items.flatMap tracks) := by
  intro ev hm
  obtain ⟨_, item, _, rfl, hemit⟩ := mem_outputs.mp hm
  have htold := htells _ item ev hemit
  rw [(s.keeps_state hkeeps _).info] at htold
  exact htold.mono fun _ htr => mem_flatMap.mpr ⟨item, by simp, htr⟩

lemma tells_unpublishTracks (sids) :
    ∀ ev ∈ outputs unpublishTrack s sids, ev.Tells s.info.ref [] := by
  intro ev hm
  refine (s.tells_outputs keeps_unpublishTrack tells_unpublishTrack _ ev hm).mono ?_
  simp

lemma tells_updateInfo (order : HashOrder String) (u : ParticipantUpdate) :
    ∀ ev ∈ (s.updateInfo order u).2, ev.Tells u.info.ref (u.tracks.map TrackInfo.sid) := by
  let renamed : RemoteParticipant := { s with info := u.info }
  intro ev hm
  rcases mem_append.mp hm with hm | hm
  · rcases mem_append.mp hm with hm | hm
    · exact (s.info.tells_changes u.info ev hm).mono (nil_subset _)
    · rw [map_eq_flatMap]
      exact renamed.tells_outputs keeps_updateTrack tells_updateTrack _ ev hm
  · have htells := tells_unpublishTracks (state updateTrack renamed u.tracks) _ ev hm
    rw [(renamed.keeps_state keeps_updateTrack _).info] at htells
    exact htells.mono (nil_subset _)

lemma tells_addSubscribedMediaTrack :
    ∀ ev ∈ (s.addSubscribedMediaTrack sid).2, ev.Tells s.info.ref [] := by
  unfold addSubscribedMediaTrack
  split
  · exact RemoteTrackPublication.tells_setTrack _ _ _
  · exact forall_mem_singleton.mpr ⟨rfl, nofun⟩

lemma tells_setSubscribed (subd : Bool) :
    ∀ ev ∈ (s.setSubscribed sid subd).2, ev.Tells s.info.ref [] := by
  unfold setSubscribed
  split
  · cases subd with
    | false => exact RemoteTrackPublication.tells_setTrack _ _ _
    | true => nofun
  · nofun

end RemoteParticipant

end LiveKit.Room
