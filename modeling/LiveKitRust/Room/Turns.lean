import LiveKitRust.Room.Roster

/-!
# Steps of the room are made of turns

If the server names things well, and never says late that someone has disconnected, an update is one
or two turns: whoever leaves is updated before, and whoever comes back under a new SID leaves and
arrives. A message is made of updates (`handleParticipantUpdate_star`), and a step of the room is
made of such turns, together with what they mean for the roster (`following_star`).
-/

open Machine List

namespace LiveKit.Room

open RoomSession

/-! ### Updates are made of turns -/

namespace RoomSession

variable {s : RoomSession} {info : ParticipantInfo} {part : RemoteParticipant}

variable (ord : Orders)

lemma disconnectOld_of_none (h : s.remoteParticipants.lookup info.identity = none) :
    s.disconnectOld ord info = (s, []) := by
  unfold disconnectOld getParticipantByIdentity
  rw [h]

lemma disconnectOld_of_sid (h : s.remoteParticipants.lookup info.identity = some part)
    (hsid : part.info.sid = info.sid) : s.disconnectOld ord info = (s, []) := by
  unfold disconnectOld getParticipantByIdentity
  rw [h]
  exact if_neg (not_not.mpr hsid)

lemma disconnectOld_of_ne (h : s.remoteParticipants.lookup info.identity = some part)
    (hsid : part.info.sid ≠ info.sid) : s.disconnectOld ord info =
      s.handleParticipantDisconnect ord info.identity part := by
  unfold disconnectOld getParticipantByIdentity
  rw [h]
  exact if_pos hsid

end RoomSession

variable {server : Server} {room : RoomSession} {ros : Roster}

section Updates

variable {upd : ParticipantUpdate} {part : RemoteParticipant} (ord : Orders)

section

variable (h : Faithful server room ros)
include h

lemma Faithful.updateRemote_of_none (hnamed : server.identityOf upd.info.sid = upd.info.identity)
    (hl : room.remoteParticipants.lookup upd.info.identity = none) :
    room.updateRemote ord upd = room.updateUnknown ord upd := by
  have hold := disconnectOld_of_none ord hl
  have hfound : (room.disconnectOld ord upd.info).1.getParticipantBySid ord
      upd.info.sid = none := by
    rw [hold]
    exact h.getParticipantBySid_eq_none hnamed hl
  rw [RoomSession.updateRemote_of_none hfound, hold]
  rfl

lemma star_of_lookup_eq_none (hnames : server.Names ros upd)
    (hl : room.remoteParticipants.lookup upd.info.identity = none) :
    Star (Turn server) (room, ros) ((room.updateRemote ord upd).2.map .event)
      ((room.updateRemote ord upd).1, ros.updateRemote upd) := by
  rw [h.updateRemote_of_none ord hnames.1 hl]
  unfold Roster.updateRemote
  rw [h.lookup_eq_none_iff.mp hl]
  by_cases hst : upd.info.state = .disconnected
  · have hignored : room.updateUnknown ord upd = (room, []) := if_pos hst
    rw [hignored]
    simp only [hst, if_true]
    exact .single (.forget upd.info.sid)
  · simp only [hst, if_false]
    exact .single (.arrive ord hl hst hnames)

section

variable (hl : room.remoteParticipants.lookup upd.info.identity = some part)
include hl

lemma Faithful.updateRemote_of_sid (hsid : part.info.sid = upd.info.sid) :
    room.updateRemote ord upd =
      room.updateKnown ord upd upd.info.identity part := by
  have hold := disconnectOld_of_sid ord hl hsid
  have hfound : (room.disconnectOld ord upd.info).1.getParticipantBySid ord
      upd.info.sid = some (upd.info.identity, part) := by
    rw [hold, ← hsid]
    exact h.getParticipantBySid_eq hl
  rw [updateRemote_of_some hfound, hold]
  rfl

lemma star_of_sid (hnames : server.Names ros upd) (hsid : part.info.sid = upd.info.sid) :
    Star (Turn server) (room, ros) ((room.updateRemote ord upd).2.map .event)
      ((room.updateRemote ord upd).1, ros.updateRemote upd) := by
  obtain ⟨old, hcur, hmt⟩ := h.current_of_lookup hl
  have hsm : old.info.sid = upd.info.sid := hmt.1 ▸ hsid
  have hrefresh : Turn server (room, ros) _ _ := .refresh ord hl hsid hnames
  rw [h.updateRemote_of_sid ord hl hsid]
  unfold Roster.updateRemote updateKnown
  rw [hcur]
  simp only [hsm, if_true]
  split
  · -- updated before it leaves
    rw [map_append]
    refine (Star.single hrefresh).trans (.single (.depart ord ?_ ?_))
    · rw [lookup_setParticipant, if_pos rfl]
    · exact Function.update_self ..
  · rw [map_append]
    refine (Star.single hrefresh).trans (.single (.tell rfl rfl (quiet_map ?_)))
    split
    · exact forall_mem_singleton.mpr rfl
    · nofun

lemma star_of_ne (hnames : server.Names ros upd) (hst : upd.info.state ≠ .disconnected)
    (hsid : part.info.sid ≠ upd.info.sid) :
    Star (Turn server) (room, ros) ((room.updateRemote ord upd).2.map .event)
      ((room.updateRemote ord upd).1, ros.updateRemote upd) := by
  obtain ⟨old, hcur, hmt⟩ := h.current_of_lookup hl
  have hot : old.info.sid ≠ upd.info.sid := hmt.1 ▸ hsid
  let departed := (room.handleParticipantDisconnect ord upd.info.identity part).1
  have hdepart : Turn server (room, ros)
      ((room.handleParticipantDisconnect ord upd.info.identity part).2.map .event)
      (departed, ros.leave old) := .depart ord hl hcur
  have hfaith : Faithful server departed (ros.leave old) := hdepart.faithful h
  have hn : departed.remoteParticipants.lookup upd.info.identity = none := by
    rw [lookup_handleParticipantDisconnect_of_identity (h.identity_of_lookup hl).1, if_pos rfl]
  -- the old SID has gone now, and with it tracks that are not those of the new one
  have hnames' : server.Names (ros.leave old) upd := by
    refine ⟨hnames.1, fun hst => ?_, fun hth tr hm => ?_⟩
    · exact not_mem_cons_of_ne_of_not_mem (Ne.symm hot) (hnames.2.1 hst)
    · obtain ⟨howner, hfresh⟩ := hnames.2.2 (.inl hst) tr hm
      refine ⟨howner, fun hgone => ?_⟩
      rcases mem_append.mp hgone with hgone | hgone
      · exact hot ((h.owned _ _ hcur tr hgone).symm.trans howner)
      · exact hfresh hgone
  have hfound : departed.getParticipantBySid ord upd.info.sid = none :=
    hfaith.getParticipantBySid_eq_none hnames.1 hn
  have hold := disconnectOld_of_ne ord hl hsid
  have hroom : room.updateRemote ord upd = ((departed.updateUnknown ord upd).1,
        (room.handleParticipantDisconnect ord upd.info.identity part).2 ++
          (departed.updateUnknown ord upd).2) := by
    rw [updateRemote_of_none (by rw [hold]; exact hfound), hold]
  have hroster : ros.updateRemote upd = (ros.leave old).set upd := by
    unfold Roster.updateRemote
    rw [hcur]
    simp only [hot, hst, if_false]
  rw [hroom, hroster, map_append]
  exact (Star.single hdepart).trans (.single (.arrive ord hn hst hnames'))

end

lemma updateParticipant_star (hserves : server.Serves ros upd) (hlate : NotLate ros upd) :
    Star (Turn server) (room, ros) ((updateParticipant ord room upd).2.map .event)
      ((updateParticipant ord room upd).1, ros.update upd) := by
  unfold updateParticipant Roster.update
  by_cases hlocal : ros.isLocal upd.info
  · rw [if_pos hlocal, if_pos ((h.isLocal_iff _).mp hlocal)]
    exact .single (.renew upd.info)
  · rw [if_neg hlocal, if_neg fun hroom => hlocal ((h.isLocal_iff _).mpr hroom)]
    have hnames := hserves.resolve_left hlocal
    cases hl : room.remoteParticipants.lookup upd.info.identity with
    | none => exact star_of_lookup_eq_none ord h hnames hl
    | some part =>
      by_cases hsid : part.info.sid = upd.info.sid
      · exact star_of_sid ord h hl hnames hsid
      · refine star_of_ne ord h hl hnames (fun hst => hsid ?_) hsid
        obtain ⟨old, hcur, hmt⟩ := h.current_of_lookup hl
        rw [hmt.1]
        exact hlate.resolve_left hlocal hst old hcur

end

lemma faithful_of_star {pre after outputs} (hstar : Star (Turn server) pre outputs after)
    (h : Faithful server pre.1 pre.2) : Faithful server after.1 after.2 :=
  hstar.invariant (P := fun pair => Faithful server pair.1 pair.2) h
    fun _ _ _ h hturn => hturn.faithful h

lemma handleParticipantUpdate_star {us} (h : Faithful server room ros)
    (hupdates : Along Roster.receive
      (fun ros upd => server.Serves ros upd ∧ NotLate ros upd) ros us) :
    Star (Turn server) (room, ros) ((room.handleParticipantUpdate ord us).2.map .event)
      ((room.handleParticipantUpdate ord us).1, state Roster.receive ros us) := by
  have hrun : ∀ room ros, Faithful server room ros → Along Roster.receive
        (fun ros upd => server.Serves ros upd ∧ NotLate ros upd) ros us →
      Star (Turn server) (room, ros) ((run (updateParticipant ord) room us).2.map .event)
        ((run (updateParticipant ord) room us).1, state Roster.receive ros us) := by
    clear h hupdates
    induction us with
    | nil => exact fun room ros _ _ => .refl (room, ros)
    | cons _ _ ih =>
      intro _ _ h hupdates
      have hf := updateParticipant_star ord h hupdates.1.1 hupdates.1.2
      rw [run, map_append]
      exact hf.trans (ih _ _ (faithful_of_star hf h) hupdates.2)
  unfold handleParticipantUpdate
  rw [map_append]
  refine (hrun room ros h hupdates).trans (.single (.tell rfl rfl (quiet_map ?_)))
  split
  · simp
  · exact forall_mem_singleton.mpr rfl

end Updates

/-! ### Steps are made of turns -/

lemma Roster.follow_of_not_isEngine {i} (h : i.isEngine = false) (ros : Roster) :
    ros.follow i = ros := by
  cases i <;> first | rfl | cases h

section Steps

lemma star_updateConnectionState (state) {evs : List RoomEvent}
    (hquiet : ∀ ev ∈ evs, ev.isRoster = false) : Star (Turn server) (room, ros) (evs.map .event)
      ((room.updateConnectionState state).1, ros) := by
  rw [updateConnectionState_fst]
  exact .single (.tell rfl rfl (quiet_map hquiet))

lemma quiet_reconnected : ∀ ev ∈ (room.updateConnectionState .connected).2 ++ [.reconnected],
    ev.isRoster = false :=
  forall_mem_append.mpr ⟨quiet_updateConnectionState _, by simp [RoomEvent.isRoster]⟩

lemma star_tell {pre outputs} (hstar : Star (Turn server) pre outputs (room, ros))
    (room' : RoomSession) (evs : List RoomEvent)
    (hparticipants : room'.remoteParticipants = room.remoteParticipants)
    (hlocal : room'.localParticipant = room.localParticipant)
    (hquiet : ∀ ev ∈ evs, ev.isRoster = false) :
    Star (Turn server) pre (outputs ++ evs.map .event) (room', ros) :=
  hstar.trans (.single (.tell hparticipants hlocal (quiet_map hquiet)))

variable {i : Input}

lemma onEngineEvent_star (h : Faithful server room ros)
    (hinput : ros.Each (fun ros upd => server.Serves ros upd ∧ NotLate ros upd) i) :
    Star (Turn server) (room, ros) (room.onEngineEvent i).2
      ((room.onEngineEvent i).1, ros.follow i) := by
  cases i with
  | participantUpdate ord => exact handleParticipantUpdate_star ord h hinput
  | roomMoved ord part =>
    cases part with
    | none =>
      have hstar := star_tell (handleParticipantUpdate_star ord h hinput) _ [.moved] rfl rfl
        (by simp [RoomEvent.isRoster])
      rw [← map_append] at hstar
      exact hstar
    | some info =>
      have hrenew : Star (Turn server) (room, ros) _ _ := .single (.renew info)
      have htold := star_tell hrenew _ [.participantsUpdated [info.ref]] rfl rfl
        (by simp [RoomEvent.isRoster])
      have hupdated := htold.trans
        (handleParticipantUpdate_star ord (faithful_of_star htold h) hinput)
      have hstar := star_tell hupdated _ [.moved] rfl rfl (by simp [RoomEvent.isRoster])
      rw [← map_append, ← map_append, ← map_append] at hstar
      exact hstar
  | signalRestarted ord part others =>
    cases part with
    | none =>
      have hstar := star_tell (handleParticipantUpdate_star ord h hinput)
        (room.onEngineEvent (.signalRestarted ord none others)).1 [] rfl rfl (by simp)
      rw [map_nil, append_nil] at hstar
      exact hstar
    | some info =>
      have hrenew : Star (Turn server) (room, ros) _ _ := .single (.renew info)
      have hupdated := hrenew.trans
        (handleParticipantUpdate_star ord (faithful_of_star hrenew h) hinput)
      have hstar := star_tell hupdated
        (room.onEngineEvent (.signalRestarted ord (some info) others)).1 [] rfl rfl (by simp)
      rw [map_nil, append_nil, ← map_append] at hstar
      exact hstar
  | restarting ord =>
    have hremoved : Star (Turn server) (room, ros)
        (.restarting :: (room.disconnectAll ord).2.map .event)
        ((room.disconnectAll ord).1, { ros with current := fun _ => none }) :=
      .single (.restart ord)
    have hsplit : (room.onEngineEvent (.restarting ord)).2 =
        (.restarting :: (room.disconnectAll ord).2.map .event) ++
          ((room.disconnectAll ord).1.transition .reconnecting .reconnecting).2.map .event :=
      congrArg _ (map_append ..)
    rw [hsplit]
    exact hremoved.trans
      (star_updateConnectionState .reconnecting (quiet_transition .reconnecting rfl))
  | resuming | disconnected =>
    exact star_updateConnectionState _ (quiet_transition _ rfl)
  | resumed => exact star_updateConnectionState _ quiet_reconnected
  | mediaTrack ord sid tr =>
    cases he : room.getParticipantBySid ord sid with
    | some =>
      simp only [onEngineEvent, he]
      exact .single (.media tr (getParticipantBySid_eq_some he).1)
    | none =>
      simp only [onEngineEvent, he]
      exact .refl _
  | _ => exact .single (.tell rfl rfl fun _ hm => nomatch hm)

lemma setSubscribed_star (ident tr : String) (subd : Bool) :
    Star (Turn server) (room, ros) (room.setSubscribed ident tr subd).2
      ((room.setSubscribed ident tr subd).1, ros) := by
  cases hl : room.remoteParticipants.lookup ident with
  | none =>
    simp only [setSubscribed, hl]
    exact .refl _
  | some =>
    simp only [setSubscribed, hl]
    refine (Star.single (.wish tr subd hl)).trans (.single (.tell rfl rfl ?_))
    split
    · exact forall_mem_singleton.mpr rfl
    · nofun

/-- **A step is made of turns**, of the room and the roster together. -/
theorem following_star {pair : RoomSession × Roster} (h : Faithful server pair.1 pair.2)
    (hinput : pair.1.roomTask = true → pair.2.Each
      (fun ros upd => server.Serves ros upd ∧ NotLate ros upd) i) :
    Star (Turn server) pair (following pair i).2 (following pair i).1 := by
  obtain ⟨room, ros⟩ := pair
  have hot : i.isEngine = false → (if room.roomTask then ros.follow i else ros) = ros := by
    intro hengine
    rw [Roster.follow_of_not_isEngine hengine, ite_self]
  have hmv := room.step_move i
  unfold following
  generalize room.step i = res at hmv ⊢
  cases hmv with
  | idle _ hidle =>
    have hsm : (if room.roomTask then ros.follow i else ros) = ros := by
      rcases hidle with ht | hengine
      · exact if_neg (by simp [ht])
      · exact hot hengine
    rw [hsm]
    exact .refl _
  | engine _ ht =>
    rw [if_pos ht]
    exact onEngineEvent_star h (hinput ht)
  | syncTask =>
    rw [hot rfl]
    refine .single (.tell rfl rfl ?_)
    split
    · exact forall_mem_singleton.mpr rfl
    · nofun
  | restartTask =>
    rw [hot rfl]
    have he : Turn server (room, ros) []
        ({ room with restartTasks := room.restartTasks - 1 }, ros) :=
      .tell rfl rfl fun _ hm => nomatch hm
    exact (Star.single he).trans (star_updateConnectionState .connected quiet_reconnected)
  | setSubscribed ident tr subd =>
    rw [hot rfl]
    exact setSubscribed_star ident tr subd
  | close | closed =>
    rw [hot rfl]
    exact .single (.tell rfl rfl fun _ hm => nomatch hm)

end Steps

/-! ### The join -/

lemma Roster.update_of_lists {upd} (h : server.Lists ros upd)
    (hnamed : ∀ old, ros.current upd.info.identity = some old →
      old.info.identity = upd.info.identity) :
    (ros.update upd).localParticipant = ros.localParticipant ∧
      (ros.update upd).current = (ros.set upd).current := by
  unfold Roster.update Roster.updateRemote
  rw [if_neg h.1]
  cases hcur : ros.current upd.info.identity with
  | none =>
    simp only [h.2.1, if_false]
    exact ⟨rfl, trivial⟩
  | some old =>
    by_cases hsid : old.info.sid = upd.info.sid
    · simp only [hsid, h.2.1, if_true, if_false]
      exact ⟨rfl, trivial⟩
    · simp only [hsid, h.2.1, if_false]
      refine ⟨rfl, ?_⟩
      show Function.update (Function.update ros.current old.info.identity none) _ _ = _
      rw [hnamed old hcur, Function.update_idem]
      rfl

lemma Faithful.of_roster {roster'} (h : Faithful server room ros)
    (hlocal : roster'.localParticipant = ros.localParticipant)
    (hcur : roster'.current = ros.current) : Faithful server room roster' := by
  refine ⟨hlocal.trans h.localParticipant, ?_, ?_, ?_⟩
  all_goals rw [hcur]
  · exact h.mirrors
  · exact h.named
  · exact h.owned

lemma faithful_connect (ord : Orders) (auto : Bool) {lp others}
    (hjoin : Along Roster.receive server.Lists (.start lp) others) :
    Faithful server (connect ord auto lp others).1 (state Roster.receive (.start lp) others) := by
  have hfold : ∀ room ros, Faithful server room ros → Along Roster.receive server.Lists ros others →
      Faithful server
        (others.foldl (fun self upd => (self.joinParticipant ord upd).1) room)
        (state Roster.receive ros others) := by
    clear hjoin
    induction others with
    | nil => exact fun _ _ h _ => h
    | cons upd _ ih =>
      intro room ros h hlists
      obtain ⟨hnew, hr⟩ := hlists
      have hset : Faithful server (room.joinParticipant ord upd).1 (ros.set upd) :=
        h.set rfl (lookup_joinParticipant ord upd) (matches_updateInfo ..)
          hnew.2.2.1 fun tr hm => (hnew.2.2.2.2 (.inl hnew.2.1) tr hm).1
      obtain ⟨hlocal, hcur⟩ := Roster.update_of_lists hnew fun old hold => (h.named _ old hold).1
      exact ih _ _ (hset.of_roster hlocal hcur) hr
  have hst : Faithful server ⟨lp, ∅, auto, .disconnected, 0, [], true, true⟩ (.start lp) :=
    ⟨rfl, fun _ => .none, (fun _ _ hn => nomatch hn), fun _ _ hn => nomatch hn⟩
  have hjoined := hfold _ _ hst hjoin
  exact ⟨hjoined.localParticipant, hjoined.mirrors, hjoined.named, hjoined.owned⟩

end LiveKit.Room
