import LiveKitRust.Room.Announcements
import LiveKitRust.Room.Turns

/-!
# The room mirrors what the server says

Between the steps, what the monitor of `Announcements` has seen of a participant and a track fits
what is in the room (`Announced`). Each turn carries that over (`Turn.announced`): one that concerns
another participant tells nothing of this one, and one that concerns this one tells what it does, in
the order that the monitor asks for. So the log of every run passes (`passes_outputs`), and the room
is faithful to the roster at its end (`room_mirrors_server`).

What the theorem leaves out is the update that is said late. It removes a participant who has
rejoined and is there (`Rejoining`).
-/

open Machine Monitor List Option

namespace LiveKit.Room

open RemoteParticipant RoomSession

/-! ### What the room tells -/

def RoomSession.find (self : RoomSession) (who : ParticipantRef) : Option RemoteParticipant :=
  (self.remoteParticipants.lookup who.identity).filter fun participant =>
    participant.info.sid = who.sid

/-- What has been told fits what is in the room. -/
def Announced (who : ParticipantRef) (track : String) (pair : RoomSession × Roster) (seen : Seen) :
    Prop :=
  Shown who track .present pair.2.gone pair.2.goneTracks (pair.1.find who).isSome
    ((pair.1.find who).bind fun participant => participant.view track) seen

namespace RoomSession

variable {s room : RoomSession} {who : ParticipantRef} {part : RemoteParticipant}

lemma find_eq_some (hl : s.remoteParticipants.lookup who.identity = some part)
    (hsid : part.info.sid = who.sid) : s.find who = some part := by
  unfold find
  rw [hl]
  exact filter_some_pos (decide_eq_true hsid)

lemma find_eq_none (h : ∀ part, s.remoteParticipants.lookup who.identity = some part →
      part.info.sid ≠ who.sid) : s.find who = none := by
  unfold find
  rw [filter_eq_none_iff]
  exact fun part hl hsid => h part hl (of_decide_eq_true hsid)

lemma lookup_of_find (h : s.find who = some part) :
    s.remoteParticipants.lookup who.identity = some part ∧ part.info.sid = who.sid := by
  obtain ⟨hl, hsid⟩ := filter_eq_some_iff.mp h
  exact ⟨hl, of_decide_eq_true hsid⟩

lemma find_eq_of_ne (ident : String) (hothers : ∀ other, other ≠ ident →
      room.remoteParticipants.lookup other = s.remoteParticipants.lookup other)
    (hbef : ∀ part, s.remoteParticipants.lookup ident = some part →
      part.info.sid = who.sid → who.identity ≠ ident)
    (ha : ∀ part, room.remoteParticipants.lookup ident = some part →
      part.info.sid = who.sid → who.identity ≠ ident) : room.find who = s.find who := by
  by_cases hid : who.identity = ident
  · rw [find_eq_none fun part hl hsid =>
        ha part (hid ▸ hl) hsid hid, find_eq_none fun part hl hsid =>
        hbef part (hid ▸ hl) hsid hid]
  · unfold find
    rw [hothers _ hid]

end RoomSession

section Turns

variable {who : ParticipantRef} {tr : String} {seen : Seen} {server : Server}
  {room room' : RoomSession} {roster roster' : Roster} {part : RemoteParticipant}

lemma Announced.of_find_eq (h : Announced who tr (room, roster) seen)
    (hfind : room'.find who = room.find who) (hgone : roster.gone ⊆ roster'.gone)
    (htrs : roster.goneTracks ⊆ roster'.goneTracks) : Announced who tr (room', roster') seen := by
  unfold Announced at h ⊢
  rw [hfind]
  exact h.mono hgone htrs

lemma announced_iff_of_some (hfind : room.find who = some part) :
    Announced who tr (room, roster) seen ↔
      Shown who tr .present roster.gone roster.goneTracks true (part.view tr) seen := by
  unfold Announced
  rw [hfind]
  rfl

lemma announced_iff_of_none (hfind : room.find who = none) : Announced who tr (room, roster) seen ↔
      Shown who tr .present roster.gone roster.goneTracks false none seen := by
  unfold Announced
  rw [hfind]
  rfl

variable {evs : List RoomEvent} {Q : Seen → Prop} {ident : String}
  {entries : List (String × RemoteParticipant)} {tracks : List String}

lemma passes_of_tells {ref} (htells : ∀ ev ∈ evs, ev.Tells ref tracks) (hne : ref ≠ who)
    (h : Q seen) : Passes (observeOutput who tr) seen (evs.map .event) Q := by
  refine .of_ignored (fun output hm => ?_) h
  obtain ⟨ev, hev, rfl⟩ := mem_map.mp hm
  exact observe_of_about (htells ev hev).1 hne

lemma ParticipantInfo.ref_eq {info : ParticipantInfo} (hsid : info.sid = who.sid)
    (hid : who.identity = info.identity) : info.ref = who := by
  obtain ⟨sid, ident⟩ := who
  obtain rfl : info.sid = sid := hsid
  obtain rfl : ident = info.identity := hid
  rfl

lemma Roster.goneTracks_subset_set (roster : Roster) (u) :
    roster.goneTracks ⊆ (roster.set u).goneTracks := subset_append_right ..

variable (orders : Orders)

/-! A restart -/

def departure (entry : String × RemoteParticipant) : List RoomEvent :=
  (entry.2.unpublishAll (orders.tracks entry.1)).2 ++ [.participantDisconnected entry.2.info.ref]

lemma disconnectAll_events : (room.disconnectAll orders).2 =
      (orders.participants.entries room.remoteParticipants).flatMap (departure orders) := by
  have hrun : ∀ (entries : List (String × RemoteParticipant)) (room : RoomSession),
      outputs (fun self entry => self.handleParticipantDisconnect orders entry.1 entry.2) room
        entries = entries.flatMap (departure orders) := by
    intro entries
    induction entries with
    | nil => exact fun _ => rfl
    | cons _ _ ih =>
      intro _
      rw [outputs_cons, ih, flatMap_cons]
      rfl
  exact hrun _ room

lemma passes_departures (hothers : ∀ entry ∈ entries, entry.2.info.ref ≠ who) (h : Q seen) :
    Passes (observe who tr) seen (entries.flatMap (departure orders)) Q := by
  refine .of_ignored (fun ev hm => ?_) h
  obtain ⟨entry, he, hev⟩ := mem_flatMap.mp hm
  refine observe_of_about ?_ (hothers entry he)
  rcases mem_append.mp hev with hev | hev
  · exact (entry.2.tells_unpublishTracks _ ev hev).1
  · obtain rfl := mem_singleton.mp hev
    rfl

lemma Shown.restart {here view}
    (h : Shown who tr .present roster.gone roster.goneTracks here view seen) :
    Shown who tr .leaving roster.gone roster.goneTracks here view
      { seen with participant := seen.participant.restart, track := seen.track.restart } := by
  have hreads : ∀ {phase : Phase} {here : Bool} {gone : Prop}, phase.Reads .present here gone →
      phase.restart.Reads .leaving here gone := by
    intro _ _ _ hp
    constructor
    · intro hhere
      rw [hp.1 hhere]
      rfl
    · intro hout
      rcases hp.2 hout with rfl | ⟨rfl, hgone⟩
      · exact .inl rfl
      · exact .inr ⟨rfl, hgone⟩
  exact ⟨hreads h.participant, hreads h.track, h.subscribed⟩

lemma passes_departures_of_mem (hnodup : (entries.map Prod.fst).Nodup)
    (hid : ∀ entry ∈ entries, entry.2.info.identity = entry.1)
    (hm : (part.info.identity, part) ∈ entries) (hkeyed : part.Keyed)
    (h : Shown part.info.ref tr .leaving roster.gone roster.goneTracks true (part.view tr) seen) :
    Passes (observe part.info.ref tr) seen (entries.flatMap (departure orders))
      (Shown part.info.ref tr .present roster.gone roster.goneTracks false none) := by
  obtain ⟨earlier, later, rfl⟩ := append_of_mem hm
  -- no other entry is under the same identity
  have hothers : ∀ entry ∈ earlier ++ later, entry.2.info.ref ≠ part.info.ref := by
    intro entry he heq
    have hkey : entry.1 = part.info.identity := by
      have hth : entry ∈ earlier ++ (part.info.identity, part) :: later := by
        simp only [mem_append, mem_cons] at he ⊢
        exact he.imp_right .inr
      rw [← hid entry hth]
      exact congrArg ParticipantRef.identity heq
    rw [map_append, map_cons, nodup_middle, nodup_cons, ← map_append] at hnodup
    exact hnodup.1 (mem_map.mpr ⟨entry, he, hkey⟩)
  rw [flatMap_append, flatMap_cons]
  have hearlier : Passes (observe part.info.ref tr) seen
      (earlier.flatMap (departure orders)) (Shown part.info.ref tr .leaving roster.gone
        roster.goneTracks true (part.view tr)) :=
    passes_departures orders (fun entry he => hothers entry (mem_append_left _ he)) h
  refine hearlier.append fun _ hmid => Passes.append ?_ fun _ hend => passes_departures orders
    (fun entry he => hothers entry (mem_append_right _ he)) hend
  exact passes_departure hkeyed _ hmid (fun _ _ => .inl rfl) (.inl rfl)

/-! The turns -/

section

variable (h : Announced who tr (room, roster) seen)
include h

lemma passes_arrive {u} (hn : room.remoteParticipants.lookup u.info.identity = none)
    (hst : u.info.state ≠ .disconnected) (hnames : server.Names roster u) :
    Passes (observeOutput who tr) seen ((room.updateUnknown orders u).2.map .event)
      (Announced who tr ((room.updateUnknown orders u).1, roster.set u)) := by
  let new := new u.info room.autoSubscribe
  let arrived := (new.updateInfo (orders.tracks u.info.identity) u).1
  have harrived : (room.updateUnknown orders u).1.remoteParticipants.lookup
      u.info.identity = some arrived := by
    rw [lookup_updateUnknown hst, if_pos rfl]
  have hinfo : arrived.info = u.info := (new.keeps_updateInfo u _).info
  by_cases hwho : u.info.ref = who
  · subst hwho
    have hbef : room.find u.info.ref = none :=
      find_eq_none fun _ hl => nomatch hn.symm.trans hl
    have ha : (room.updateUnknown orders u).1.find u.info.ref = some arrived :=
      find_eq_some harrived (by rw [hinfo]; rfl)
    have hevs : (room.updateUnknown orders u).2 = [.participantConnected u.info.ref] ++
          (if u.info.state = .active then [.participantActive u.info.ref] else []) ++
            (new.updateInfo (orders.tracks u.info.identity) u).2 := by
      unfold updateUnknown
      rw [if_neg hst]
      rfl
    rw [hevs]
    rw [announced_iff_of_none hbef] at h
    refine .map (((h.connect (hnames.2.1 hst)).append
      fun _ hmid => .of_ignored ?_ hmid).append fun _ hmid => ?_)
    · split
      · exact forall_mem_singleton.mpr rfl
      · nofun
    · have hkeyed : new.Keyed := nofun
      have hupdate := passes_updateInfo hkeyed (orders.tracks u.info.identity) hmid
        (fun sid hm => (hnames.2.2 (.inl hst) sid hm).2)
        (roster.goneTracks_subset_set u) (nofun)
      exact hupdate.mono fun _ hend => (announced_iff_of_some ha).mpr hend
  · refine passes_of_tells tells_updateUnknown hwho (h.of_find_eq ?_
      (List.Subset.refl _) (roster.goneTracks_subset_set u))
    refine find_eq_of_ne u.info.identity ?_ ?_ ?_
    · intro _ hot
      rw [lookup_updateUnknown hst, if_neg hot]
    · intro _ hl
      cases hn.symm.trans hl
    · intro _ hl hsid hid
      rw [harrived] at hl
      cases hl
      exact hwho (ParticipantInfo.ref_eq (hinfo ▸ hsid) hid)

lemma passes_setParticipant {participant'} (hl : room.remoteParticipants.lookup ident = some part)
    (hid : part.info.identity = ident) (href : participant'.info.ref = part.info.ref)
    (htells : ∀ ev ∈ evs, ev.Tells part.info.ref tracks) (hgone : roster.gone ⊆ roster'.gone)
    (htrs : roster.goneTracks ⊆ roster'.goneTracks)
    (hpass : Shown part.info.ref tr .present roster.gone roster.goneTracks true
        (part.view tr) seen → Passes (observe part.info.ref tr) seen evs
        (Shown part.info.ref tr .present roster'.gone roster'.goneTracks true
          (participant'.view tr))) : Passes (observeOutput who tr) seen (evs.map .event)
      (Announced who tr (room.setParticipant ident participant', roster')) := by
  have hsid : participant'.info.sid = part.info.sid := congrArg ParticipantRef.sid href
  have hnew : (room.setParticipant ident participant').remoteParticipants.lookup ident =
      some participant' := by
    rw [lookup_setParticipant, if_pos rfl]
  subst hid
  by_cases hwho : part.info.ref = who
  · subst hwho
    have hshown := (announced_iff_of_some (find_eq_some hl rfl)).mp h
    exact .map ((hpass hshown).mono fun _ => (announced_iff_of_some (find_eq_some hnew hsid)).mpr)
  · refine passes_of_tells htells hwho (h.of_find_eq ?_ hgone htrs)
    have hot : part.info.sid = who.sid → who.identity ≠ part.info.identity :=
      fun hsid hid => hwho (ParticipantInfo.ref_eq hsid hid)
    refine find_eq_of_ne part.info.identity ?_ ?_ ?_
    · intro _ hne
      rw [lookup_setParticipant, if_neg hne]
    · intro _ hfound
      obtain rfl := mem_unique hl hfound
      exact hot
    · intro _ hfound
      obtain rfl := mem_unique hnew hfound
      rw [hsid]
      exact hot

lemma passes_depart {old} (hfaith : Faithful server room roster)
    (hl : room.remoteParticipants.lookup ident = some part)
    (hcur : roster.current ident = some old) :
    Passes (observeOutput who tr) seen
      ((room.handleParticipantDisconnect orders ident part).2.map .event) (Announced who tr
        ((room.handleParticipantDisconnect orders ident part).1, roster.leave old)) := by
  obtain ⟨_, hupdate, hmt⟩ := hfaith.current_of_lookup hl
  obtain rfl := mem_unique hcur hupdate
  obtain rfl := (hfaith.identity_of_lookup hl).1
  let departed := (room.handleParticipantDisconnect orders part.info.identity part).1
  have hremoved : ∀ ident, departed.remoteParticipants.lookup ident =
      if ident = part.info.identity then none
      else room.remoteParticipants.lookup ident :=
    lookup_handleParticipantDisconnect_of_identity rfl
  have hn : departed.remoteParticipants.lookup part.info.identity = none :=
    (hremoved _).trans (if_pos rfl)
  have hgone : roster.gone ⊆ (roster.leave old).gone := subset_cons_self ..
  have htrs : roster.goneTracks ⊆ (roster.leave old).goneTracks := subset_append_right ..
  by_cases hwho : part.info.ref = who
  · subst hwho
    have hshown := ((announced_iff_of_some (find_eq_some hl rfl)).mp h).mono hgone htrs
    have hdeparture := passes_departure hmt.keyed
      (orders.tracks part.info.identity) hshown
      (fun sid hth => .inr ⟨rfl, mem_append_left _ (hmt.mem_iff.mp hth)⟩)
      (.inr ⟨rfl, hmt.1 ▸ .head _⟩)
    refine .map (hdeparture.mono fun _ => (announced_iff_of_none ?_).mpr)
    exact find_eq_none fun _ hfound => nomatch hn.symm.trans hfound
  · refine passes_of_tells tells_handleParticipantDisconnect hwho (h.of_find_eq ?_ hgone htrs)
    refine find_eq_of_ne part.info.identity ?_ ?_ ?_
    · intro other hne
      exact (hremoved other).trans (if_neg hne)
    · intro _ hfound hsid hid
      obtain rfl := mem_unique hl hfound
      exact hwho (ParticipantInfo.ref_eq hsid hid)
    · intro _ hfound
      cases hn.symm.trans hfound

lemma passes_restart (hfaith : Faithful server room roster) :
    Passes (observeOutput who tr) seen (.restarting :: (room.disconnectAll orders).2.map .event)
      (Announced who tr
        ((room.disconnectAll orders).1, { roster with current := fun _ => none })) := by
  let restarted : Seen :=
    { seen with participant := seen.participant.restart, track := seen.track.restart }
  have hmark : Passes (observeOutput who tr) seen [.restarting] fun m => m = restarted :=
    .single rfl rfl
  refine hmark.append ?_
  rintro _ rfl
  have hempty : (room.disconnectAll orders).1.find who = none := by
    refine find_eq_none fun _ hl => ?_
    rw [lookup_disconnectAll fun ident part hl =>
      (hfaith.identity_of_lookup hl).1] at hl
    cases hl
  rw [disconnectAll_events]
  refine .map (Passes.mono ?_ fun _ => (announced_iff_of_none hempty).mpr)
  have hentries : ∀ entry ∈ orders.participants.entries room.remoteParticipants,
      room.remoteParticipants.lookup entry.1 = some entry.2 ∧ entry.2.info.identity = entry.1 := by
    rintro ⟨_, _⟩ he
    have hl := HashOrder.mem_entries.mp he
    exact ⟨hl, (hfaith.identity_of_lookup hl).1⟩
  cases hfind : room.find who with
  | none =>
    refine passes_departures orders (fun entry he href => ?_)
      ((announced_iff_of_none hfind).mp h).restart.absent
    subst href
    obtain ⟨hl, hid⟩ := hentries entry he
    rw [← hid] at hl
    cases hfind.symm.trans (find_eq_some hl rfl)
  | some =>
    obtain ⟨hl, hsid⟩ := lookup_of_find hfind
    have hid := (hfaith.identity_of_lookup hl).1
    obtain rfl := ParticipantInfo.ref_eq hsid hid.symm
    obtain ⟨_, -, hmt⟩ := hfaith.current_of_lookup hl
    exact passes_departures_of_mem orders (HashOrder.nodup_keys_entries _ _)
      (fun entry he => (hentries entry he).2) (HashOrder.mem_entries.mpr hl)
      hmt.keyed ((announced_iff_of_some hfind).mp h).restart

end

/-- **A turn tells what it does.** -/
theorem Turn.announced {pre after : RoomSession × Roster} {outputs : List Output}
    (hturn : Turn server pre outputs after) (hfaith : Faithful server pre.1 pre.2)
    (h : Announced who tr pre seen) :
    Passes (observeOutput who tr) seen outputs (Announced who tr after) := by
  cases hturn with
  | tell hparticipants _ hquiet =>
    refine .of_ignored (fun output hm => observeOutput_of_not_isRoster (hquiet output hm)) ?_
    refine h.of_find_eq ?_ (List.Subset.refl _) (List.Subset.refl _)
    unfold find
    rw [hparticipants]
  | renew info =>
    refine .of_ignored (fun output hm => observeOutput_of_not_isRoster ?_) h
    exact quiet_map (ParticipantInfo.quiet_changes _ info) output hm
  | forget =>
    exact .nil (h.of_find_eq rfl (subset_cons_self ..) (List.Subset.refl _))
  | arrive orders hn hst hnames => exact passes_arrive orders h hn hst hnames
  | @refresh _ roster orders u part hl hsid hnames =>
    obtain ⟨_, hcur, hmt⟩ := hfaith.current_of_lookup hl
    have hid := (hfaith.identity_of_lookup hl).1
    have href : u.info.ref = part.info.ref := ParticipantInfo.ref_eq hsid.symm hid
    have htells := part.tells_updateInfo (orders.tracks u.info.identity) u
    rw [href] at htells
    refine passes_setParticipant h hl hid ?_ htells (List.Subset.refl _)
      (roster.goneTracks_subset_set u) ?_
    · rw [(part.keeps_updateInfo ..).info, href]
    · intro hshown
      rw [← href] at hshown ⊢
      refine passes_updateInfo hmt.keyed _ hshown ?_ (roster.goneTracks_subset_set u) ?_
      · intro sid hm
        exact (hnames.2.2 (.inr (hfaith.has_of_lookup hl hsid)) sid hm).2
      · -- what was there and is not listed anymore has been dropped
        intro _ hth hunlisted
        refine mem_append_left _ ?_
        rw [hcur]
        exact mem_filter.mpr ⟨hmt.mem_iff.mp hth, decide_eq_true hunlisted⟩
  | depart orders hl hcur => exact passes_depart orders h hfaith hl hcur
  | @media _ _ _ part sid hl =>
    obtain ⟨_, -, hmt⟩ := hfaith.current_of_lookup hl
    refine passes_setParticipant h hl (hfaith.identity_of_lookup hl).1 ?_
      (part.tells_addSubscribedMediaTrack sid) (List.Subset.refl _) (List.Subset.refl _)
      fun hshown => announces_addSubscribedMediaTrack hmt.keyed sid hshown
    rw [(part.keeps_addSubscribedMediaTrack sid).info]
  | @wish _ _ _ part sid subd hl =>
    obtain ⟨_, -, hmt⟩ := hfaith.current_of_lookup hl
    refine passes_setParticipant h hl (hfaith.identity_of_lookup hl).1 ?_
      (part.tells_setSubscribed sid subd) (List.Subset.refl _) (List.Subset.refl _)
      fun hshown => announces_setSubscribed hmt.keyed sid subd hshown
    rw [(part.keeps_setSubscribed ..).info]
  | restart orders => exact passes_restart orders h hfaith

end Turns

/-! ### The join -/

variable (orders : Orders) {server : Server} {roster : Roster} {input : Input}

lemma noMedia_connect (auto lp others) :
    RoomSession.Everyone (RoomSession.Publishes auto fun pub => pub.track = false)
      (connect orders auto lp others).1 := by
  refine foldlRecOn (motive := fun room : RoomSession => room.autoSubscribe = auto ∧
      room.Everyone (RoomSession.Publishes auto fun pub => pub.track = false))
    others _ ⟨rfl, fun _ _ hl => absurd hl (by simp)⟩ ?_ |>.2
  rintro _ ⟨hauto, heveryone⟩ u -
  refine ⟨hauto, heveryone.joinParticipant u ?_⟩
  rw [hauto]
  exact kept_publishes (fun _ => rfl) fun _ _ h => h

section Join

variable {orders} {room : RoomSession} {who : ParticipantRef} {tr : String} {tracks : List String}

lemma mem_participantsWithTracks : (who, tracks) ∈ room.participantsWithTracks orders ↔
      ∃ ident part, room.remoteParticipants.lookup ident = some part ∧
        part.info.ref = who ∧ ((orders.tracks ident).entries part.publications).map
            (fun pub => pub.2.info.sid) = tracks := by
  unfold participantsWithTracks
  rw [List.mem_map]
  constructor
  · rintro ⟨⟨ident, part⟩, hm, heq⟩
    obtain ⟨href, htrs⟩ := Prod.mk.inj heq
    exact ⟨ident, part, HashOrder.mem_entries.mp hm, href, htrs⟩
  · rintro ⟨ident, part, hl, rfl, rfl⟩
    exact ⟨(ident, part), HashOrder.mem_entries.mpr hl, rfl⟩

section

variable (h : Faithful server room roster)
include h

lemma mem_participantsWithTracks_iff : (who, tracks) ∈ room.participantsWithTracks orders ↔
      ∃ part, room.find who = some part ∧
        ((orders.tracks who.identity).entries part.publications).map
          (fun pub => pub.2.info.sid) = tracks := by
  rw [mem_participantsWithTracks]
  constructor
  · rintro ⟨_, part, hl, rfl, htrs⟩
    obtain rfl := (h.identity_of_lookup hl).1
    exact ⟨part, find_eq_some hl rfl, htrs⟩
  · rintro ⟨part, hfind, htrs⟩
    obtain ⟨hl, hsid⟩ := lookup_of_find hfind
    have hid := (h.identity_of_lookup hl).1
    exact ⟨who.identity, part, hl, ParticipantInfo.ref_eq hsid hid.symm, htrs⟩

lemma mem_refs_iff :
    who ∈ (room.participantsWithTracks orders).map Prod.fst ↔ (room.find who).isSome = true := by
  rw [List.mem_map, isSome_iff_exists]
  constructor
  · rintro ⟨⟨_, _⟩, hm, rfl⟩
    obtain ⟨part, hfind, -⟩ := (mem_participantsWithTracks_iff h).mp hm
    exact ⟨part, hfind⟩
  · rintro ⟨part, hfind⟩
    exact ⟨(who, _), (mem_participantsWithTracks_iff h).mpr ⟨part, hfind, rfl⟩, rfl⟩

lemma Faithful.keyed {part} (hfind : room.find who = some part) : part.Keyed := by
  obtain ⟨_, -, hmt⟩ := h.current_of_lookup (lookup_of_find hfind).1
  exact hmt.keyed

lemma mem_tracks_iff :
    (∃ entry ∈ room.participantsWithTracks orders, entry.1 = who ∧ tr ∈ entry.2) ↔
      ((room.find who).bind fun part => part.view tr).isSome = true := by
  rw [isSome_iff_exists]
  constructor
  · rintro ⟨⟨_, _⟩, hm, rfl, htr⟩
    obtain ⟨_, hfind, rfl⟩ := (mem_participantsWithTracks_iff h).mp hm
    obtain ⟨⟨sid, pub⟩, he, rfl⟩ := mem_map.mp htr
    have hl := HashOrder.mem_entries.mp he
    refine ⟨pub.track, ?_⟩
    rw [hfind, bind_some, h.keyed hfind sid pub hl]
    exact congrArg _ hl
  · rintro ⟨_, hview⟩
    obtain ⟨part, hfind, hview⟩ := bind_eq_some_iff.mp hview
    obtain ⟨pub, hl, -⟩ := map_eq_some_iff.mp hview
    refine ⟨(who, _), (mem_participantsWithTracks_iff h).mpr ⟨part, hfind, rfl⟩, rfl, ?_⟩
    refine mem_map.mpr ⟨(tr, pub), HashOrder.mem_entries.mpr hl, ?_⟩
    exact h.keyed hfind tr pub hl

end

end Join

lemma announced_connect (auto lp others)
    (h : Faithful server (connect orders auto lp others).1 roster) (who tr) :
    Passes (observeOutput who tr) .start (connect orders auto lp others).2
      (Announced who tr ((connect orders auto lp others).1, roster)) := by
  have hnoMedia := noMedia_connect orders auto lp others
  let room := (connect orders auto lp others).1
  let view := (room.find who).bind fun part => part.view tr
  have hmedia : view.getD false = false := by
    cases hview : view with
    | none => rfl
    | some =>
      obtain ⟨part, hfind, hview⟩ := bind_eq_some_iff.mp hview
      obtain ⟨pub, hl, rfl⟩ := map_eq_some_iff.mp hview
      exact (hnoMedia _ part (lookup_of_find hfind).1).2 tr pub hl
  have hreads : ∀ (p : Prop) [Decidable p] (here : Bool) (gone : Prop), (p ↔ here = true) →
      (if p then Phase.present else Phase.unseen).Reads .present here gone := by
    intro p _ _ _ hiff
    constructor
    · exact fun hhere => if_pos (hiff.mpr hhere)
    · intro hout
      refine .inl (if_neg fun hp => ?_)
      rw [hiff.mp hp] at hout
      cases hout
  let listed := room.participantsWithTracks orders
  have hobserve : observeOutput who tr .start (.event (.connected listed)) =
      some ⟨if who ∈ listed.map Prod.fst then .present else .unseen,
        if ∃ entry ∈ listed, entry.1 = who ∧ tr ∈ entry.2 then .present else .unseen, false⟩ := by
    rw [observeOutput, observe, if_pos rfl]
  have hconn : Passes (observeOutput who tr) .start [.event (.connected listed)]
      (Announced who tr (room, roster)) :=
    .single hobserve ⟨hreads _ _ _ (mem_refs_iff h), hreads _ _ _ (mem_tracks_iff h), hmedia.symm⟩
  exact hconn.append fun _ hend => .single rfl hend

/-! ### Tracks are published by their owners -/

def Server.Owns (server : Server) : Output → Prop
  | .event (.trackPublished participant track) => server.owner track = participant.sid
  | _ => True

section Owns

variable {server : Server}

lemma owns_of_not_isRoster {output} (h : output.isRoster = false) : server.Owns output := by
  cases output with
  | event event =>
    cases event with
    | trackPublished => cases h
    | _ => trivial
  | _ => trivial

lemma owns_of_tells {ref : ParticipantRef} {tracks : List String} {evs : List RoomEvent}
    (htells : ∀ ev ∈ evs, ev.Tells ref tracks) (h : ∀ tr ∈ tracks, server.owner tr = ref.sid) :
    ∀ output ∈ evs.map Output.event, server.Owns output := by
  intro _ hm
  obtain ⟨ev, hev, rfl⟩ := mem_map.mp hm
  obtain ⟨habout, htrs⟩ := htells ev hev
  cases ev with
  | trackPublished _ tr =>
    cases habout
    exact h tr (htrs _ _ rfl)
  | _ => trivial

end Owns

lemma Turn.owns {pre after : RoomSession × Roster}
    {outputs : List Output} (hturn : Turn server pre outputs after)
    (h : Faithful server pre.1 pre.2) : ∀ output ∈ outputs, server.Owns output := by
  cases hturn with
  | tell _ _ hquiet => exact fun output hm => owns_of_not_isRoster (hquiet output hm)
  | renew info => exact owns_of_tells (ParticipantInfo.tells_changes _ info) nofun
  | forget => exact nofun
  | arrive _ _ hst hnames =>
    exact owns_of_tells tells_updateUnknown fun sid hm => (hnames.2.2 (.inl hst) sid hm).1
  | refresh _ hl hsid hnames =>
    refine owns_of_tells (tells_updateInfo _ _ _) fun sid hm => ?_
    exact (hnames.2.2 (.inr (h.has_of_lookup hl hsid)) sid hm).1
  | depart => exact owns_of_tells tells_handleParticipantDisconnect nofun
  | media sid => exact owns_of_tells (tells_addSubscribedMediaTrack _ sid) nofun
  | wish sid subd => exact owns_of_tells (tells_setSubscribed _ sid subd) nofun
  | restart =>
    intro _ hm
    rcases mem_cons.mp hm with rfl | hm
    · trivial
    · obtain ⟨_, hev, rfl⟩ := mem_map.mp hm
      obtain ⟨_, _, _, -, hemit⟩ := mem_outputs.mp hev
      exact owns_of_tells tells_handleParticipantDisconnect nofun _ (mem_map_of_mem hemit)

/-! ### Runs -/

def Server.Keeps (server : Server) (pair : RoomSession × Roster) (input : Input) : Prop :=
  pair.1.roomTask = true → pair.2.Each server.Serves input
  deriving Decidable

/-- It is never said late that someone has disconnected. -/
def NeverLate (pair : RoomSession × Roster) (input : Input) : Prop :=
  pair.1.roomTask = true → pair.2.Each NotLate input
  deriving Decidable

lemma Roster.Each.and {C D : Roster → ParticipantUpdate → Prop}
    (h : roster.Each C input) (h' : roster.Each D input) :
    roster.Each (fun roster u => C roster u ∧ D roster u) input := by
  cases input with
  | participantUpdate | roomMoved | signalRestarted => exact Along.and h h'
  | _ => trivial

lemma following_star_of_keeps {pair} (h : Faithful server pair.1 pair.2)
    (h_keeps : server.Keeps pair input) (h_late : NeverLate pair input) :
    Star (Turn server) pair (following pair input).2 (following pair input).1 :=
  following_star h fun ht => (h_keeps ht).and (h_late ht)

lemma following_room (pair inputs) :
    (state following pair inputs).1 = state step pair.1 inputs ∧
      outputs following pair inputs = outputs step pair.1 inputs := by
  induction inputs generalizing pair with
  | nil => exact ⟨rfl, rfl⟩
  | cons input _ ih =>
    obtain ⟨hst, hout⟩ := ih (following pair input).1
    refine ⟨hst, ?_⟩
    rw [outputs_cons, outputs_cons, hout]
    rfl

section Run

variable {server : Server} {pair : RoomSession × Roster} {inputs : List Input}
  (h : Faithful server pair.1 pair.2) (h_keeps : Along following server.Keeps pair inputs)
  (h_late : Along following NeverLate pair inputs)

include h h_keeps h_late

lemma faithful_state :
    Faithful server (state following pair inputs).1 (state following pair inputs).2 :=
  (h_keeps.and h_late).state_of_step (P := fun pair => Faithful server pair.1 pair.2) h
    fun _ _ h hinput => faithful_of_star (following_star_of_keeps h hinput.1 hinput.2) h

lemma passes_outputs {who tr seen} (hann : Announced who tr pair seen) :
    Passes (observeOutput who tr) seen (outputs following pair inputs)
      (Announced who tr (state following pair inputs)) := by
  refine (Passes.along (I := fun pair seen => Faithful server pair.1 pair.2 ∧
    Announced who tr pair seen) (h_keeps.and h_late) ⟨h, hann⟩ ?_).mono fun _ hend => hend.2
  rintro pair _ seen ⟨h_keeps, h_late⟩ ⟨h, hann⟩
  refine Passes.star (I := fun pair seen => Faithful server pair.1 pair.2 ∧
    Announced who tr pair seen) (following_star_of_keeps h h_keeps h_late) ⟨h, hann⟩ ?_
  rintro _ _ _ _ hturn ⟨h, hann⟩
  exact (hturn.announced h hann).mono fun _ hend => ⟨hturn.faithful h, hend⟩

lemma owns_outputs : ∀ output ∈ outputs following pair inputs, server.Owns output := by
  let Owned (log : List Output) (pair : RoomSession × Roster) : Prop :=
    Faithful server pair.1 pair.2 ∧ ∀ output ∈ log, server.Owns output
  have hinit : Owned [] pair := ⟨h, nofun⟩
  have hrun := (h_keeps.and h_late).run_of_step (P := Owned) hinit ?_
  · exact hrun.2
  · rintro log _ _ howned ⟨h_keeps, h_late⟩
    refine (following_star_of_keeps howned.1 h_keeps h_late).log_induction (P := Owned) howned ?_
    rintro _ _ _ _ ⟨h, hlog⟩ hturn
    refine ⟨hturn.faithful h, fun output hm => ?_⟩
    exact (mem_append.mp hm).elim (hlog output) (hturn.owns h output)

end Run

lemma isSome_view {found : Option RemoteParticipant} {tr : String} :
    (found.bind fun part => part.view tr).isSome = true ↔ ∃ part, found = some part ∧
        (part.publications.lookup tr).isSome = true := by
  cases found with
  | none => simp
  | some => simp [view]

/-- **The room mirrors what the server says.** If the server does not use SIDs again, and never
says of a participant who has rejoined that it has disconnected before, then in every run the
room has the participants whose last update was not that they have disconnected, with the
tracks of that update. For each of them, by SID and identity, and for each track, the log is
such as the monitor accepts, and tells who is there and which tracks are there; and a track is
published by the participant it belongs to only. -/
theorem room_mirrors_server (server : Server) (orders : Orders) (autoSubscribe : Bool)
    (localParticipant : ParticipantInfo) (others : List ParticipantUpdate) (inputs : List Input)
    (h_join : Along Roster.receive server.Lists (.start localParticipant) others)
    (h_keeps : Along following server.Keeps
      ((RoomSession.connect orders autoSubscribe localParticipant others).1,
        state Roster.receive (.start localParticipant) others) inputs)
    (h_late : Along following NeverLate
      ((RoomSession.connect orders autoSubscribe localParticipant others).1,
        state Roster.receive (.start localParticipant) others) inputs) :
    let joined := connect orders autoSubscribe localParticipant others
    let room := state step joined.1 inputs
    let roster := (state following
      (joined.1, state Roster.receive (.start localParticipant) others) inputs).2
    let log := joined.2 ++ outputs step joined.1 inputs
    (∀ identity, Option.Rel Matches (room.remoteParticipants.lookup identity)
        (roster.current identity)) ∧
      (∀ who track, ∃ seen, watch (observeOutput who track) .start log = some seen ∧
        (seen.participant = .present ↔ (room.find who).isSome = true) ∧
        (seen.track = .present ↔ ∃ participant, room.find who = some participant ∧
          (participant.publications.lookup track).isSome = true)) ∧
      ∀ participant track, .event (.trackPublished participant track) ∈ log →
        server.owner track = participant.sid := by
  intro joined _ _ _
  let start := (joined.1, state Roster.receive (.start localParticipant) others)
  have hstart : Faithful server start.1 start.2 := faithful_connect orders autoSubscribe h_join
  obtain ⟨hroom, hout⟩ := following_room start inputs
  refine ⟨?_, fun who track => ?_, ?_⟩
  · have hmirrors := (faithful_state hstart h_keeps h_late).mirrors
    rw [hroom] at hmirrors
    exact hmirrors
  · have hconnect := announced_connect orders autoSubscribe localParticipant others hstart who track
    obtain ⟨seen, hwatch, hseen⟩ :=
      hconnect.append fun _ hmid => passes_outputs hstart h_keeps h_late hmid
    rw [hout] at hwatch
    unfold Announced at hseen
    rw [hroom] at hseen
    refine ⟨seen, hwatch, hseen.participant.present_iff, hseen.track.present_iff.trans ?_⟩
    exact isSome_view
  · intro _ _ hm
    rcases mem_append.mp hm with hm | hm
    · -- the join tells of everyone at once
      simp [joined, connect] at hm
    · rw [← hout] at hm
      exact owns_outputs hstart h_keeps h_late _ hm

def said (sid : String) (state : ParticipantState) (tracks : List String) : ParticipantUpdate :=
  ⟨⟨sid, "alice", "", state, "", ∅, .unknownReason, none⟩,
    tracks.map fun track => ⟨track, "", false⟩⟩

/-- The participant comes twice, with a track each time. -/
def visits : Server :=
  ⟨fun _ => "alice", fun track => if track = "TR_1" then "PA_1" else "PA_2"⟩

/-- The user has joined, and nobody else has. -/
def joinedAlone : RoomSession × List Output :=
  RoomSession.connect .asListed true
    ⟨"PA_local", "local", "", .active, "", ∅, .unknownReason, none⟩ []

def startAlone : RoomSession × Roster :=
  (joinedAlone.1, .start ⟨"PA_local", "local", "", .active, "", ∅, .unknownReason, none⟩)

/-- The participant comes, comes again, is told of once more after a restart, and goes. -/
def visited : List Input :=
  [.participantUpdate .asListed [said "PA_1" .active ["TR_1"]],
    .mediaTrack .asListed "PA_1" "TR_1",
    .participantUpdate .asListed [said "PA_2" .active ["TR_2"]],
    .restarting .asListed, .signalRestarted .asListed none [said "PA_2" .active ["TR_2"]],
    .restarted, .restartTask, .participantUpdate .asListed [said "PA_2" .disconnected []]]

theorem room_mirrors_server_visited :
    Along following visits.Keeps startAlone visited ∧ Along following NeverLate startAlone visited ∧
      ∀ who track, ∃ seen, watch (observeOutput who track) .start
            (joinedAlone.2 ++ outputs RoomSession.step joinedAlone.1 visited) = some seen ∧
          (seen.participant = .present ↔
            ((state RoomSession.step joinedAlone.1 visited).find who).isSome = true) ∧
          (seen.track = .present ↔ ∃ participant,
            (state RoomSession.step joinedAlone.1 visited).find who = some participant ∧
              (participant.publications.lookup track).isSome = true) := by
  have h_keeps : Along following visits.Keeps startAlone visited := by decide +kernel
  have h_late : Along following NeverLate startAlone visited := by decide +kernel
  have hmirrors := room_mirrors_server visits .asListed true
    ⟨"PA_local", "local", "", .active, "", ∅, .unknownReason, none⟩ [] visited trivial
    h_keeps h_late
  exact ⟨h_keeps, h_late, hmirrors.2.1⟩

/-- The participant is there when the connection is restarted, and there still afterwards. -/
def visitedAcross : List Input :=
  [.participantUpdate .asListed [said "PA_1" .active ["TR_1"]],
    .restarting .asListed, .signalRestarted .asListed none [said "PA_1" .active ["TR_1"]]]

/-- A restart tells of everyone again, under the same SIDs. -/
theorem announced_again : Along following visits.Keeps startAlone visitedAcross ∧
      Along following NeverLate startAlone visitedAcross ∧
      (outputs RoomSession.step joinedAlone.1 visitedAcross).count
        (.event (.participantConnected ⟨"PA_1", "alice"⟩)) = 2 ∧
      (outputs RoomSession.step joinedAlone.1 visitedAcross).count
        (.event (.trackPublished ⟨"PA_1", "alice"⟩ "TR_1")) = 2 := by
  decide +kernel

end LiveKit.Room
