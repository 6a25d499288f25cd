import LiveKitRust.DataTrack.Remote.Moves

/-!
# What the user is told

The log of a run says which track has been announced, by which SID it goes (`sidOf`), and whether it
has ended. `Announced` relates the log to the descriptors, along every run (`announced_run`):

* tracks are announced in the order of their numbers, each once;
* the track of a descriptor was announced, has not ended, and goes by the SID the descriptor is
  under;
* a SID is withdrawn right after the track that goes by it has ended, which it had not before; so a
  track is withdrawn at most once, and after it was announced.
-/

open Machine List

namespace LiveKit.DataTrack.Remote

open Manager

variable {π : Type}

/-! ### Reading the log -/

def publishedTracks (log : List (Effect π)) : List TrackId :=
  log.filterMap fun
    | .output (.trackPublished track) => some track.track
    | _ => none

def Effect.sidOf (track : TrackId) : Effect π → Option DataTrackSid
  | .output (.trackPublished new) => if new.track = track then some new.info.sid else none
  | .sidWritten track' sid => if track' = track then some sid else none
  | _ => none

def sidOf (track : TrackId) (log : List (Effect π)) : Option DataTrackSid :=
  log.foldl (fun current effect => (effect.sidOf track).or current) none

lemma publishedTracks_append (log effs : List (Effect π)) :
    publishedTracks (log ++ effs) = publishedTracks log ++ publishedTracks effs :=
  filterMap_append

lemma sidOf_concat (tr : TrackId) (log) (eff : Effect π) :
    sidOf tr (log ++ [eff]) = (eff.sidOf tr).or (sidOf tr log) := by
  unfold sidOf
  rw [foldl_append]
  rfl

def Effect.Mute : Effect π → Prop
  | .output (.trackPublished _) | .output (.trackUnpublished _) | .sidWritten .. |
    .published .. => False
  | _ => True

variable {effs log : List (Effect π)} {m : Manager π} {sid : DataTrackSid}
  {desc d' : Descriptor} {α : Type} {a : α} {manager' : Manager π}

lemma publishedTracks_of_mute (h : ∀ eff ∈ effs, eff.Mute) : publishedTracks effs = [] := by
  refine filterMap_eq_nil_iff.mpr fun eff hm => ?_
  split
  next => exact absurd (h _ hm) not_false
  next => rfl

lemma sidOf_append_of_mute (h : ∀ eff ∈ effs, eff.Mute) (tr log) :
    sidOf tr (log ++ effs) = sidOf tr log := by
  unfold sidOf
  rw [foldl_append]
  -- whatever the SID was after the log, the rest says nothing about it
  generalize foldl _ none log = current
  induction effs with
  | nil => rfl
  | cons eff _ ih =>
    have hn : eff.sidOf tr = none := by
      have hmute := h eff (.head _)
      unfold Effect.sidOf
      split
      next => exact absurd hmute not_false
      next => exact absurd hmute not_false
      next => rfl
    rw [foldl_cons, hn, Option.none_or]
    exact ih fun e he => h e (mem_cons_of_mem eff he)

/-! ### The log and the descriptors -/

structure Announced (log : List (Effect π)) (manager : Manager π) : Prop where
  tracks : publishedTracks log = List.range manager.nextTrack
  live : ∀ sid descriptor, manager.descriptors.lookup sid = some descriptor →
    descriptor.track < manager.nextTrack ∧ .published descriptor.track false ∉ log ∧
      sidOf descriptor.track log = some sid
  ended : ∀ track, .published track false ∈ log → track < manager.nextTrack
  gone : ∀ pre sid post, log = pre ++ .output (.trackUnpublished sid) :: post →
    ∃ before track, pre = before ++ [.published track false] ∧ track ∈ publishedTracks before ∧
      .published track false ∉ before ∧ sidOf track before = some sid

lemma Announced.sid_unique (h : Announced log m) {sid'} (hl : m.descriptors.lookup sid = some desc)
    (hl' : m.descriptors.lookup sid' = some d') (htr : d'.track = desc.track) : sid' = sid := by
  have hsid := (h.live sid desc hl).2.2
  have hsid' := (h.live sid' d' hl').2.2
  rw [htr, hsid] at hsid'
  exact (Option.some.inj hsid').symm

lemma eq_of_nodup_filterMap {β : Type} {f : α → Option β} {l : List α} (h : (l.filterMap f).Nodup)
    {b : α} {c : β} (ha : a ∈ l) (hb : b ∈ l) (hfa : f a = some c) (hfb : f b = some c) :
    a = b := by
  induction l with
  | nil => cases ha
  | cons x l ih =>
    by_cases hx : f x = some c
    · rw [filterMap_cons_some hx, nodup_cons] at h
      -- the head makes the item, so nothing in the tail does
      have honly : ∀ y ∈ l, f y ≠ some c := fun y hy hfy =>
        h.1 (mem_filterMap.mpr ⟨y, hy, hfy⟩)
      have h_a := (mem_cons.mp ha).resolve_right fun hin => honly a hin hfa
      have h_b := (mem_cons.mp hb).resolve_right fun hin => honly b hin hfb
      rw [h_a, h_b]
    · refine ih (h.sublist ((sublist_cons_self x l).filterMap f)) ?_ ?_
      · exact (mem_cons.mp ha).resolve_left fun heq => hx (heq ▸ hfa)
      · exact (mem_cons.mp hb).resolve_left fun heq => hx (heq ▸ hfb)

lemma Announced.announcement_unique (h : Announced log m)
    {announced announced' : RemoteDataTrack} (hm : .output (.trackPublished announced) ∈ log)
    (hm' : .output (.trackPublished announced') ∈ log)
    (htr : announced'.track = announced.track) : announced' = announced := by
  have hnodup : (publishedTracks log).Nodup := h.tracks ▸ nodup_range
  have heq := eq_of_nodup_filterMap hnodup hm' hm rfl (congrArg some htr.symm)
  simpa using heq

lemma split_of_not_mem {log effs pre post} (h : a ∉ effs) (heq : log ++ effs = pre ++ a :: post) :
    ∃ post', log = pre ++ a :: post' := by
  rcases append_eq_append_iff.mp heq with ⟨mid, rfl, heffects⟩ | ⟨mid, hlog, hmid⟩
  · exact absurd (heffects ▸ mem_append_right mid (.head _)) h
  · cases mid with
    -- the item would be the first of what was added
    | nil => exact absurd (by rw [← nil_append effs, ← hmid]; exact .head _) h
    | cons _ mid =>
      cases hmid
      exact ⟨mid, hlog⟩

lemma mute_of_mem_resubscribe {sub : SubscriptionState} {eff : Effect π}
    (h : eff ∈ resubscribe sid sub) : eff.Mute := by
  unfold resubscribe at h
  split at h
  · cases h
  all_goals
    rw [mem_singleton.mp h]
    trivial

section

variable (h : Announced log m)
include h

lemma Announced.gone_append (hnot : ∀ sid, .output (.trackUnpublished sid) ∉ effs) (pre sid post)
    (heq : log ++ effs = pre ++ .output (.trackUnpublished sid) :: post) :
    ∃ before tr, pre = before ++ [.published tr false] ∧ tr ∈ publishedTracks before ∧
      .published tr false ∉ before ∧ sidOf tr before = some sid := by
  obtain ⟨post', hlog⟩ := split_of_not_mem (hnot sid) heq
  exact h.gone pre sid post' hlog

lemma Announced.mute (hmute : ∀ eff ∈ effs, eff.Mute) (hn : manager'.nextTrack = m.nextTrack)
    (hkept : ∀ sid d', manager'.descriptors.lookup sid = some d' →
      ∃ desc, m.descriptors.lookup sid = some desc ∧
        d'.track = desc.track) : Announced (log ++ effs) manager' := by
  -- an effect that ends a track is not mute
  have he : ∀ {tr}, .published tr false ∈ log ++ effs → .published tr false ∈ log :=
    fun hm => (mem_append.mp hm).resolve_right fun hm => hmute _ hm
  refine ⟨?_, fun sid d' hl => ?_, fun tr hm => ?_, h.gone_append fun sid hm => hmute _ hm⟩
  · rw [publishedTracks_append, publishedTracks_of_mute hmute, append_nil, hn]
    exact h.tracks
  · obtain ⟨desc, hbef, htr⟩ := hkept sid d' hl
    obtain ⟨hlt, hlive, hsid⟩ := h.live sid desc hbef
    rw [htr, hn, sidOf_append_of_mute hmute]
    exact ⟨hlt, fun hm => hlive (he hm), hsid⟩
  · rw [hn]
    exact h.ended tr (he hm)

lemma Announced.setDescriptor (hmute : ∀ eff ∈ effs, eff.Mute)
    (hl : m.descriptors.lookup sid = some desc)
    (heq : manager'.descriptors = (m.setDescriptor sid d').descriptors)
    (hn : manager'.nextTrack = m.nextTrack)
    (htr : d'.track = desc.track) : Announced (log ++ effs) manager' := by
  refine h.mute hmute hn fun sid' d hd => ?_
  rcases AList.of_lookup_insert (heq ▸ hd) with ⟨rfl, rfl⟩ | ⟨-, hd⟩
  · -- the SID stored under has a descriptor of the same track already
    exact ⟨desc, hl, htr⟩
  · exact ⟨d, hd, rfl⟩

/-! ### Transitions -/

lemma Announced.request (hreq : Request m effs manager') : Announced (log ++ effs) manager' := by
  cases hreq with
  | refuse | attach => exact h.mute (by simp [Effect.Mute]) rfl fun sid d hd => ⟨d, hd, rfl⟩
  | request hl | unsubscribe hl =>
    exact h.setDescriptor (by simp [Effect.Mute]) hl rfl rfl rfl
  | join hl => exact h.setDescriptor (by simp) hl rfl rfl rfl

lemma Announced.assignment
    (hassign : Assignment m effs manager') : Announced (log ++ effs) manager' := by
  cases hassign with
  | rehandle hl => exact h.setDescriptor (by simp) hl rfl rfl rfl
  | activate hl =>
    refine h.setDescriptor ?_ hl rfl rfl rfl
    exact forall_mem_cons.mpr ⟨trivial, forall_mem_map.mpr fun _ _ => trivial⟩

lemma Announced.publish {ident info maxPartialFrames} :
    Announced (log ++ [.output (.trackPublished ⟨m.nextTrack, info, ident⟩)])
      { m.setDescriptor info.sid ⟨m.nextTrack, info, ident, .none, maxPartialFrames⟩ with
        nextTrack := m.nextTrack + 1 } := by
  refine ⟨?_, fun sid desc hd => ?_, fun tr hm => ?_, h.gone_append (by simp)⟩
  · rw [publishedTracks_append, h.tracks, range_succ]
    rfl
  · rw [sidOf_concat]
    rcases AList.of_lookup_insert hd with ⟨rfl, rfl⟩ | ⟨-, hd⟩
    · refine ⟨Nat.lt_succ_self _, fun hm => ?_, ?_⟩
      · -- what has ended has a smaller number
        exact Nat.lt_irrefl _ (h.ended m.nextTrack (by simpa using hm))
      · rw [Effect.sidOf, if_pos rfl]
        rfl
    · -- the others have smaller numbers, so the new announcement is not about them
      obtain ⟨hlt, hlive, hsid⟩ := h.live sid desc hd
      refine ⟨Nat.lt_succ_of_lt hlt, by simpa using hlive, ?_⟩
      rw [Effect.sidOf, if_neg (Nat.ne_of_gt hlt), Option.none_or, hsid]
  · exact Nat.lt_succ_of_lt (h.ended tr (by simpa using hm))

lemma Announced.reassign {oldSid newSid : DataTrackSid}
    (hl : m.descriptors.lookup oldSid = some desc)
    (heq : manager'.descriptors = (m.descriptors.erase oldSid).insert newSid
      { desc with info := { desc.info with sid := newSid } })
    (hn : manager'.nextTrack = m.nextTrack) : Announced (log ++
      .sidWritten desc.track newSid :: resubscribe newSid desc.subscription) manager' := by
  -- first the SID is written, then the SFU is told
  have hwritten : Announced (log ++ [.sidWritten desc.track newSid]) manager' := by
    refine ⟨?_, fun sid d hd => ?_, fun tr hm => ?_, h.gone_append (by simp)⟩
    · rw [publishedTracks_append, h.tracks, hn]
      exact append_nil _
    · rw [sidOf_concat, hn]
      rcases AList.of_lookup_insert (heq ▸ hd) with ⟨rfl, rfl⟩ | ⟨-, hd⟩
      · obtain ⟨hlt, hlive, -⟩ := h.live oldSid desc hl
        refine ⟨hlt, by simpa using hlive, ?_⟩
        rw [Effect.sidOf, if_pos rfl]
        rfl
      · obtain ⟨hsid, hd⟩ := AList.of_lookup_erase hd
        obtain ⟨hlt, hlive, hcur⟩ := h.live sid d hd
        refine ⟨hlt, by simpa using hlive, ?_⟩
        have htr : desc.track ≠ d.track := fun heq =>
          hsid (h.sid_unique hl hd heq.symm)
        rw [Effect.sidOf, if_neg htr, Option.none_or, hcur]
    · exact hn ▸ h.ended tr (by simpa using hm)
  rw [← singleton_append, ← append_assoc]
  exact hwritten.mute (fun _ => mute_of_mem_resubscribe) rfl fun sid d hd => ⟨d, hd, rfl⟩

lemma Announced.unpublish (hl : m.descriptors.lookup sid = some desc) :
    Announced (log ++ [.published desc.track false, .output (.trackUnpublished sid)])
      { m with
        descriptors := m.descriptors.erase sid
        subHandles := dropRoute desc.activeHandle m.subHandles } := by
  obtain ⟨hlt, hlive, hsid⟩ := h.live sid desc hl
  -- neither effect names a SID of a track
  have heffects : ∀ tr, sidOf tr
      (log ++ [.published desc.track false, .output (.trackUnpublished sid)]) = sidOf tr log := by
    intro _
    unfold sidOf
    rw [foldl_append]
    rfl
  refine ⟨?_, fun sid' d hd => ?_, fun tr hm => ?_, fun pre sid' post heq => ?_⟩
  · rw [publishedTracks_append, h.tracks]
    exact append_nil _
  · obtain ⟨hne, hd⟩ := AList.of_lookup_erase hd
    obtain ⟨hlt', hlive', hsid'⟩ := h.live sid' d hd
    refine ⟨hlt', fun hm => ?_, (heffects d.track).trans hsid'⟩
    rcases mem_append.mp hm with hm | hm
    · exact hlive' hm
    · -- it is another track that has ended
      have htr : d.track = desc.track := by simpa using hm
      exact hne (h.sid_unique hl hd htr)
  · rcases mem_append.mp hm with hm | hm
    · exact h.ended tr hm
    · have htr : tr = desc.track := by simpa using hm
      exact htr ▸ hlt
  · -- the last effect is the withdrawal, or it is one of those before
    rw [← singleton_append, ← append_assoc] at heq
    rcases eq_nil_or_concat' post with rfl | ⟨post, last, rfl⟩
    · obtain ⟨rfl, hlast⟩ := append_inj' heq rfl
      obtain rfl : sid = sid' := by simpa using hlast
      refine ⟨log, desc.track, rfl, ?_, hlive, hsid⟩
      rw [h.tracks]
      exact mem_range.mpr hlt
    · rw [← cons_append, ← append_assoc] at heq
      obtain ⟨hf, -⟩ := append_inj' heq rfl
      exact h.gone_append (by simp) pre sid' post hf

/-- **Moves** keep the log and the descriptors in step. -/
theorem Announced.move (hmv : Move m effs manager') : Announced (log ++ effs) manager' := by
  cases hmv with
  | publish => exact h.publish
  | reassign hl => exact h.reassign hl rfl rfl
  | unpublish hl => exact h.unpublish hl
  | configure hl => exact h.setDescriptor (by simp) hl rfl rfl rfl
  | deliver | resend => exact h.mute (by simp [Effect.Mute]) rfl fun sid d hd => ⟨d, hd, rfl⟩
  | shutdown =>
    rename_i order
    -- a shutdown ends the tracks there are and answers the pending requests; no withdrawal
    have hm : ∀ eff ∈ (order.entries m.descriptors).flatMap fun e =>
        shutdownEffects e.2,
        (∃ sid desc, m.descriptors.lookup sid = some desc ∧ eff = .published desc.track false) ∨
        ∃ tx res, eff = (.result tx res : Effect π) := by
      intro _ heffect
      obtain ⟨e, he, heffect⟩ := mem_flatMap.mp heffect
      rcases mem_shutdownEffects heffect with rfl | ⟨_, rfl⟩
      · exact .inl ⟨e.1, e.2, HashOrder.mem_entries.mp he, rfl⟩
      · exact .inr ⟨_, _, rfl⟩
    refine ⟨?_, nofun, fun tr htr => ?_, h.gone_append fun sid heffect => ?_⟩
    · have hnil : publishedTracks ((order.entries m.descriptors).flatMap fun e =>
          shutdownEffects (π := π) e.2) = [] := by
        refine filterMap_eq_nil_iff.mpr fun eff heffect => ?_
        rcases hm eff heffect with ⟨_, _, _, rfl⟩ | ⟨_, _, rfl⟩ <;> rfl
      rw [publishedTracks_append, h.tracks, hnil, append_nil]
    · rcases mem_append.mp htr with htr | htr
      · exact h.ended tr htr
      · rcases hm _ htr with ⟨sid, desc, hl, heq⟩ | ⟨_, _, heq⟩
        · cases heq
          exact (h.live sid desc hl).1
        · cases heq
    · rcases hm _ heffect with ⟨_, _, _, heq⟩ | ⟨_, _, heq⟩ <;> cases heq

end

/-- **Runs.** The log of a run and the descriptors at its end fit together. -/
theorem announced_run (prov : Option π) (evs : List InputEvent) :
    Announced (outputs step (new prov) evs) (state step (new prov) evs) := by
  have hinit : Announced [] (new prov) :=
    ⟨rfl, nofun, fun _ hm =>
      absurd hm (by simp), fun pre _ _ heq => absurd heq (by simp)⟩
  exact run_of_kinds (P := Announced) hinit (fun hreq h => h.request hreq)
    (fun hmv h => h.move hmv) (fun hassign h => h.assignment hassign) evs

/-- Whatever the server sends, a track is announced once, and no two descriptors have it. -/
theorem announced_once (prov : Option π) (evs : List InputEvent) :
    let m := state step (new prov) evs
    (publishedTracks (outputs step (new prov) evs)).Nodup ∧ ∀ sid sid' desc d',
      m.descriptors.lookup sid = some desc → m.descriptors.lookup sid' = some d' →
        d'.track = desc.track → sid' = sid := by
  have h := announced_run prov evs
  refine ⟨?_, fun _ _ _ _ => h.sid_unique⟩
  rw [h.tracks]
  exact nodup_range

end LiveKit.DataTrack.Remote
