import LiveKitRust.DataTrack.Remote.Moves

/-!
# Publication updates

An update lists, for some publishers, all the tracks each has published. The manager brings its
descriptors in line in two passes: one over the listed tracks, which adds what is new and moves what
has got another SID, and one over its own descriptors, which drops what is no longer listed.

What stays of a track across a reconnect of its publisher is its **slot**, the publisher together
with the publisher's handle. A listed track touches no slot but its own (`Detected.other_slot`), so
that the first pass is understood slot by slot:

* `detectAll_other_slot` — a slot that is not listed is left alone;
* `detectAll_carried` — a listed track that carries on a descriptor leaves it in the slot, under the
  listed SID;
* `detectAll_new` — any other listed track adds a descriptor to its slot.

The second pass is `dropAll_spec`.
-/

open Machine List

namespace LiveKit.DataTrack.Remote

variable {π : Type}

/-! ### Slots -/

abbrev Slot := String × Handle

def Descriptor.slot (self : Descriptor) : Slot := (self.publisherIdentity, self.info.pubHandle)

def slotOf (listed : String × DataTrackInfo) : Slot := (listed.1, listed.2.pubHandle)

def Descriptor.withSid (self : Descriptor) (sid : DataTrackSid) : Descriptor :=
  { self with info := { self.info with sid := sid } }

lemma Descriptor.withSid_self {s : Descriptor} {sid : DataTrackSid} (h : s.info.sid = sid) :
    s.withSid sid = s := by
  rw [← h]
  rfl

def Descriptor.published (track : TrackId) (listed : String × DataTrackInfo) : Descriptor :=
  ⟨track, listed.2, listed.1, .none, (default : RemoteDataTrackPipelineOptions).maxPartialFrames⟩

def Descriptor.SameInfo (self : Descriptor) (info : DataTrackInfo) : Prop :=
  self.info.name = info.name ∧ self.info.usesE2ee = info.usesE2ee

namespace Manager

def InSlot (self : Manager π) (slot : Slot) (sid : DataTrackSid) (descriptor : Descriptor) : Prop :=
  self.descriptors.lookup sid = some descriptor ∧ descriptor.slot = slot

def AtMostOne (self : Manager π) (slot : Slot) : Prop :=
  ∀ ⦃sid descriptor sid' descriptor'⦄, self.InSlot slot sid descriptor →
    self.InSlot slot sid' descriptor' → sid' = sid

/-- The listed track carries on the descriptor: it is in the same slot, and under
the same SID or with the same name and encryption. -/
def Carries (self : Manager π) (listed : String × DataTrackInfo) (sid : DataTrackSid)
    (descriptor : Descriptor) : Prop :=
  self.InSlot (slotOf listed) sid descriptor ∧ (sid = listed.2.sid ∨ descriptor.SameInfo listed.2)

def Filed (self : Manager π) : Prop :=
  ∀ sid descriptor, self.descriptors.lookup sid = some descriptor → descriptor.info.sid = sid

/-- What the manager knows and what is listed fit together.

* The SIDs listed are distinct, and so are the slots.
* A SID that is known is listed for the slot it is known in.
* The listed slots hold at most one descriptor. -/
structure Listed (manager : Manager π) (tracks : List (String × DataTrackInfo)) : Prop where
  sids : (tracks.map fun listed => listed.2.sid).Nodup
  slots : (tracks.map slotOf).Nodup
  known : ∀ listed ∈ tracks, ∀ descriptor,
    manager.descriptors.lookup listed.2.sid = some descriptor → descriptor.slot = slotOf listed
  unique : ∀ listed ∈ tracks, manager.AtMostOne (slotOf listed)

end Manager

/-! ### One listed track -/

inductive Detected (self : Manager π) (listed : String × DataTrackInfo) :
    Manager π × List (Effect π) → Prop
  | known {descriptor} (h_look : self.descriptors.lookup listed.2.sid = some descriptor) :
      Detected self listed (self, [])
  /-- A descriptor in its slot has the same name and encryption: it is moved. -/
  | moved {oldSid descriptor} (h_new : self.descriptors.lookup listed.2.sid = none)
      (h_slot : self.InSlot (slotOf listed) oldSid descriptor)
      (h_same : descriptor.SameInfo listed.2) :
      Detected self listed ({ self with
          descriptors := (self.descriptors.erase oldSid).insert listed.2.sid
            (descriptor.withSid listed.2.sid)
          subHandles := moveRoute descriptor.activeHandle listed.2.sid self.subHandles },
        .sidWritten descriptor.track listed.2.sid ::
          Manager.resubscribe listed.2.sid descriptor.subscription)
  | new (h_new : self.descriptors.lookup listed.2.sid = none)
      (h_none : ∀ sid descriptor, self.InSlot (slotOf listed) sid descriptor →
        ¬ descriptor.SameInfo listed.2) :
      Detected self listed
        ({ self.setDescriptor listed.2.sid (.published self.nextTrack listed) with
          nextTrack := self.nextTrack + 1 },
        [.output (.trackPublished ⟨self.nextTrack, listed.2, listed.1⟩)])

namespace Manager

variable {s : Manager π} {listed : String × DataTrackInfo}

lemma not_sameInfo_of_handleSidReassigned {order} (hunique : s.AtMostOne (slotOf listed))
    (h : s.handleSidReassigned order listed.1 listed.2 = none) {sid desc}
    (hslot : s.InSlot (slotOf listed) sid desc) : ¬ desc.SameInfo listed.2 := by
  have hparts := Prod.mk.inj hslot.2
  unfold handleSidReassigned at h
  split at h
  next hfind =>
    -- the search over all descriptors would have found this one
    have hnot := find?_eq_none.mp hfind (sid, desc) (HashOrder.mem_entries.mpr hslot.1)
    exact absurd hparts (by simpa using hnot)
  next _ _ hfind =>
    have hl := HashOrder.mem_entries.mp (mem_of_find?_eq_some hfind)
    have hmatch := find?_some hfind
    rw [decide_eq_true_eq] at hmatch
    obtain rfl := hunique ⟨hl, Prod.ext hmatch.1 hmatch.2⟩ hslot
    obtain rfl := Option.mem_unique hl hslot.1
    split at h
    next hdiffers =>
      rintro ⟨hname, he2ee⟩
      exact hdiffers.elim (fun hne => hne hname) fun hne => hne he2ee
    next => cases h

lemma detectPublished_detected (hunique : s.AtMostOne (slotOf listed)) (order) :
    Detected s listed (detectPublished order s listed) := by
  unfold detectPublished
  cases hl : s.descriptors.lookup listed.2.sid with
  | some => exact .known hl
  | none =>
    rw [Option.isSome_none, if_neg Bool.false_ne_true]
    -- the SID is not known: a descriptor in the slot is moved, or the track is new
    split
    next _ hres =>
      obtain ⟨_, _, h_old, hpub, hh, hname, he2ee, rfl⟩ :=
        handleSidReassigned_eq_some hres
      exact .moved hl ⟨h_old, Prod.ext hpub hh⟩ ⟨hname, he2ee⟩
    next hn =>
      have hres := Detected.new hl fun sid desc hslot =>
        not_sameInfo_of_handleSidReassigned hunique hn hslot
      unfold handleTrackPublished
      rw [hl]
      exact hres

end Manager

section Detected

variable {s : Manager π} {listed : String × DataTrackInfo} {res : Manager π × List (Effect π)}

lemma lookup_moved (oldSid newSid sid : DataTrackSid) (desc : Descriptor)
    (ds : Map DataTrackSid Descriptor) :
    ((ds.erase oldSid).insert newSid (desc.withSid newSid)).lookup sid =
      if sid = newSid then some (desc.withSid newSid)
      else if sid = oldSid then none else ds.lookup sid := by
  rw [AList.lookup_insert_ite, AList.lookup_erase_ite]

section

variable (h : Detected s listed res)
include h

variable {sid : DataTrackSid} {desc : Descriptor}

lemma Detected.lookup_of_ne (hne : sid ≠ listed.2.sid)
    (hl : res.1.descriptors.lookup sid = some desc) : s.descriptors.lookup sid = some desc := by
  cases h with
  | known => exact hl
  | moved =>
    rw [lookup_moved, if_neg hne] at hl
    split at hl
    · cases hl
    · exact hl
  | new =>
    rwa [show AList.lookup sid _ = _ from s.lookup_setDescriptor .., if_neg hne] at hl

lemma Detected.other_slot {slot} (hslot : slot ≠ slotOf listed) (sid : DataTrackSid)
    (desc : Descriptor) : res.1.InSlot slot sid desc ↔ s.InSlot slot sid desc := by
  have hout : ∀ d : Descriptor, d.slot = slotOf listed →
      ¬ (some d = some desc ∧ desc.slot = slot) := by
    rintro _ hd ⟨⟨⟩, hin⟩
    exact hslot (hin.symm.trans hd)
  cases h with
  | known => rfl
  | moved hnew h_old hsm =>
    rename_i oldSid found
    unfold Manager.InSlot
    rw [lookup_moved]
    by_cases hsid : sid = listed.2.sid
    · -- free before, in the listed slot after
      rw [if_pos hsid, hsid, hnew]
      exact iff_of_false (hout _ h_old.2) (by simp)
    · rw [if_neg hsid]
      by_cases hsid' : sid = oldSid
      · -- in the listed slot before, free after
        rw [if_pos hsid', hsid', h_old.1]
        exact iff_of_false (by simp) (hout _ h_old.2)
      · rw [if_neg hsid']
  | new hnew =>
    unfold Manager.InSlot
    rw [show AList.lookup sid _ = _ from s.lookup_setDescriptor ..]
    by_cases hsid : sid = listed.2.sid
    · rw [if_pos hsid, hsid, hnew]
      exact iff_of_false (hout _ rfl) (by simp)
    · rw [if_neg hsid]

lemma Detected.carried (hunique : s.AtMostOne (slotOf listed))
    (hkn : ∀ desc, s.descriptors.lookup listed.2.sid = some desc →
      desc.slot = slotOf listed ∧ desc.info.sid = listed.2.sid) (hcar : s.Carries listed sid desc)
    (sid' : DataTrackSid) (d' : Descriptor) : res.1.InSlot (slotOf listed) sid' d' ↔
      sid' = listed.2.sid ∧ d' = desc.withSid listed.2.sid := by
  obtain ⟨hslot, hsm⟩ := hcar
  cases h with
  | known hl =>
    rename_i found
    obtain ⟨hfound, hsid⟩ := hkn found hl
    -- the one descriptor in the slot is the known one
    obtain rfl := hunique hslot ⟨hl, hfound⟩
    obtain rfl := Option.mem_unique hl hslot.1
    rw [Descriptor.withSid_self hsid]
    constructor
    · rintro ⟨hl', hslot'⟩
      obtain rfl := hunique hslot ⟨hl', hslot'⟩
      exact ⟨rfl, Option.mem_unique hl' hl⟩
    · rintro ⟨rfl, rfl⟩
      exact hslot
  | moved _ h_old =>
    obtain rfl := hunique h_old hslot
    obtain rfl := Option.mem_unique h_old.1 hslot.1
    unfold Manager.InSlot
    rw [lookup_moved]
    by_cases hsid : sid' = listed.2.sid
    · rw [if_pos hsid]
      constructor
      · rintro ⟨heq, -⟩
        exact ⟨hsid, (Option.some.inj heq).symm⟩
      · rintro ⟨-, rfl⟩
        exact ⟨rfl, hslot.2⟩
    · rw [if_neg hsid]
      refine iff_of_false (fun ⟨heq, hin⟩ => ?_) fun heq => hsid heq.1
      split at heq
      · cases heq
      next hsid' => exact hsid' (hunique hslot ⟨heq, hin⟩)
  | new hnew hn =>
    rcases hsm with hsid | hsm
    · rw [hsid, Manager.InSlot, hnew] at hslot
      cases hslot.1
    · exact absurd hsm (hn sid desc hslot)

lemma Detected.added (hkn : ∀ desc, s.descriptors.lookup listed.2.sid = some desc →
      desc.slot = slotOf listed) (hcar : ∀ sid desc, ¬ s.Carries listed sid desc) :
    ∀ sid desc, res.1.InSlot (slotOf listed) sid desc ↔
      sid = listed.2.sid ∧ desc = .published s.nextTrack listed ∨
        s.InSlot (slotOf listed) sid desc := by
  intro sid _
  cases h with
  | known hl =>
    -- both of these would carry a descriptor on
    exact absurd ⟨⟨hl, hkn _ hl⟩, Or.inl rfl⟩ (hcar _ _)
  | moved _ h_old hmatch =>
    exact absurd ⟨h_old, Or.inr hmatch⟩ (hcar _ _)
  | new hnew =>
    unfold Manager.InSlot
    rw [show AList.lookup sid _ = _ from s.lookup_setDescriptor ..]
    by_cases hsid : sid = listed.2.sid
    · rw [if_pos hsid, hsid, hnew]
      constructor
      · rintro ⟨heq, -⟩
        exact .inl ⟨rfl, (Option.some.inj heq).symm⟩
      · rintro (⟨-, rfl⟩ | ⟨heq, -⟩)
        · exact ⟨rfl, rfl⟩
        · cases heq
    · rw [if_neg hsid]
      exact ⟨.inr, fun hor => hor.resolve_left fun heq => hsid heq.1⟩

lemma Detected.filed (hfiled : s.Filed) : res.1.Filed := by
  intro sid desc hl
  -- what is put under the listed SID has it in its info
  by_cases hsid : sid = listed.2.sid
  · cases h with
    | known => exact hfiled sid desc hl
    | moved =>
      rw [lookup_moved, if_pos hsid] at hl
      rw [← Option.some.inj hl, hsid]
      rfl
    | new =>
      rw [show AList.lookup sid _ = _ from s.lookup_setDescriptor .., if_pos hsid] at hl
      rw [← Option.some.inj hl, hsid]
      rfl
  · exact hfiled sid desc (h.lookup_of_ne hsid hl)

end

def announced (effects : List (Effect π)) : List (String × DataTrackInfo) :=
  effects.filterMap fun
    | .output (.trackPublished track) => some (track.publisherIdentity, track.info)
    | _ => none

lemma announced_append (effs effects' : List (Effect π)) :
    announced (effs ++ effects') = announced effs ++ announced effects' :=
  filterMap_append

lemma announced_resubscribe (sid sub) :
    announced (Manager.resubscribe sid sub : List (Effect π)) = [] := by
  unfold Manager.resubscribe
  split <;> rfl

lemma Detected.announced_eq (h : Detected s listed res)
    (hkn : ∀ desc, s.descriptors.lookup listed.2.sid = some desc → desc.slot = slotOf listed) :
    (∃ sid desc, s.Carries listed sid desc) ∧ announced res.2 = [] ∨
      (∀ sid desc, ¬ s.Carries listed sid desc) ∧ announced res.2 = [listed] := by
  cases h with
  | known hl =>
    exact .inl ⟨⟨_, _, ⟨hl, hkn _ hl⟩, .inl rfl⟩, rfl⟩
  | moved _ hslot hsm =>
    exact .inl ⟨⟨_, _, hslot, .inr hsm⟩, announced_resubscribe ..⟩
  | new hnew hn =>
    refine .inr ⟨?_, rfl⟩
    -- nothing is under the SID, and nothing in the slot has the same name and encryption
    rintro sid desc ⟨hslot, hsid | hsm⟩
    · rw [hsid, Manager.InSlot, hnew] at hslot
      cases hslot.1
    · exact hn sid desc hslot hsm

lemma Detected.effects (h : Detected s listed res) {eff} (hm : eff ∈ res.2) :
    (∀ sid, eff ≠ .output (.trackUnpublished sid)) ∧ ∀ tr value, eff ≠ .published tr value := by
  cases h with
  | known => cases hm
  | moved hnew hslot hsm =>
    rename_i oldSid desc
    unfold Manager.resubscribe at hm
    cases hsub : desc.subscription <;> simp_all
    all_goals rcases hm with rfl | rfl <;> simp
  | new hnew hn => simp_all

end Detected

/-! ### The first pass -/

section DetectAll

open Manager

variable {s : Manager π} {tracks : List (String × DataTrackInfo)}
  {listed : String × DataTrackInfo} {order : HashOrder DataTrackSid}

section

variable (h : s.Listed (listed :: tracks))
include h

lemma Manager.Listed.detected : Detected s listed (detectPublished order s listed) :=
  detectPublished_detected (h.unique listed (.head _)) order

variable {later : String × DataTrackInfo}

lemma Manager.Listed.slot_ne (hla : later ∈ tracks) : slotOf later ≠ slotOf listed := by
  have hslots := h.slots
  rw [map_cons, nodup_cons] at hslots
  intro heq
  exact hslots.1 (mem_map.mpr ⟨later, hla, heq⟩)

lemma Manager.Listed.carries_iff (hla : later ∈ tracks) (sid desc) :
    (detectPublished order s listed).1.Carries later sid desc ↔ s.Carries later sid desc := by
  unfold Carries
  rw [h.detected.other_slot (h.slot_ne hla)]

lemma Manager.Listed.tail : (detectPublished order s listed).1.Listed tracks := by
  have hsids := h.sids
  have hslots := h.slots
  rw [map_cons, nodup_cons] at hsids hslots
  refine ⟨hsids.2, hslots.2, ?_, ?_⟩
  · intro later hla desc hl
    -- the first track has put nothing under the SID of a later one
    have hne : later.2.sid ≠ listed.2.sid := fun heq =>
      hsids.1 (mem_map.mpr ⟨later, hla, heq⟩)
    exact h.known later (mem_cons_of_mem listed hla) desc (h.detected.lookup_of_ne hne hl)
  · intro later hla sid desc sid' d' hslot hslot'
    rw [h.detected.other_slot (h.slot_ne hla)] at hslot hslot'
    exact h.unique later (mem_cons_of_mem listed hla) hslot hslot'

end

lemma detectAll_other_slot (h : s.Listed tracks) {slot} (hslot : slot ∉ tracks.map slotOf)
    (sid desc) :
    (state (detectPublished order) s tracks).InSlot slot sid desc ↔ s.InSlot slot sid desc := by
  induction tracks generalizing s with
  | nil => rfl
  | cons listed tracks ih =>
    rw [map_cons, mem_cons, not_or] at hslot
    rw [state_cons, ih h.tail hslot.2, h.detected.other_slot hslot.1]

lemma detectAll_first_slot (h : s.Listed (listed :: tracks)) (sid desc) :
    (state (detectPublished order) s (listed :: tracks)).InSlot (slotOf listed) sid desc ↔
      (detectPublished order s listed).1.InSlot (slotOf listed) sid desc := by
  have hslots := h.slots
  rw [map_cons, nodup_cons] at hslots
  exact detectAll_other_slot h.tail hslots.1 sid desc

section

variable (h : s.Listed tracks)
include h

lemma detectAll_filed (hfiled : s.Filed) : (state (detectPublished order) s tracks).Filed := by
  induction tracks generalizing s with
  | nil => exact hfiled
  | cons listed tracks ih => exact ih h.tail (h.detected.filed hfiled)

lemma detectAll_carried (hfiled : s.Filed) (hm : listed ∈ tracks) {sid desc}
    (hcar : s.Carries listed sid desc) (sid' d') :
    (state (detectPublished order) s tracks).InSlot (slotOf listed) sid' d' ↔
      sid' = listed.2.sid ∧ d' = desc.withSid listed.2.sid := by
  induction tracks generalizing s with
  | nil => cases hm
  | cons first tracks ih =>
    rcases mem_cons.mp hm with rfl | hla
    · -- the tracks that come later are in other slots
      rw [detectAll_first_slot h]
      refine h.detected.carried (h.unique listed hm) (fun found hfound => ?_) hcar sid' d'
      exact ⟨h.known listed hm found hfound, hfiled _ found hfound⟩
    · exact ih h.tail (h.detected.filed hfiled) hla ((h.carries_iff hla ..).mpr hcar)

lemma detectAll_new (hm : listed ∈ tracks) (hcar : ∀ sid desc, ¬ s.Carries listed sid desc) :
    ∃ tr, ∀ sid desc, (state (detectPublished order) s tracks).InSlot (slotOf listed) sid desc ↔
        sid = listed.2.sid ∧ desc = .published tr listed ∨ s.InSlot (slotOf listed) sid desc := by
  induction tracks generalizing s with
  | nil => cases hm
  | cons first tracks ih =>
    rcases mem_cons.mp hm with rfl | hla
    · refine ⟨s.nextTrack, fun sid desc => ?_⟩
      rw [detectAll_first_slot h]
      exact h.detected.added (h.known listed hm) hcar sid desc
    · -- the tracks that come before leave its slot as it is
      obtain ⟨tr, hslot⟩ := @ih (detectPublished order s first).1 h.tail hla
        fun sid desc hc => hcar sid desc ((h.carries_iff hla ..).mp hc)
      refine ⟨tr, fun sid desc => ?_⟩
      rw [state_cons, hslot, h.detected.other_slot (h.slot_ne hla)]

lemma announced_detectAll : (announced (outputs (detectPublished order) s tracks)).Sublist tracks ∧
      ∀ listed, listed ∈ announced (outputs (detectPublished order) s tracks) ↔
        listed ∈ tracks ∧ ∀ sid desc, ¬ s.Carries listed sid desc := by
  induction tracks generalizing s with
  | nil => simp [announced]
  | cons first tracks ih =>
    have hdetected : Detected s first (detectPublished order s first) := h.detected
    have hf := hdetected.announced_eq (h.known first (.head _))
    obtain ⟨hsublist, hm⟩ := @ih (detectPublished order s first).1 h.tail
    have hne : first ∉ tracks := fun hin => h.slot_ne hin rfl
    -- what later tracks carry on is the same before and after the first
    have hla : ∀ {listed}, listed ∈ announced (outputs (detectPublished order)
        (detectPublished order s first).1 tracks) ↔
          listed ∈ tracks ∧ ∀ sid desc, ¬ s.Carries listed sid desc := by
      intro listed
      rw [hm]
      refine and_congr_right fun hin => ?_
      simp only [h.carries_iff hin]
    rw [outputs_cons, announced_append]
    rcases hf with ⟨⟨sid, desc, hcar⟩, heq⟩ | ⟨hcar, heq⟩
    · rw [heq, nil_append]
      refine ⟨hsublist.cons first, fun listed => ?_⟩
      rw [hla, mem_cons]
      refine and_congr_left fun hn => ⟨.inr, fun hin => hin.resolve_left ?_⟩
      rintro rfl
      exact hn sid desc hcar
    · rw [heq, singleton_append]
      refine ⟨hsublist.cons_cons first, fun listed => ?_⟩
      rw [mem_cons, mem_cons, hla]
      constructor
      · rintro (rfl | ⟨hin, hn⟩)
        · exact ⟨.inl rfl, hcar⟩
        · exact ⟨.inr hin, hn⟩
      · rintro ⟨rfl | hin, hn⟩
        · exact .inl rfl
        · exact .inr ⟨hin, hn⟩

lemma effects_detectAll {eff} (hm : eff ∈ outputs (detectPublished order) s tracks) :
    (∀ sid, eff ≠ .output (.trackUnpublished sid)) ∧ ∀ tr value, eff ≠ .published tr value := by
  induction tracks generalizing s with
  | nil => cases hm
  | cons first tracks ih =>
    rw [outputs_cons, mem_append] at hm
    rcases hm with hf | hr
    · exact h.detected.effects hf
    · exact ih h.tail hr

lemma detectAll_listed (hfiled : s.Filed) (hm : listed ∈ tracks) : ∃ desc,
      (state (detectPublished order) s tracks).InSlot (slotOf listed) listed.2.sid desc := by
  by_cases hcar : ∃ sid desc, s.Carries listed sid desc
  · obtain ⟨sid, desc, hcar⟩ := hcar
    exact ⟨_, (detectAll_carried h hfiled hm hcar ..).mpr ⟨rfl, rfl⟩⟩
  · obtain ⟨tr, hslot⟩ := @detectAll_new π s tracks listed order h hm
      fun sid desc hc => hcar ⟨sid, desc, hc⟩
    exact ⟨_, (hslot ..).mpr (.inl ⟨rfl, rfl⟩)⟩

end

end DetectAll

/-! ### The second pass -/

section DropAll

open Manager

variable {s : Manager π} {order : HashOrder DataTrackSid}

def withdrawn (effects : List (Effect π)) : List DataTrackSid :=
  effects.filterMap fun
    | .output (.trackUnpublished sid) => some sid
    | _ => none

lemma withdrawn_append (effs effects' : List (Effect π)) :
    withdrawn (effs ++ effects') = withdrawn effs ++ withdrawn effects' :=
  filterMap_append

variable {sids : List DataTrackSid} {sid : DataTrackSid} {tr : TrackId} {value : Bool}

lemma dropSids_spec (s : Manager π) (hnodup : sids.Nodup)
    (hkn : ∀ sid ∈ sids, ∃ desc, s.descriptors.lookup sid = some desc) :
    (∀ sid, (state handleTrackUnpublished s sids).descriptors.lookup sid =
        if sid ∈ sids then none else s.descriptors.lookup sid) ∧
      withdrawn (outputs handleTrackUnpublished s sids) = sids ∧
      announced (outputs handleTrackUnpublished s sids) = [] := by
  induction sids generalizing s with
  | nil => exact ⟨fun sid => rfl, rfl, rfl⟩
  | cons first sids ih =>
    rw [nodup_cons] at hnodup
    obtain ⟨desc, hf⟩ := hkn first (.head _)
    -- dropping the first one changes nothing under the others
    have hl : ∀ sid, (s.handleTrackUnpublished first).1.descriptors.lookup sid =
        if sid = first then none else s.descriptors.lookup sid := by
      intro sid
      unfold handleTrackUnpublished
      rw [hf]
      exact AList.lookup_erase_ite ..
    have heffects : (s.handleTrackUnpublished first).2 =
        [.published desc.track false, .output (.trackUnpublished first)] := by
      unfold handleTrackUnpublished
      rw [hf]
    obtain ⟨hst, hwithdrawn, hann⟩ := ih (s.handleTrackUnpublished first).1
      hnodup.2 fun sid hm => by
        obtain ⟨d, hd⟩ := hkn sid (mem_cons_of_mem first hm)
        refine ⟨d, ?_⟩
        rw [hl, if_neg (ne_of_mem_of_not_mem hm hnodup.1), hd]
    refine ⟨fun sid => ?_, ?_, ?_⟩
    · rw [state_cons, hst, hl]
      split <;> split <;> simp_all
    · rw [outputs_cons, withdrawn_append, hwithdrawn, heffects]
      rfl
    · rw [outputs_cons, announced_append, hann, heffects]
      rfl

def Dropped (publishers : List (String × List DataTrackSid)) (sid : DataTrackSid)
    (descriptor : Descriptor) : Prop :=
  ∃ publisher ∈ publishers, descriptor.publisherIdentity = publisher.1 ∧ sid ∉ publisher.2

lemma mem_unpublishedSids {pub : String × List DataTrackSid} :
    sid ∈ s.unpublishedSids order pub.1 pub.2 ↔ ∃ desc, s.descriptors.lookup sid = some desc ∧
        desc.publisherIdentity = pub.1 ∧ sid ∉ pub.2 := by
  unfold unpublishedSids
  rw [mem_map]
  constructor
  · rintro ⟨⟨sid, desc⟩, hm, rfl⟩
    obtain ⟨hm, hcond⟩ := mem_filter.mp hm
    exact ⟨desc, HashOrder.mem_entries.mp hm, of_decide_eq_true hcond⟩
  · rintro ⟨desc, hl, hcond⟩
    exact ⟨(sid, desc), mem_filter.mpr ⟨HashOrder.mem_entries.mpr hl, decide_eq_true hcond⟩, rfl⟩

lemma nodup_unpublishedSids (pub : String × List DataTrackSid) :
    (s.unpublishedSids order pub.1 pub.2).Nodup :=
  (HashOrder.nodup_keys_entries order s.descriptors).sublist (filter_sublist.map _)

lemma detectUnpublished_spec (s : Manager π) (pub : String × List DataTrackSid) : (∀ sid desc,
        (detectUnpublished order s pub).1.descriptors.lookup sid = some desc ↔
          s.descriptors.lookup sid = some desc ∧ ¬ (desc.publisherIdentity = pub.1 ∧ sid ∉ pub.2)) ∧
      withdrawn (detectUnpublished order s pub).2 = s.unpublishedSids order pub.1 pub.2 ∧
      announced (detectUnpublished order s pub).2 = [] := by
  obtain ⟨hst, hwithdrawn, hann⟩ := dropSids_spec s
    (@nodup_unpublishedSids π s order pub) fun sid hm => by
      obtain ⟨desc, hl, -⟩ := mem_unpublishedSids.mp hm
      exact ⟨desc, hl⟩
  refine ⟨fun sid desc => ?_, hwithdrawn, hann⟩
  have ha : (detectUnpublished order s pub).1.descriptors.lookup sid = _ := hst sid
  rw [ha]
  -- dropped if in the list, and left otherwise
  split
  next hin =>
    obtain ⟨d, hl, hdrop⟩ := mem_unpublishedSids.mp hin
    refine iff_of_false (by simp) fun ⟨hl', hkeep⟩ => hkeep ?_
    rwa [← Option.mem_unique hl hl']
  next hin =>
    refine ⟨fun hl => ⟨hl, fun hdrop => hin ?_⟩, And.left⟩
    exact mem_unpublishedSids.mpr ⟨desc, hl, hdrop⟩

/-- **The second pass.** What is not listed by its publisher is dropped and
withdrawn, once; nothing is announced. -/
theorem dropAll_spec (s : Manager π) (pubs : List (String × List DataTrackSid)) :
    (∀ sid desc, (state (detectUnpublished order) s pubs).descriptors.lookup sid = some desc ↔
          s.descriptors.lookup sid = some desc ∧ ¬ Dropped pubs sid desc) ∧
      (withdrawn (outputs (detectUnpublished order) s pubs)).Nodup ∧
      (∀ sid, sid ∈ withdrawn (outputs (detectUnpublished order) s pubs) ↔
        ∃ desc, s.descriptors.lookup sid = some desc ∧ Dropped pubs sid desc) ∧
      announced (outputs (detectUnpublished order) s pubs) = [] := by
  induction pubs generalizing s with
  | nil => simp [Dropped, withdrawn, announced]
  | cons pub pubs ih =>
    obtain ⟨hlookup, hwithdrawn, hann⟩ := @detectUnpublished_spec π order s pub
    obtain ⟨ih_state, ih_nodup, ih_mem, ih_announced⟩ := ih (detectUnpublished order s pub).1
    -- dropped by the first publisher or by a later one
    have hcons : ∀ sid desc, Dropped (pub :: pubs) sid desc ↔
        desc.publisherIdentity = pub.1 ∧ sid ∉ pub.2 ∨ Dropped pubs sid desc := by
      intro sid desc
      simp only [Dropped, mem_cons, exists_eq_or_imp]
    refine ⟨fun sid desc => ?_, ?_, fun sid => ?_, ?_⟩
    · rw [state_cons, ih_state, hlookup, hcons, not_or, and_assoc]
    · -- what this publisher has dropped is not there for a later one to drop
      rw [outputs_cons, withdrawn_append, hwithdrawn]
      refine nodup_append.mpr ⟨nodup_unpublishedSids pub, ih_nodup, ?_⟩
      rintro sid hin sid' hla rfl
      obtain ⟨desc, hl, hdrop⟩ := mem_unpublishedSids.mp hin
      obtain ⟨d', hl', -⟩ := (ih_mem sid).mp hla
      obtain ⟨hbef, hkeep⟩ := (hlookup sid d').mp hl'
      exact hkeep (Option.mem_unique hl hbef ▸ hdrop)
    · rw [outputs_cons, withdrawn_append, hwithdrawn, mem_append, ih_mem]
      constructor
      · rintro (hin | ⟨desc, hl, hdrop⟩)
        · obtain ⟨desc, hl, hdrop⟩ := mem_unpublishedSids.mp hin
          exact ⟨desc, hl, (hcons ..).mpr (.inl hdrop)⟩
        · exact ⟨desc, ((hlookup ..).mp hl).1, (hcons ..).mpr (.inr hdrop)⟩
      · rintro ⟨desc, hl, hdrop⟩
        by_cases hf : desc.publisherIdentity = pub.1 ∧ sid ∉ pub.2
        · exact .inl (mem_unpublishedSids.mpr ⟨desc, hl, hf⟩)
        · exact .inr ⟨desc, (hlookup ..).mpr ⟨hl, hf⟩, ((hcons ..).mp hdrop).resolve_left hf⟩
    · rw [outputs_cons, announced_append, hann, ih_announced]
      rfl

lemma lookup_of_handleTrackUnpublished {first desc}
    (h : (s.handleTrackUnpublished first).1.descriptors.lookup sid = some desc) :
    s.descriptors.lookup sid = some desc := by
  unfold handleTrackUnpublished at h
  split at h
  next => exact h
  next =>
    exact (AList.of_lookup_erase h).2

lemma lookup_of_published_mem
    (h : Effect.published tr value ∈ outputs handleTrackUnpublished s sids) :
    ∃ sid ∈ sids, ∃ desc, s.descriptors.lookup sid = some desc ∧ desc.track = tr := by
  induction sids generalizing s with
  | nil => cases h
  | cons first sids ih =>
    rw [outputs_cons, mem_append] at h
    rcases h with hf | hr
    · unfold handleTrackUnpublished at hf
      split at hf
      next => cases hf
      next desc hl =>
        have htr : desc.track = tr := by simp_all
        exact ⟨first, .head _, desc, hl, htr⟩
    · -- dropping descriptors adds none, so this one was there at the start
      obtain ⟨sid, hm, desc, hl, htr⟩ := ih hr
      exact ⟨sid, mem_cons_of_mem first hm, desc, lookup_of_handleTrackUnpublished hl, htr⟩

lemma dropped_of_published_mem {pubs : List (String × List DataTrackSid)}
    (h : Effect.published tr value ∈ outputs (detectUnpublished order) s pubs) :
    ∃ sid desc, s.descriptors.lookup sid = some desc ∧ Dropped pubs sid desc ∧ desc.track = tr := by
  induction pubs generalizing s with
  | nil => cases h
  | cons pub pubs ih =>
    rw [outputs_cons, mem_append] at h
    rcases h with hf | hr
    · -- a track of the first publisher
      obtain ⟨sid, hm, desc, hl, htr⟩ := lookup_of_published_mem hf
      obtain ⟨d', hl', hdrop⟩ := mem_unpublishedSids.mp hm
      obtain rfl := Option.mem_unique hl hl'
      exact ⟨sid, desc, hl, ⟨pub, .head _, hdrop⟩, htr⟩
    · obtain ⟨sid, desc, hl, ⟨later, hla, hdrop⟩, htr⟩ := ih hr
      have hbef := (((detectUnpublished_spec s pub).1 sid desc).mp hl).1
      exact ⟨sid, desc, hbef, ⟨later, mem_cons_of_mem pub hla, hdrop⟩, htr⟩

end DropAll

end LiveKit.DataTrack.Remote
