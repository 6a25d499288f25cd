import LiveKitRust.DataTrack.Remote.Announcements
import LiveKitRust.DataTrack.Remote.Reconcile
import LiveKitRust.DataTrack.Remote.SubscriptionView

/-!
# What is published

The result of a publication update, put together from its two passes (`Reconciles`). The manager
keeps its descriptors filed under their SIDs with one descriptor to a slot (`Manager.Orderly`), as
long as the updates make sense to it (`Manager.WellListed`). Then every update leaves of the
publishers it lists exactly what it lists, announces what is new and withdraws what is gone
(`reconciliation`).

Otherwise, a SID listed for another handle than it is known by gets lost, and with another name or
encryption a track that keeps its handle is taken for a new one (`reconciliation_fails`).
-/

open Machine List

namespace LiveKit.DataTrack.Remote

open Manager

variable {π : Type}

/-! ### One update -/

section Update

variable {self : Manager π} {upds : Map String (List DataTrackInfo)}
  {pubs : HashOrder String} {order : HashOrder DataTrackSid} {track : String × DataTrackInfo}
  {sid : DataTrackSid} {desc : Descriptor}

lemma mem_tracksOf : track ∈ tracksOf upds ↔
      ∃ infos, upds.lookup track.1 = some infos ∧ track.2 ∈ infos := by
  unfold tracksOf
  rw [mem_flatMap]
  constructor
  · rintro ⟨⟨_, infos⟩, he, hm⟩
    obtain ⟨_, hinfo, rfl⟩ := mem_map.mp hm
    exact ⟨infos, AList.mem_lookup_iff.mpr he, hinfo⟩
  · rintro ⟨infos, hl, hinfo⟩
    exact ⟨⟨track.1, infos⟩, AList.mem_lookup_iff.mp hl, mem_map.mpr ⟨track.2, hinfo, rfl⟩⟩

lemma dropped_iff : Dropped (participantToSids upds pubs) sid desc ↔
      ∃ infos, upds.lookup desc.publisherIdentity = some infos ∧
        sid ∉ infos.map DataTrackInfo.sid := by
  constructor
  · rintro ⟨_, he, hpub, hsid⟩
    obtain ⟨⟨_, infos⟩, hm, rfl⟩ := mem_map.mp he
    exact ⟨infos, hpub ▸ HashOrder.mem_entries.mp hm, hsid⟩
  · rintro ⟨infos, hl, hsid⟩
    exact ⟨_, mem_map.mpr ⟨(desc.publisherIdentity, infos),
      HashOrder.mem_entries.mpr hl, rfl⟩, rfl, hsid⟩

/-- The update makes sense to the manager.

* The SIDs listed are distinct: within the tracks of a publisher, and no SID is
  listed for two publishers.
* So are the handles listed for a publisher.
* A SID that is known is listed for the publisher and the handle it is known
  by. -/
structure Manager.WellListed (manager : Manager π) (updates : Map String (List DataTrackInfo)) :
    Prop where
  sids : ((tracksOf updates).map fun listed => listed.2.sid).Nodup
  slots : ((tracksOf updates).map slotOf).Nodup
  known : ∀ listed ∈ tracksOf updates, ∀ descriptor,
    manager.descriptors.lookup listed.2.sid = some descriptor → descriptor.slot = slotOf listed

structure Manager.Orderly (manager : Manager π) : Prop where
  filed : manager.Filed
  unique : ∀ slot, manager.AtMostOne slot

lemma Manager.WellListed.listed {s : Manager π} (h : s.WellListed upds)
    (horderly : s.Orderly) : s.Listed (tracksOf upds) :=
  ⟨h.sids, h.slots, h.known, fun listed _ => horderly.unique (slotOf listed)⟩

lemma lookup_update :
    (self.onSfuPublicationUpdates upds pubs order).1.descriptors.lookup sid = some desc ↔
      (state (detectPublished order) self (tracksOf upds)).descriptors.lookup sid = some desc ∧
        ¬ Dropped (participantToSids upds pubs) sid desc :=
  (dropAll_spec _ (participantToSids upds pubs)).1 sid desc

lemma not_dropped_of_listed (hm : track ∈ tracksOf upds) (hslot : desc.slot = slotOf track) :
    ¬ Dropped (participantToSids upds pubs) track.2.sid desc := by
  rw [dropped_iff]
  rintro ⟨_, hl, hnot⟩
  obtain ⟨_, hl', hinfo⟩ := mem_tracksOf.mp hm
  rw [(Prod.mk.inj hslot).1, hl'] at hl
  cases hl
  exact hnot (mem_map.mpr ⟨track.2, hinfo, rfl⟩)

lemma update_listed (h : self.WellListed upds) (horderly : self.Orderly)
    (hm : track ∈ tracksOf upds) :
    ∃ desc, (self.onSfuPublicationUpdates upds pubs order).1.InSlot
      (slotOf track) track.2.sid desc := by
  obtain ⟨desc, hl, hslot⟩ := @detectAll_listed π self (tracksOf upds) track order
    (h.listed horderly) horderly.filed hm
  exact ⟨desc, lookup_update.mpr ⟨hl, not_dropped_of_listed hm hslot⟩, hslot⟩

section

variable (h : self.WellListed upds)
include h

section

variable (horderly : self.Orderly)
include horderly

/-- **SIDs.** Of a publisher in the update, the descriptors afterwards are under
the SIDs listed. -/
theorem update_sids {pub : String}
    {infos : List DataTrackInfo} (hpub : upds.lookup pub = some infos) (sid : DataTrackSid) :
    (∃ desc, (self.onSfuPublicationUpdates upds pubs order).1.descriptors.lookup
        sid = some desc ∧ desc.publisherIdentity = pub) ↔ sid ∈ infos.map DataTrackInfo.sid := by
  constructor
  · rintro ⟨_, hl, rfl⟩
    -- what is not listed is dropped by the second pass
    by_contra hnot
    exact (lookup_update.mp hl).2 (dropped_iff.mpr ⟨infos, hpub, hnot⟩)
  · intro hsid
    obtain ⟨info, hinfo, rfl⟩ := mem_map.mp hsid
    have hm : (pub, info) ∈ tracksOf upds := mem_tracksOf.mpr ⟨infos, hpub, hinfo⟩
    obtain ⟨desc, hl, hslot⟩ := @update_listed π self upds pubs order _ h horderly hm
    exact ⟨desc, hl, (Prod.mk.inj hslot).1⟩

/-- **Other publishers.** The descriptors of a publisher that is not in the update
are left alone. -/
theorem update_other (hpub : upds.lookup desc.publisherIdentity = none) :
    (self.onSfuPublicationUpdates upds pubs order).1.descriptors.lookup sid = some desc ↔
      self.descriptors.lookup sid = some desc := by
  -- no listed track is in the slot, so the first pass leaves it
  have hslot : desc.slot ∉ (tracksOf upds).map slotOf := by
    intro hin
    obtain ⟨_, hm, heq⟩ := mem_map.mp hin
    obtain ⟨_, hl, -⟩ := mem_tracksOf.mp hm
    rw [(Prod.mk.inj heq).1, hpub] at hl
    cases hl
  -- and the second pass only looks at the publishers listed
  have hkept : ¬ Dropped (participantToSids upds pubs) sid desc := by
    rw [dropped_iff]
    rintro ⟨_, hl, -⟩
    cases hpub.symm.trans hl
  have hf := @detectAll_other_slot π self (tracksOf upds) order (h.listed horderly) _ hslot sid desc
  rw [lookup_update, and_iff_left hkept]
  exact ⟨fun hl => (hf.mp ⟨hl, rfl⟩).1, fun hl => (hf.mpr ⟨hl, rfl⟩).1⟩

/-- **Tracks carried on.** A descriptor that a listed track carries on is there
afterwards, under the listed SID and otherwise the same. -/
theorem update_carried (hm : track ∈ tracksOf upds) (hcar : self.Carries track sid desc) :
    (self.onSfuPublicationUpdates upds pubs order).1.descriptors.lookup track.2.sid =
      some (desc.withSid track.2.sid) := by
  obtain ⟨hl, hslot⟩ := (@detectAll_carried π self (tracksOf upds) track order
    (h.listed horderly) horderly.filed hm sid desc hcar track.2.sid _).mpr ⟨rfl, rfl⟩
  exact lookup_update.mpr ⟨hl, not_dropped_of_listed hm hslot⟩

lemma dropped_after_detectAll_iff :
    ((state (detectPublished order) self (tracksOf upds)).descriptors.lookup sid = some desc ∧
        Dropped (participantToSids upds pubs) sid desc) ↔ self.descriptors.lookup sid = some desc ∧
        (∃ infos, upds.lookup desc.publisherIdentity = some infos) ∧
        ∀ listed ∈ tracksOf upds, ¬ self.Carries listed sid desc := by
  have hlisted := h.listed horderly
  constructor
  · rintro ⟨hl, hdrop⟩
    obtain ⟨infos, hinfos, -⟩ := dropped_iff.mp hdrop
    -- the slot decides where the descriptor comes from
    by_cases hslot : desc.slot ∈ (tracksOf upds).map slotOf
    · obtain ⟨listed, hm, hslot⟩ := mem_map.mp hslot
      have hsid : sid ≠ listed.2.sid := by
        rintro rfl
        exact not_dropped_of_listed hm hslot.symm hdrop
      by_cases hcar : ∃ sid desc, self.Carries listed sid desc
      · obtain ⟨_, _, hcar⟩ := hcar
        have heq := (detectAll_carried hlisted horderly.filed hm hcar sid desc).mp ⟨hl, hslot.symm⟩
        exact absurd heq.1 hsid
      · obtain ⟨_, hnew⟩ := @detectAll_new π self (tracksOf upds) listed order hlisted
          hm fun sid desc hc => hcar ⟨sid, desc, hc⟩
        have hbef : self.InSlot (slotOf listed) sid desc :=
          ((hnew sid desc).mp ⟨hl, hslot.symm⟩).resolve_left fun heq => hsid heq.1
        refine ⟨hbef.1, ⟨infos, hinfos⟩, fun other hot hc => ?_⟩
        -- two listed tracks of one slot are the same
        have hsm : other = listed := inj_on_of_nodup_map hlisted.slots hot hm
          (hc.1.2.symm.trans hbef.2)
        exact hcar ⟨sid, desc, hsm ▸ hc⟩
    · have hbef := (detectAll_other_slot hlisted hslot sid desc).mp ⟨hl, rfl⟩
      refine ⟨hbef.1, ⟨infos, hinfos⟩, fun listed hm hc => ?_⟩
      exact hslot (mem_map.mpr ⟨listed, hm, hc.1.2.symm⟩)
  · rintro ⟨hl, ⟨infos, hinfos⟩, hnot⟩
    have hdrop : Dropped (participantToSids upds pubs) sid desc := by
      refine dropped_iff.mpr ⟨infos, hinfos, fun hsid => ?_⟩
      obtain ⟨info, hinfo, rfl⟩ := mem_map.mp hsid
      have hm : (desc.publisherIdentity, info) ∈ tracksOf upds :=
        mem_tracksOf.mpr ⟨infos, hinfos, hinfo⟩
      exact hnot _ hm ⟨⟨hl, h.known _ hm desc hl⟩, .inl rfl⟩
    refine ⟨?_, hdrop⟩
    by_cases hslot : desc.slot ∈ (tracksOf upds).map slotOf
    · obtain ⟨listed, hm, hslot⟩ := mem_map.mp hslot
      have hin : self.InSlot (slotOf listed) sid desc := ⟨hl, hslot.symm⟩
      obtain ⟨_, hnew⟩ := @detectAll_new π self (tracksOf upds) listed order hlisted
        hm fun sid' desc' hc => by
          -- the slot holds one descriptor only, and that one is not carried on
          obtain rfl := horderly.unique _ hin hc.1
          obtain rfl := Option.mem_unique hl hc.1.1
          exact hnot listed hm hc
      exact ((hnew sid desc).mpr (.inr hin)).1
    · exact ((detectAll_other_slot hlisted hslot sid desc).mpr ⟨hl, rfl⟩).1

/-- **Announcements.** The listed tracks that carry nothing on are announced. -/
theorem announced_update : (announced (self.onSfuPublicationUpdates upds pubs order).2).Nodup ∧
      ∀ listed, listed ∈ announced (self.onSfuPublicationUpdates upds pubs order).2 ↔
        listed ∈ tracksOf upds ∧ ∀ sid desc, ¬ self.Carries listed sid desc := by
  -- the second pass announces nothing
  have heq : announced (self.onSfuPublicationUpdates upds pubs order).2 =
      announced (outputs (detectPublished order) self (tracksOf upds)) := by
    let after := state (detectPublished order) self (tracksOf upds)
    have hsecond := (@dropAll_spec π order after (participantToSids upds pubs)).2.2.2
    calc announced (self.onSfuPublicationUpdates upds pubs order).2
        = announced (outputs (detectPublished order) self (tracksOf upds)) ++
            announced (outputs (detectUnpublished order) after
              (participantToSids upds pubs)) := announced_append ..
      _ = announced (outputs (detectPublished order) self (tracksOf upds)) ++ [] := by
          rw [hsecond]
      _ = announced (outputs (detectPublished order) self (tracksOf upds)) := append_nil _
  obtain ⟨hsublist, hm⟩ := @announced_detectAll π self (tracksOf upds) order (h.listed horderly)
  rw [heq]
  refine ⟨List.Nodup.sublist hsublist ?_, hm⟩
  exact h.slots.of_map

/-- **Withdrawals.** What no listed track carries on, of the publishers in the
update, is withdrawn. -/
theorem withdrawn_update : (withdrawn (self.onSfuPublicationUpdates upds pubs order).2).Nodup ∧
      ∀ sid, sid ∈ withdrawn (self.onSfuPublicationUpdates upds pubs order).2 ↔
        ∃ desc, self.descriptors.lookup sid = some desc ∧
          (∃ infos, upds.lookup desc.publisherIdentity = some infos) ∧
          ∀ listed ∈ tracksOf upds, ¬ self.Carries listed sid desc := by
  let after := state (detectPublished order) self (tracksOf upds)
  have heq : withdrawn (self.onSfuPublicationUpdates upds pubs order).2 =
      withdrawn (outputs (detectUnpublished order) after (participantToSids upds pubs)) := by
    -- and the first one withdraws nothing
    have hf : withdrawn (outputs (detectPublished order) self (tracksOf upds)) = [] := by
      refine filterMap_eq_nil_iff.mpr fun effect hm => ?_
      have hnot := (effects_detectAll (h.listed horderly) hm).1
      split
      next sid => exact absurd rfl (hnot sid)
      next => rfl
    calc withdrawn (self.onSfuPublicationUpdates upds pubs order).2
        = withdrawn (outputs (detectPublished order) self (tracksOf upds)) ++
            withdrawn (outputs (detectUnpublished order) after
              (participantToSids upds pubs)) := withdrawn_append ..
      _ = withdrawn (outputs (detectUnpublished order) after
            (participantToSids upds pubs)) := by rw [hf, nil_append]
  obtain ⟨-, hnodup, hm, -⟩ := @dropAll_spec π order after (participantToSids upds pubs)
  rw [heq]
  refine ⟨hnodup, fun sid => ?_⟩
  rw [hm]
  exact exists_congr fun desc => dropped_after_detectAll_iff h horderly

lemma not_carried_of_published_mem {tr : TrackId} {value : Bool} (hm : Effect.published tr value ∈
      (self.onSfuPublicationUpdates upds pubs order).2) :
    ∃ sid desc, self.descriptors.lookup sid = some desc ∧ desc.track = tr ∧
      ∀ listed ∈ tracksOf upds, ¬ self.Carries listed sid desc := by
  rcases mem_append.mp hm with hf | hsecond
  · exact absurd rfl ((effects_detectAll (h.listed horderly) hf).2 tr value)
  · obtain ⟨sid, desc, hl, hdrop, htr⟩ := dropped_of_published_mem hsecond
    obtain ⟨hbef, -, hnot⟩ := (dropped_after_detectAll_iff h horderly).mp ⟨hl, hdrop⟩
    exact ⟨sid, desc, hbef, htr, hnot⟩

end

end

lemma Manager.Orderly.update (horderly : self.Orderly) (h : self.WellListed upds) :
    (self.onSfuPublicationUpdates upds pubs order).1.Orderly := by
  refine ⟨fun sid desc hl => ?_, fun slot sid desc sid' desc' hin hin' => ?_⟩
  · exact detectAll_filed (h.listed horderly) horderly.filed sid desc (lookup_update.mp hl).1
  · cases hpub : upds.lookup slot.1 with
    | none =>
      -- of a publisher that is not listed nothing changes
      have hbef : ∀ {sid desc},
          (self.onSfuPublicationUpdates upds pubs order).1.InSlot slot sid desc →
            self.InSlot slot sid desc := by
        rintro _ _ ⟨hl, rfl⟩
        exact ⟨(update_other h horderly hpub).mp hl, rfl⟩
      exact horderly.unique slot (hbef hin) (hbef hin')
    | some infos =>
      -- both are listed, for the same publisher and handle
      have hlisted : ∀ {sid desc},
          (self.onSfuPublicationUpdates upds pubs order).1.InSlot slot sid desc →
            ∃ listed ∈ tracksOf upds, slotOf listed = slot ∧ listed.2.sid = sid := by
        rintro sid desc ⟨hl, rfl⟩
        obtain ⟨info, hinfo, rfl⟩ := mem_map.mp
          ((update_sids h horderly hpub sid).mp ⟨desc, hl, rfl⟩)
        have hm : (desc.publisherIdentity, info) ∈ tracksOf upds :=
          mem_tracksOf.mpr ⟨infos, hpub, hinfo⟩
        obtain ⟨_, hfound, hslot⟩ := @update_listed π self upds pubs order _ h horderly hm
        obtain rfl := Option.mem_unique hl hfound
        exact ⟨_, hm, hslot.symm, rfl⟩
      obtain ⟨_, hm, hslot, rfl⟩ := hlisted hin
      obtain ⟨_, hm', hslot', rfl⟩ := hlisted hin'
      rw [inj_on_of_nodup_map h.slots hm' hm (hslot'.trans hslot.symm)]

lemma running_update (h : self.running) :
    (self.onSfuPublicationUpdates upds pubs order).1.running := by
  have hdetect : ∀ (s : Manager π) listed, s.running →
      (detectPublished order s listed).1.running := by
    intro s _ hs
    unfold detectPublished
    split
    next => exact hs
    next =>
      split
      next _ hres =>
        obtain ⟨_, _, _, _, _, _, _, rfl⟩ := handleSidReassigned_eq_some hres
        exact hs
      next =>
        unfold handleTrackPublished
        split <;> exact hs
  have hdrop : ∀ (s : Manager π) sid, s.running → (s.handleTrackUnpublished sid).1.running := by
    intro s _ hs
    unfold handleTrackUnpublished
    split <;> exact hs
  -- the passes are loops, the second one a loop of loops
  refine state_invariant (P := fun s : Manager π => s.running) ?_ _ fun s pub _ hs => ?_
  · exact state_invariant (P := fun s : Manager π => s.running) h _
      fun s listed _ => hdetect s listed
  · exact state_invariant (P := fun s : Manager π => s.running) hs _ fun s sid _ => hdrop s sid

/-- **Repetition.** An update whose tracks are known and whose publishers have no
others does nothing. -/
theorem update_of_known (hkn : ∀ listed ∈ tracksOf upds,
      ∃ desc, self.descriptors.lookup listed.2.sid = some desc)
    (honly : ∀ sid desc, self.descriptors.lookup sid = some desc →
      ¬ Dropped (participantToSids upds pubs) sid desc) :
    self.onSfuPublicationUpdates upds pubs order = (self, []) := by
  -- every listed track is passed over
  have hf : run (detectPublished order) self (tracksOf upds) = (self, []) := by
    refine run_eq_self fun listed hm => ?_
    obtain ⟨_, hl⟩ := hkn listed hm
    rw [detectPublished, hl]
    rfl
  have hsecond : run (detectUnpublished order) self (participantToSids upds pubs) = (self, []) := by
    refine run_eq_self fun pub hm => ?_
    -- no publisher has a track that is not listed
    have hnil : self.unpublishedSids order pub.1 pub.2 = [] := by
      refine eq_nil_iff_forall_not_mem.mpr fun sid hin => ?_
      obtain ⟨desc, hl, hdrop⟩ := mem_unpublishedSids.mp hin
      exact honly sid desc hl ⟨pub, hm, hdrop⟩
    rw [detectUnpublished, hnil]
    rfl
  unfold onSfuPublicationUpdates
  rw [hf]
  dsimp only
  rw [hsecond]
  rfl

end Update

/-! ### Descriptors in order along a run -/

variable {m m' : Manager π} {effs : List (Effect π)}

section

variable (h : m.Orderly)
include h

lemma Manager.Orderly.of_kept (hkept : ∀ sid desc', m'.descriptors.lookup sid = some desc' →
      ∃ desc, m.descriptors.lookup sid = some desc ∧ desc'.info = desc.info ∧
        desc'.publisherIdentity = desc.publisherIdentity) : m'.Orderly := by
  refine ⟨fun sid desc' hl => ?_, fun slot sid d' sid' e' hin hin' => ?_⟩
  · obtain ⟨desc, hbef, hinfo, -⟩ := hkept sid desc' hl
    rw [hinfo]
    exact h.filed sid desc hbef
  · -- two descriptors in a slot were in it before
    obtain ⟨d, hd, hinfo, hpub⟩ := hkept sid d' hin.1
    obtain ⟨e, he, hinfo', hpublisher'⟩ := hkept sid' e' hin'.1
    refine h.unique slot ⟨hd, ?_⟩ ⟨he, ?_⟩
    · rw [← hin.2, Descriptor.slot, Descriptor.slot, hinfo, hpub]
    · rw [← hin'.2, Descriptor.slot, Descriptor.slot, hinfo', hpublisher']

lemma Manager.Orderly.setDescriptor {sid desc desc'} (hl : m.descriptors.lookup sid = some desc)
    (heq : m'.descriptors = (m.setDescriptor sid desc').descriptors)
    (hinfo : desc'.info = desc.info) (hpub : desc'.publisherIdentity = desc.publisherIdentity) :
    m'.Orderly := by
  refine h.of_kept fun sid' d hd => ?_
  rcases AList.of_lookup_insert (heq ▸ hd) with ⟨rfl, rfl⟩ | ⟨-, hd⟩
  · exact ⟨desc, hl, hinfo, hpub⟩
  · exact ⟨d, hd, rfl, rfl⟩

lemma Manager.Orderly.request (hrequest : Request m effs m') : m'.Orderly := by
  cases hrequest with
  | refuse | attach => exact h
  | request hl | join hl | unsubscribe hl => exact h.setDescriptor hl rfl rfl rfl

lemma Manager.Orderly.assignment (hassign : Assignment m effs m') : m'.Orderly := by
  cases hassign with
  | rehandle hl | activate hl => exact h.setDescriptor hl rfl rfl rfl

end

def Manager.UpdatesListed (self : Manager π) (event : InputEvent) : Prop :=
  ∀ updates publishers order, event = .sfuPublicationUpdates updates publishers order →
    self.WellListed updates

lemma Manager.Orderly.step {s : Manager π} {event : InputEvent} (h : s.Orderly)
    (hlisted : s.UpdatesListed event) : (s.step event).1.Orderly := by
  have hchain := s.step_chain event
  by_cases hrun : s.running
  · unfold Manager.step at hchain ⊢
    rw [if_pos hrun] at hchain ⊢
    cases event with
    | subscribeRequest | unsubscribeRequest => exact hchain.invariant h fun _ _ _ => request
    | sfuSubscriberHandles => exact hchain.invariant h fun _ _ _ => assignment
    | sfuPublicationUpdates upds pubs order =>
      -- the only event that files descriptors
      exact h.update (hlisted upds pubs order rfl)
    | setPipelineOptions =>
      dsimp only [onSetPipelineOptions]
      split
      next => exact h
      next _ hl => exact h.setDescriptor hl rfl rfl rfl
    | packetReceived =>
      dsimp only [onPacketReceived]
      split
      · split <;> exact h
      · exact h
    | resendSubscriptionUpdates => exact h
    | shutdown => exact h.of_kept nofun
  · unfold Manager.step
    rw [if_neg hrun]
    exact h

lemma orderly_new (decryptionProvider : Option π) : (Manager.new decryptionProvider).Orderly :=
  ⟨nofun, fun _ _ _ _ _ hin => absurd hin.1 (by simp [new])⟩

/-! ### Reconciliation -/

/-- What an update makes of the manager, with the effects.

* `sids` — of a publisher in the update, the descriptors are under the SIDs
  listed.
* `others` — descriptors of other publishers are as before.
* `new` — the tracks announced are the listed ones that carry nothing on, each
  once.
* `gone` — the SIDs withdrawn are those of the publishers in the update that no
  listed track carries on, each once.
* `carried` — a descriptor that a listed track carries on is under the listed SID
  and otherwise as before, with its subscription; its track does not end.
* `again` — the same update, in whatever order it is gone through, does nothing
  now. -/
structure Reconciles (manager : Manager π) (updates : Map String (List DataTrackInfo))
    (result : Manager π × List (Effect π)) : Prop where
  sids : ∀ publisher infos, updates.lookup publisher = some infos → ∀ sid,
    (∃ descriptor, result.1.descriptors.lookup sid = some descriptor ∧
      descriptor.publisherIdentity = publisher) ↔ sid ∈ infos.map DataTrackInfo.sid
  others : ∀ sid descriptor, updates.lookup descriptor.publisherIdentity = none →
    (result.1.descriptors.lookup sid = some descriptor ↔
      manager.descriptors.lookup sid = some descriptor)
  new : (announced result.2).Nodup ∧ ∀ listed, listed ∈ announced result.2 ↔
    listed ∈ tracksOf updates ∧ ∀ sid descriptor, ¬ manager.Carries listed sid descriptor
  gone : (withdrawn result.2).Nodup ∧ ∀ sid, sid ∈ withdrawn result.2 ↔
    ∃ descriptor, manager.descriptors.lookup sid = some descriptor ∧
      (∃ infos, updates.lookup descriptor.publisherIdentity = some infos) ∧
      ∀ listed ∈ tracksOf updates, ¬ manager.Carries listed sid descriptor
  carried : ∀ listed ∈ tracksOf updates, ∀ sid descriptor, manager.Carries listed sid descriptor →
      result.1.descriptors.lookup listed.2.sid = some (descriptor.withSid listed.2.sid) ∧
        .published descriptor.track false ∉ result.2
  again : ∀ publishers order,
    result.1.step (.sfuPublicationUpdates updates publishers order) = (result.1, [])

lemma reconciles_update {s : Manager π} {log : List (Effect π)}
    {upds : Map String (List DataTrackInfo)} (h : s.WellListed upds) (horderly : s.Orderly)
    (hannounced : Announced log s) (hrun : s.running) (pubs order) :
    Reconciles s upds (s.step (.sfuPublicationUpdates upds pubs order)) := by
  have hstep : s.step (.sfuPublicationUpdates upds pubs order) =
      s.onSfuPublicationUpdates upds pubs order := by
    rw [step, if_pos hrun]
  rw [hstep]
  refine ⟨fun pub infos => update_sids h horderly, fun sid desc => update_other h
    horderly, announced_update h horderly, withdrawn_update h horderly, ?_, ?_⟩
  · intro listed hm _ _ hcar
    refine ⟨update_carried h horderly hm hcar, fun he => ?_⟩
    obtain ⟨_, _, hl, htr, hnot⟩ := not_carried_of_published_mem h horderly he
    -- the track that has ended has no other descriptor
    obtain rfl := hannounced.sid_unique hcar.1.1 hl htr
    obtain rfl := Option.mem_unique hl hcar.1.1
    exact hnot listed hm hcar
  · intro _ _
    -- everything listed is known now and nothing else is left of its publisher
    rw [step, if_pos (running_update hrun)]
    refine update_of_known (fun listed hm => ?_) fun sid desc hl hdrop => ?_
    · obtain ⟨desc, hin⟩ := @update_listed π s upds pubs order listed h horderly hm
      exact ⟨desc, hin.1⟩
    · obtain ⟨_, hpub, hnot⟩ := dropped_iff.mp hdrop
      exact hnot ((update_sids h horderly hpub sid).mp ⟨desc, hl, rfl⟩)

/-- **Reconciliation.** Along a run whose updates all make sense, every update reconciles the
descriptors with what is listed. Tracks are announced in the order of their numbers, each once; and
a SID is withdrawn right after the track that goes by it has ended, which was announced and had not
ended before. -/
theorem reconciliation (decryptionProvider : Option π) (events : List InputEvent)
    (h : Along Manager.step Manager.UpdatesListed (Manager.new decryptionProvider) events) :
    Announced (outputs Manager.step (Manager.new decryptionProvider) events)
        (state Manager.step (Manager.new decryptionProvider) events) ∧
      ∀ pre updates publishers order post,
        events = pre ++ .sfuPublicationUpdates updates publishers order :: post →
        let self := state Manager.step (Manager.new decryptionProvider) pre
        self.running →
          Reconciles self updates
            (self.step (.sfuPublicationUpdates updates publishers order)) := by
  refine ⟨announced_run decryptionProvider events, ?_⟩
  rintro pre updates publishers order post rfl self hrun
  -- the updates so far made sense, so the descriptors are in order
  have horderly : self.Orderly :=
    h.append_left.state_of_step (orderly_new decryptionProvider) fun _ _ => Manager.Orderly.step
  have hlisted := along_iff_forall.mp h pre _ post rfl updates publishers order rfl
  exact reconciles_update hlisted horderly (announced_run decryptionProvider pre) hrun publishers
    order

def reconnect : List InputEvent :=
  twoSubscriptions ++
    [.sfuPublicationUpdates (.ofList [("alice", [movedInfoA, infoB])]) .asListed .asListed]

/-- Both updates make sense, and the moved track keeps its active subscription. -/
theorem reconciliation_reconnect :
    (state Manager.step (Manager.new (none : Option Unit)) reconnect).descriptors.lookup
      movedInfoA.sid = some ⟨0, movedInfoA, "alice", .active ⟨1, by decide⟩ 0, 1⟩ := by
  let self := state step (new (none : Option Unit)) twoSubscriptions
  let updates : Map String (List DataTrackInfo) := .ofList [("alice", [movedInfoA, infoB])]
  have hfirst : (new (none : Option Unit)).WellListed (.ofList [("alice", [infoA, infoB])]) := by
    refine ⟨by decide +kernel, by decide +kernel, ?_⟩
    intro _ _ _ hl
    cases hl
  have hsecond : self.WellListed updates := by
    have hknown : ∀ listed ∈ tracksOf updates,
        ∀ d ∈ self.descriptors.lookup listed.2.sid, d.slot = slotOf listed := by
      decide +kernel
    exact ⟨by decide +kernel, by decide +kernel, hknown⟩
  -- the other three events are no updates
  have halong : Along step Manager.UpdatesListed (new (none : Option Unit)) reconnect := by
    refine ⟨?_, ?_, ?_, ?_, ?_, trivial⟩
    · intro _ _ _ heq
      cases heq
      exact hfirst
    · exact nofun
    · exact nofun
    · exact nofun
    · intro _ _ _ heq
      cases heq
      exact hsecond
  have hreconciles := (reconciliation none reconnect halong).2 twoSubscriptions updates .asListed
    .asListed [] rfl (by decide +kernel)
  -- handle, name and encryption are those of the track before the reconnect
  have hcarries : self.Carries ("alice", movedInfoA) infoA.sid
      ⟨0, infoA, "alice", .active ⟨1, by decide⟩ 0, 1⟩ :=
    ⟨⟨by decide +kernel, by decide +kernel⟩, .inr ⟨by decide +kernel, by decide +kernel⟩⟩
  have ha := (hreconciles.carried _ (by decide +kernel) _ _ hcarries).1
  exact ha

def exchangedHandles : Map String (List DataTrackInfo) :=
  .ofList [("alice", [{ infoA with sid := infoB.sid }, { infoB with sid := movedInfoA.sid }])]

def renamed : Map String (List DataTrackInfo) :=
  .ofList [("alice", [{ movedInfoA with name := "renamed" }, infoB])]

/-- **Where reconciliation fails.** In both updates the SIDs and the handles of the publisher are
distinct, and known SIDs are its own. In the first one the descriptor of a listed SID is moved away.
In the second a track that keeps its publisher and its handle is announced again and withdrawn. -/
theorem reconciliation_fails :
    let self := state Manager.step (Manager.new (none : Option Unit)) (twoSubscriptions.take 1)
    let exchange := self.step (.sfuPublicationUpdates exchangedHandles .asListed .asListed)
    let rename := self.step (.sfuPublicationUpdates renamed .asListed .asListed)
    ((tracksOf exchangedHandles).map fun listed => listed.2.sid) = [infoB.sid, movedInfoA.sid] ∧
      ((tracksOf exchangedHandles).map slotOf).Nodup ∧
      (∀ listed ∈ tracksOf exchangedHandles, ∀ descriptor ∈ self.descriptors.lookup listed.2.sid,
          descriptor.publisherIdentity = listed.1) ∧
      exchange.1.descriptors.lookup infoB.sid = none ∧
      self.WellListed renamed ∧
      announced rename.2 = [("alice", { movedInfoA with name := "renamed" })] ∧
      movedInfoA.pubHandle = infoA.pubHandle ∧
      withdrawn rename.2 = [infoA.sid] := by
  intro self _ _
  have hknown : ∀ listed ∈ tracksOf renamed,
      ∀ descriptor ∈ self.descriptors.lookup listed.2.sid, descriptor.slot = slotOf listed := by
    decide +kernel
  refine ⟨by decide +kernel, by decide +kernel, by decide +kernel, by decide +kernel,
    ⟨by decide +kernel, by decide +kernel, hknown⟩, by decide +kernel, by decide +kernel,
    by decide +kernel⟩

end LiveKit.DataTrack.Remote
