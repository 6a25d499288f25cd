import LiveKitRust.DataTrack.Remote.Routing

/-!
# What the SFU knows of subscriptions

The SFU learns from the manager's output which SIDs are subscribed to: the last update it was sent
for a SID tells. A SID enters the manager's map when its track is published or when a track moves to
it; either leaves a mark in the log (`Effect.keys`), and only the updates after that mark belong to
the descriptor now under the SID.

`View` folds the log into what matters for one SID. Every transition changes the view of a SID and
its descriptor together in one of three ways (`Change`), and each keeps the two in agreement
(`Agrees.change`).
-/

open Machine List

namespace LiveKit.DataTrack.Remote

variable {π : Type}

/-! ### The view of a SID -/

variable (sid : DataTrackSid)

def Effect.keys : Effect π → Prop
  | .output (.trackPublished track) => track.info.sid = sid
  | .sidWritten _ newSid => newSid = sid
  | _ => False

instance (sid : DataTrackSid) : DecidablePred (Effect.keys (π := π) sid) := fun effect => by
  unfold Effect.keys
  split <;> infer_instance

structure View where
  keyings : ℕ := 0
  sinceKeyed : Option Bool := none
  ever : Option Bool := none
  deriving DecidableEq

def View.add (view : View) (effect : Effect π) : View :=
  match effect with
  | .output (.sfuUpdateSubscription sid' subscribe) =>
    if sid' = sid then { view with sinceKeyed := some subscribe, ever := some subscribe } else view
  | effect =>
    if effect.keys sid then { view with keyings := view.keyings + 1, sinceKeyed := none } else view

def viewOf (log : List (Effect π)) : View := log.foldl (View.add sid) {}

def Effect.Silent : Effect π → Prop
  | .output (.sfuUpdateSubscription sid' _) => sid' ≠ sid
  | .output (.trackPublished track) => track.info.sid ≠ sid
  | .sidWritten _ newSid => newSid ≠ sid
  | _ => True

variable {sid} {s self' : Manager π} {eff : Effect π} {effs : List (Effect π)}

lemma View.add_of_silent (h : eff.Silent sid) (view : View) : view.add sid eff = view := by
  cases eff with
  | output ev =>
    cases ev with
    | sfuUpdateSubscription | trackPublished => exact if_neg h
    | trackUnpublished => rfl
  | sidWritten => exact if_neg h
  | result _ result => rfl
  | published => rfl
  | spawned => rfl
  | packet _ packet => rfl

lemma View.add_of_keys (h : eff.keys sid) (view : View) :
    view.add sid eff = { view with keyings := view.keyings + 1, sinceKeyed := none } := by
  cases eff with
  | output ev =>
    cases ev with
    | sfuUpdateSubscription | trackUnpublished => exact absurd h not_false
    | trackPublished => exact if_pos h
  | sidWritten => exact if_pos h
  | result | published | spawned | packet => exact absurd h not_false

lemma foldl_of_silent (h : ∀ eff ∈ effs, eff.Silent sid) (view : View) :
    effs.foldl (View.add sid) view = view := by
  induction effs with
  | nil => rfl
  | cons eff _ ih =>
    rw [foldl_cons, View.add_of_silent (h eff (.head _))]
    exact ih fun e he => h e (mem_cons_of_mem eff he)

/-! ### Views and descriptors change together -/

inductive Change (sid : DataTrackSid) : Option Descriptor → List (Effect π) →
    Option Descriptor → Prop
  /-- Nothing is said, and a descriptor is subscribed to if it was. -/
  | keep {old new effects} (h_silent : ∀ effect ∈ effects, effect.Silent sid)
      (h_new : ∀ descriptor', new = some descriptor' →
        ∃ descriptor, old = some descriptor ∧ (descriptor'.Tracked ↔ descriptor.Tracked)) :
      Change sid old effects new
  | update {descriptor descriptor'} {subscribe : Bool} (h_new : descriptor'.Tracked ↔ subscribe) :
      Change sid (some descriptor) [.output (.sfuUpdateSubscription sid subscribe)]
        (some descriptor')
  | key {effect rest descriptor'} (h_key : effect.keys sid)
      (h_rest : rest = Manager.resubscribe sid descriptor'.subscription) :
      Change sid none (effect :: rest) (some descriptor')

lemma Change.same {old new} (hsi : ∀ eff ∈ effs, eff.Silent sid) (heq : new = old) :
    Change sid old effs new :=
  .keep hsi fun d' hnew => ⟨d', heq ▸ hnew, Iff.rfl⟩

variable {sid' : DataTrackSid} {d d' : Descriptor}

lemma Change.setDescriptor (hsi : sid' ≠ sid → ∀ eff ∈ effs, eff.Silent sid)
    (htouched : Change sid' (s.descriptors.lookup sid') effs (some d')) :
    Change sid (s.descriptors.lookup sid) effs
      ((s.setDescriptor sid' d').descriptors.lookup sid) := by
  rw [Manager.lookup_setDescriptor]
  by_cases heq : sid = sid'
  · rw [if_pos heq, heq]
    exact htouched
  · rw [if_neg heq]
    exact .same (hsi (Ne.symm heq)) rfl

lemma Change.replace (hl : s.descriptors.lookup sid' = some d) (hsub : d'.Tracked ↔ d.Tracked)
    (hsi : ∀ sid, ∀ eff ∈ effs, eff.Silent sid) :
    Change sid (s.descriptors.lookup sid) effs
      ((s.setDescriptor sid' d').descriptors.lookup sid) := by
  refine .setDescriptor (fun _ => hsi sid) ?_
  rw [hl]
  refine .keep (hsi sid') fun new hnew => ⟨d, rfl, ?_⟩
  rw [← Option.some.inj hnew]
  exact hsub

/-- **Requests** change view and descriptor together. -/
theorem Request.change (h : Request s effs self') (sid : DataTrackSid) :
    Change sid (s.descriptors.lookup sid) effs (self'.descriptors.lookup sid) := by
  cases h with
  | refuse | attach => exact .same (by simp [Effect.Silent]) rfl
  | request hl =>
    refine .setDescriptor (by simp [Effect.Silent]) ?_
    rw [hl]
    exact .update (by simp [Descriptor.Tracked])
  | join hl hsub =>
    exact .replace hl (by simp [Descriptor.Tracked, hsub]) (by simp)
  | unsubscribe hl =>
    refine @Change.setDescriptor π _ s _ _ _ (by simp [Effect.Silent]) ?_
    rw [hl]
    exact .update (by simp [Descriptor.Tracked])

/-- So do **moves**. -/
lemma Move.change (h : Move s effs self') (sid) :
    Change sid (s.descriptors.lookup sid) effs (self'.descriptors.lookup sid) := by
  cases h with
  | deliver => exact .same (by simp [Effect.Silent]) rfl
  | publish hl =>
    refine @Change.setDescriptor π _ s _ _ _ (by simp [Effect.Silent]) ?_
    rw [hl]
    exact .key rfl rfl
  | reassign hl hnew =>
    rename_i oldSid newSid d
    rw [AList.lookup_insert_ite]
    -- at the new SID the descriptor is new, at the old one it is gone
    by_cases heq : sid = newSid
    · subst heq
      rw [if_pos rfl, hnew]
      exact .key rfl rfl
    · rw [if_neg heq, AList.lookup_erase_ite]
      have hsi : ∀ eff ∈ (.sidWritten d.track newSid ::
          Manager.resubscribe newSid d.subscription : List (Effect π)),
          eff.Silent sid := by
        refine forall_mem_cons.mpr ⟨Ne.symm heq, ?_⟩
        unfold Manager.resubscribe
        split
        · nofun
        all_goals exact forall_mem_singleton.mpr (Ne.symm heq)
      split
      next => exact .keep hsi (by simp)
      next => exact .same hsi rfl
  | unpublish hl =>
    rw [AList.lookup_erase_ite]
    split
    next => exact .keep (by simp [Effect.Silent]) (by simp)
    next => exact .same (by simp [Effect.Silent]) rfl
  | configure hl => exact .replace hl (by simp [Descriptor.Tracked]) (by simp)
  | resend hl hsub =>
    rename_i sid' d
    -- only a subscribed track is told to the SFU again
    by_cases heq : sid = sid'
    · subst heq
      rw [hl]
      exact .update (by simp [hsub])
    · exact .same (by simpa [Effect.Silent] using Ne.symm heq) rfl
  | shutdown =>
    refine .keep (forall_mem_flatMap.mpr fun e _ => forall_mem_cons.mpr ⟨trivial, ?_⟩) (by simp)
    split
    · exact forall_mem_map.mpr fun _ _ => trivial
    · nofun

/-- And **assignments**. -/
lemma Assignment.change (h : Assignment s effs self') (sid) :
    Change sid (s.descriptors.lookup sid) effs (self'.descriptors.lookup sid) := by
  cases h with
  | rehandle hl hsub =>
    exact @Change.replace π _ s _ _ _ _ hl (by simp [Descriptor.Tracked, hsub]) (by simp)
  | activate hl hsub =>
    exact @Change.replace π _ s _ _ _ _ hl (by simp [Descriptor.Tracked, hsub])
      (by simp [Effect.Silent])

/-! ### Agreement -/

/-- The last update since the SID was keyed is that of the descriptor, and as long as it was keyed
at most once there is no other. -/
structure Agrees (view : View) (descriptor : Option Descriptor) : Prop where
  tracked : ∀ d, descriptor = some d → (view.sinceKeyed = some true ↔ d.Tracked)
  unkeyed : view.keyings = 0 → descriptor = none ∧ view.ever = none
  once : view.keyings ≤ 1 → view.ever = view.sinceKeyed

lemma foldl_resubscribe (sub view) :
    (Manager.resubscribe sid sub : List (Effect π)).foldl (View.add sid) view =
      if sub = .none then view
      else { view with sinceKeyed := some true, ever := some true } := by
  cases sub with
  | none => rfl
  | pending | active => exact if_pos rfl

/-- **Agreement is kept.** -/
theorem Agrees.change {view : View} {old new : Option Descriptor} (h : Agrees view old)
    (hchange : Change sid old effs new) :
    Agrees (effs.foldl (View.add sid) view) new := by
  cases hchange with
  | keep hsi hnew =>
    -- the view stays, and so does what it says of the descriptor
    rw [foldl_of_silent hsi]
    refine ⟨fun d hd => ?_, fun hzero => ?_, h.once⟩
    · obtain ⟨d', hold, hiff⟩ := hnew d hd
      rw [hiff]
      exact h.tracked d' hold
    · refine ⟨?_, (h.unkeyed hzero).2⟩
      cases hd : new with
      | none => rfl
      | some d =>
        obtain ⟨_, hold, -⟩ := hnew d hd
        rw [(h.unkeyed hzero).1] at hold
        cases hold
  | update hnew =>
    rename_i desc' subscribe
    -- the last update is the one that has just been sent
    have hview : [(.output (.sfuUpdateSubscription sid subscribe) : Effect π)].foldl
        (View.add sid) view = { view with sinceKeyed := some subscribe, ever := some subscribe } :=
      if_pos rfl
    rw [hview]
    refine ⟨fun d hd => ?_, fun hzero => ?_, fun _ => rfl⟩
    · rw [← Option.some.inj hd, hnew]
      exact ⟨fun heq => Option.some.inj heq, fun heq => congrArg some heq⟩
    · exact absurd (h.unkeyed hzero).1 (by simp)
  | key hkey hr =>
    rename_i rest desc'
    -- the view starts anew with the descriptor
    rw [foldl_cons, View.add_of_keys hkey, hr, foldl_resubscribe]
    by_cases hsub : desc'.subscription = .none
    · -- a descriptor without a subscription: nothing was sent since
      rw [if_pos hsub]
      refine ⟨fun d hd => ?_, fun hzero => absurd hzero (Nat.succ_ne_zero _), fun honce => ?_⟩
      · rw [← Option.some.inj hd]
        exact iff_of_false (by simp) fun htr => htr hsub
      · exact (h.unkeyed (Nat.le_zero.mp (Nat.le_of_succ_le_succ honce))).2
    · rw [if_neg hsub]
      refine ⟨fun d hd => ?_, fun hzero => absurd hzero (Nat.succ_ne_zero _), fun _ => rfl⟩
      rw [← Option.some.inj hd]
      exact iff_of_true rfl hsub

namespace Manager

lemma agrees_run (prov : Option π) (evs sid) :
    Agrees (viewOf sid (outputs step (new prov) evs))
      ((state step (new prov) evs).descriptors.lookup sid) := by
  -- a transition of any kind changes the view and the descriptor of a SID together
  have hstep {log effs : List (Effect π)} {self self' : Manager π}
      (hchange : Change sid (self.descriptors.lookup sid) effs (self'.descriptors.lookup sid))
      (h : Agrees (viewOf sid log) (self.descriptors.lookup sid)) :
      Agrees (viewOf sid (log ++ effs)) (self'.descriptors.lookup sid) := by
    rw [viewOf, foldl_append]
    exact h.change hchange
  have hinit : Agrees (viewOf sid ([] : List (Effect π))) ((new prov).descriptors.lookup sid) :=
    ⟨by simp [new], fun _ => ⟨by simp [new], rfl⟩, fun _ => rfl⟩
  exact run_of_kinds
    (P := fun log (self : Manager π) => Agrees (viewOf sid log) (self.descriptors.lookup sid))
    hinit (fun h => hstep (h.change sid)) (fun h => hstep (h.change sid))
    (fun h => hstep (h.change sid)) evs

/-- **The SFU's view.** Along every run, the last update sent for a SID since its descriptor was put
there says `true` exactly for a pending or active descriptor, and there is none or it says `false`
exactly for one without a subscription. Where the SID was used only once, this is the last update at
all. -/
theorem subscription_view (decryptionProvider : Option π) (events : List InputEvent)
    (sid : DataTrackSid) (descriptor : Descriptor)
    (h : (state step (new decryptionProvider) events).descriptors.lookup sid = some descriptor) :
    let view := viewOf sid (outputs step (new decryptionProvider) events)
    (view.sinceKeyed = some true ↔
        (∃ resultTxs bufferSize, descriptor.subscription = .pending resultTxs bufferSize) ∨
          ∃ subHandle task, descriptor.subscription = .active subHandle task) ∧
      (view.sinceKeyed = none ∨ view.sinceKeyed = some false ↔ descriptor.subscription = .none) ∧
      (view.keyings ≤ 1 → view.ever = view.sinceKeyed) := by
  intro view
  have hagrees : Agrees view _ := agrees_run decryptionProvider events sid
  have htracked := hagrees.tracked descriptor h
  refine ⟨?_, ?_, hagrees.once⟩
  · rw [htracked, Descriptor.Tracked]
    cases descriptor.subscription <;> simp
  · -- the two cases are the complement of the first
    rw [← not_iff_not]
    change _ ↔ descriptor.Tracked
    rw [← htracked]
    cases view.sinceKeyed with
    | none => simp
    | some subscribe => cases subscribe <;> simp

def movedInfoA : DataTrackInfo := { infoA with sid := ⟨"DTR_C", by decide⟩ }

/-- An active subscription moves to a new SID: the SFU has been told about it. -/
theorem subscription_view_moved : let events := twoSubscriptions ++
      [.sfuPublicationUpdates (.ofList [("alice", [movedInfoA, infoB])]) .asListed .asListed]
    (viewOf movedInfoA.sid (outputs step (new (none : Option Unit)) events)).ever = some true := by
  intro events
  have hl : (state step (new (none : Option Unit)) events).descriptors.lookup movedInfoA.sid =
      some ⟨0, movedInfoA, "alice", .active ⟨1, by decide⟩ 0, 1⟩ := by decide +kernel
  have hkeyed : (viewOf movedInfoA.sid
      (outputs step (new (none : Option Unit)) events)).keyings ≤ 1 := by decide +kernel
  obtain ⟨htrue, -, honce⟩ := subscription_view none events movedInfoA.sid _ hl
  exact htrue.mpr (Or.inr ⟨_, _, rfl⟩)

end Manager

end LiveKit.DataTrack.Remote
