import LiveKitRust.DataTrack.Local.Finality

/-!
# Granted publications

When the SFU grants a publication, the track goes to the caller of `publish_track`, or the SFU is
asked to take it back. The caller may be gone by then. The grant is followed from the manager's
channel on:

* it makes a track, which passes from the manager to the forwarding task, to the future, to the
  caller (`Owned`); whoever drops it unpublishes it (`Finality`);
* or it meets no request any more, and the manager asks the SFU at once.

`Custody` is the invariant, `Heeded` the condition on a move, and `delivered_or_unpublished` the
result. `on_sfu_publish_response` asks the SFU to unpublish where it finds no descriptor, and does
nothing where it finds one whose channel is closed.
-/

open Machine List Option AList

namespace LiveKit.DataTrack.Local

variable {π : Type}

/-! ### Descriptors -/

namespace Manager

variable {m : Manager π} {view : View} {handle : Handle} {info : DataTrackInfo} {tr : TrackId}

lemma active_of_step {ev} (hrunning : m.running = true)
    (h : (m.step (view, ev)).1.descriptors.lookup handle = some (.active info tr)) :
    (∃ info', m.descriptors.lookup handle = some (.active info' tr)) ∧
        ev ≠ .unpublishRequest handle ∨ ∃ opts tx, (m.step (view, ev)).2 =
          [.spawned tr opts, .result tx (.ok ⟨tr, opts.info⟩)] ∧ opts.info.pubHandle = handle := by
  have hmv := m.step_move view hrunning ev
  generalize m.step (view, ev) = res at hmv h ⊢
  cases hmv with
  | answer _ _ hev => exact .inl ⟨⟨info, h⟩, hev handle⟩
  | request =>
    -- the new descriptor is a pending one
    rcases of_lookup_insert h with ⟨-, ⟨⟩⟩ | ⟨-, h⟩
    exact .inl ⟨⟨info, h⟩, nofun⟩
  | cancel | refuse | lapse => exact .inl ⟨⟨info, (of_lookup_erase h).2⟩, nofun⟩
  | @create handle' granted tx =>
    rcases of_lookup_insert h with ⟨rfl, heq⟩ | ⟨-, h⟩
    · cases heq
      exact .inr ⟨_, tx, rfl, rfl⟩
    · exact .inl ⟨⟨info, (of_lookup_erase h).2⟩, nofun⟩
  | @restore handle' info' updatedInfo track' hac =>
    rcases of_lookup_insert h with ⟨rfl, heq⟩ | ⟨-, h⟩
    · cases heq
      exact .inl ⟨⟨info', hac⟩, nofun⟩
    · exact .inl ⟨⟨info, (of_lookup_erase h).2⟩, nofun⟩
  | remove _ hev =>
    rw [removeDescriptor_fst] at h
    obtain ⟨hne, hl⟩ := of_lookup_erase h
    refine .inl ⟨⟨info, hl⟩, ?_⟩
    rcases hev with rfl | rfl
    · intro heq
      exact hne (InputEvent.unpublishRequest.inj heq).symm
    · nofun
  | republish order =>
    exact .inl ⟨⟨info, ((m.lookup_onRepublishTracks order handle _).mp h).1⟩, nofun⟩
  | shutdown => cases h

end Manager

/-! ### Owners -/

namespace Processes

def Owned (log : List (Occurrence π)) (self : Processes π) (localTrack : LocalDataTrack) : Prop :=
  ∃ resultTx, .result resultTx (.ok localTrack) ∈ self.pending ∨
    (∃ request, self.requests.lookup resultTx = some request ∧ request.Holds localTrack) ∨
    .returned resultTx (.ok localTrack) ∈ log

section RequestsMove

variable (s : Processes π)

lemma requestsMove_answer (tx res) : RequestsMove s none [] (s.answer tx res) := by
  unfold answer
  split
  next hl => exact ⟨rfl, .inr ⟨tx, _, _, hl, rfl, fun _ h => .inl (h.imp nofun id)⟩⟩
  next hl => exact ⟨rfl, .inr ⟨tx, _, _, hl, rfl, fun _ h => .inl (h.imp nofun nofun)⟩⟩
  next => exact ⟨discard_nextRequest _ _, .inl (discard_requests _ _)⟩

lemma requestsMove_take (ev queue) : RequestsMove s none [] (s.take ev queue) := by
  refine ⟨rfl, ?_⟩
  change spawnForwarder s.requests ev _ = _ ∨
    ∃ tx pre req, _ ∧ spawnForwarder s.requests ev _ = _ ∧ _
  unfold spawnForwarder
  split
  · split
    next hl => exact .inr ⟨_, _, _, hl, rfl, fun _ h => .inl (h.imp nofun id)⟩
    next => exact .inl rfl
  · exact .inl rfl

lemma requestsMove_manage : RequestsMove s none [] s.manage.1 := by
  have hmanages := s.manages
  generalize s.manage = result at hmanages ⊢
  cases hmanages with
  | takes => exact s.requestsMove_take _ _
  | @performs eff =>
    cases eff with
    | result tx result => exact s.requestsMove_answer tx result
    | _ => exact ⟨rfl, .inl rfl⟩
  | _ => exact ⟨rfl, .inl rfl⟩

end RequestsMove

section Owned

variable {log log' : List (Occurrence π)} {s after : Processes π} {loc : LocalDataTrack}

lemma unpublished_of_update (hs : Sound s) {tr cell'}
    (hcells : after.cells = s.cells.update tr fun cell => cell.send .unpublished)
    (hc' : after.cells.lookup tr = some cell') : cell'.state = .unpublished := by
  rw [hcells, Cells.lookup_update] at hc'
  obtain ⟨cell, hc, rfl⟩ := map_eq_some_iff.mp hc'
  rw [if_pos rfl]
  by_cases hn : cell.receivers = 0
  · have ht : cell.task ≠ .running := by
      intro ht
      exact TrackCell.receivers_ne_zero (by rw [ht]; decide) hn
    rw [TrackCell.send_of_no_receivers hn]
    exact hs.stopped tr cell hc ht
  · exact TrackCell.send_of_receivers hn _

variable {rest : List (Effect π)}

/-- Requests are numbered in the order in which they are made. -/
def Requested (self : Processes π) : Prop :=
  ∀ tx request, self.requests.lookup tx = some request → tx < self.nextRequest

section

variable (h : Owned log s loc)
include h

lemma Owned.mono (hp : ∀ tx, .result tx (.ok loc) ∈ s.pending →
      .result tx (.ok loc) ∈ after.pending)
    (hrequests : after.requests = s.requests) (hlog : log ⊆ log') : Owned log' after loc := by
  obtain ⟨tx, h | ⟨req, hl, h⟩ | h⟩ := h
  · exact ⟨tx, .inl (hp tx h)⟩
  · exact ⟨tx, .inr (.inl ⟨req, hrequests ▸ hl, h⟩)⟩
  · exact ⟨tx, .inr (.inr (hlog h))⟩

lemma Owned.change {tx req} (hp : ∀ tx', .result tx' (.ok loc) ∈ s.pending →
      .result tx' (.ok loc) ∈ after.pending ∨ req.Holds loc)
    (hrequests : after.requests = s.requests.insert tx req) (hlog : log ⊆ log')
    (hhere : ∀ pre, s.requests.lookup tx = some pre → pre.Holds loc →
      req.Holds loc ∨ Owned log' after loc) : Owned log' after loc := by
  have hnow : req.Holds loc → Owned log' after loc := by
    intro hholds
    refine ⟨tx, .inr (.inl ⟨req, ?_, hholds⟩)⟩
    rw [hrequests, lookup_insert]
  obtain ⟨tx', h | ⟨pre, hl, h⟩ | h⟩ := h
  · exact (hp tx' h).elim (fun hm => ⟨tx', .inl hm⟩) hnow
  · by_cases heq : tx' = tx
    · subst heq
      exact (hhere pre hl h).elim hnow id
    · refine ⟨tx', .inr (.inl ⟨pre, ?_, h⟩)⟩
      rw [hrequests, lookup_insert_ne heq]
      exact hl
  · exact ⟨tx', .inr (.inr (hlog h))⟩

lemma Owned.of_requestsMove {released new} (hmv : RequestsMove s released new after)
    (hp : ∀ tx, .result tx (.ok loc) ∈ s.pending → .result tx (.ok loc) ∈ after.pending) :
    Owned (log ++ new) after loc ∨ released = some loc.track := by
  obtain ⟨-, hsm | ⟨tx, _, _, hbef, hinsert, hholds⟩⟩ := hmv
  · exact .inl (h.mono hp hsm (subset_append_left ..))
  · by_cases hreleased : released = some loc.track
    · exact .inr hreleased
    refine .inl (h.change (fun _ hm => .inl (hp _ hm)) hinsert (subset_append_left ..)
      fun before' hbefore' hhad => ?_)
    obtain rfl := mem_unique hbef hbefore'
    rcases hholds loc hhad with hhas | hgone | hret
    · exact .inl hhas
    · exact absurd hgone hreleased
    · exact .inr ⟨tx, .inr (.inr (mem_append_right _ hret))⟩

lemma owned_publish (hrequested : s.Requested) (opts) : Owned log (s.publish opts) loc := by
  unfold publish
  split
  · refine h.change (fun _ => .inl) rfl (List.Subset.refl _) fun pre hbef _ => ?_
    -- the request is a new one
    exact absurd (hrequested _ pre hbef) (lt_irrefl _)
  · exact h

lemma owned_outside (hrequested : s.Requested) {a} (houtside : a ≠ .manage) :
    Owned (log ++ (s.step a).2) (s.step a).1 loc ∨ s.releases a = some loc.track := by
  have hp := (s.step_outside houtside).phase
  cases a with
  | publish opts =>
    change Owned (log ++ []) _ _ ∨ _
    rw [append_nil]
    exact .inl (owned_publish h hrequested opts)
  | _ =>
    refine h.of_requestsMove ((s.step_outside houtside).requests (by simp)) fun tx hm => ?_
    rwa [pending, hp]

lemma owned_take (hp : s.phase = .receiving) (ev queue) :
    Owned (log ++ []) (s.take ev queue) loc := by
  refine (h.of_requestsMove (s.requestsMove_take ev queue) fun tx hm => ?_).resolve_right
    nofun
  rw [pending, hp] at hm
  cases hm

lemma owned_answer {tx res} (hp : s.pending = .result tx res :: rest) (hr : after.pending = rest)
    (ha : after.requests = (s.answer tx res).requests) (hlog : log ⊆ log') :
    Owned log' after loc ∨ (s.answer tx res).cells =
        s.cells.update loc.track fun cell => cell.send .unpublished := by
  -- what is handed over is this result, or is still to come
  have hhanded : ∀ tx', .result tx' (.ok loc) ∈ s.pending →
      .result tx' (.ok loc) ∈ after.pending ∨ res = .ok loc := by
    intro _ hm
    rw [hp] at hm
    rw [hr]
    exact (mem_cons.mp hm).symm.imp_right fun heq => (Effect.result.inj heq).2.symm
  unfold answer at ha ⊢
  split at ha
  next handle _ hl =>
    refine .inl (h.change (fun tx' hm => ?_) ha hlog fun pre hbef hholds => .inl ?_)
    · exact (hhanded tx' hm).imp_right fun heq => .inl ⟨handle, by rw [heq]⟩
    · obtain rfl := mem_unique hl hbef
      exact hholds.elim (nofun) .inr
  next hl =>
    refine .inl (h.change (fun tx' hm => ?_) ha hlog fun pre hbef hholds => .inl ?_)
    · exact (hhanded tx' hm).imp_right fun heq => .inr (by rw [heq])
    · obtain rfl := mem_unique hl hbef
      exact hholds.elim (nofun)
        nofun
  next =>
    rw [discard_requests] at ha
    obtain ⟨tx', h | h | h⟩ := h
    · rcases hhanded tx' h with h | rfl
      · exact .inl ⟨tx', .inl h⟩
      · exact .inr rfl
    · exact .inl ⟨tx', .inr (.inl (ha ▸ h))⟩
    · exact .inl ⟨tx', .inr (.inr (hlog h))⟩

lemma owned_performed (hs : Sound s) {eff} (hp : s.pending = eff :: rest) :
    Owned (log ++ [.performed eff]) (s.performed eff rest) loc ∨
      ∀ cell', (s.performed eff rest).cells.lookup loc.track = some cell' →
        cell'.state = .unpublished := by
  have hot : (∀ tx, .result tx (.ok loc) ≠ eff) → (s.performed eff rest).requests = s.requests →
        Owned (log ++ [.performed eff]) (s.performed eff rest) loc := by
    intro hne hrequests
    refine h.mono (fun tx hm => ?_) hrequests (subset_append_left ..)
    rw [hp] at hm
    rw [pending_performed]
    exact (mem_cons.mp hm).resolve_left (hne tx)
  cases eff with
  | result _ result =>
    refine (owned_answer h hp (pending_performed ..) rfl (subset_append_left ..)).imp id ?_
    intro hcells _ hc'
    exact unpublished_of_update hs hcells hc'
  | _ => exact .inl (hot (by simp) rfl)

/-- **Owners.** A move passes a track on, or the track is unpublished after it. -/
theorem owned_step (hs : Sound s) (hrequested : s.Requested) (a : Action) :
    Owned (log ++ (s.step a).2) (s.step a).1 loc ∨
      ∀ cell', (s.step a).1.cells.lookup loc.track = some cell' → cell'.state = .unpublished := by
  by_cases hac : a = .manage
  · subst hac
    have hsi : ∀ {after : Processes π}, Owned log after loc → Owned (log ++ []) after loc := by
      intro _ _
      rwa [append_nil]
    have hmanages : s.Manages (s.step .manage) := s.manages
    generalize s.step .manage = res at hmanages ⊢
    cases hmanages with
    | waits => exact .inl (hsi h)
    | takes hp => exact .inl (owned_take h hp _ _)
    | returns hp =>
      refine .inl (hsi (h.mono (fun tx hm => ?_) rfl (List.Subset.refl _)))
      rw [pending, hp] at hm
      cases hm
    | performs hp => exact owned_performed h hs (by rw [pending, hp])
    | joins hp =>
      refine .inl (hsi (h.mono (fun tx hm => ?_) rfl (List.Subset.refl _)))
      rwa [pending, hp] at hm
  · refine (owned_outside h hrequested hac).imp id fun hreleased cell' hc' => ?_
    exact unpublished_of_update hs (cells_of_releases hreleased) hc'

end

end Owned

/-! ### The invariant -/

structure Custody (log : List (Occurrence π)) (system : Processes π) : Prop where
  held : ∀ track cell, system.cells.lookup track = some cell →
    (∃ info, info.pubHandle = cell.handle ∧ Owned log system ⟨track, info⟩) ∨
      cell.state = .unpublished
  /-- The track of a descriptor has the same handle, or is about to be made with
  it. -/
  keyed : ∀ handle info track,
    system.manager.descriptors.lookup handle = some (.active info track) →
      (∃ cell, system.cells.lookup track = some cell ∧ cell.handle = handle) ∨
        ∃ options, .spawned track options ∈ system.pending ∧ options.info.pubHandle = handle
  /-- A task that has ended and still has its descriptor has its request in the
  manager's channel. -/
  waited : ∀ handle info track cell,
    system.manager.descriptors.lookup handle = some (.active info track) →
      system.cells.lookup track = some cell → cell.task = .ended →
        system.manager.running = false ∨ .unpublishRequest handle ∈ system.queue
  requested : ∀ resultTx request, system.requests.lookup resultTx = some request →
    resultTx < system.nextRequest

section Custody

variable {log : List (Occurrence π)} {s after : Processes π}

variable {a : Action} {tr : TrackId} {cell' : TrackCell} {handle : Handle} {info : DataTrackInfo}

lemma origin_step (h : (s.step a).1.cells.lookup tr = some cell') :
    (∃ cell, s.cells.lookup tr = some cell) ∨ ∃ opts rest, s.pending = .spawned tr opts :: rest ∧
        (s.step a).1.pending = rest ∧ cell' = ⟨opts.info.pubHandle, .published, .running, 0⟩ := by
  by_cases hac : a = .manage
  · subst hac
    have hmanages : s.Manages (s.step .manage) := s.manages
    generalize s.step .manage = result at hmanages h ⊢
    cases hmanages with
    | @performs eff rest hp =>
      cases eff with
      | spawned track' opts =>
        -- the new track, or another one
        rcases of_lookup_insert h with ⟨rfl, rfl⟩ | ⟨-, hl⟩
        · exact .inr ⟨opts, rest, by rw [pending, hp], s.pending_performed _ rest, rfl⟩
        · exact .inl ⟨cell', hl⟩
      | stateSent track' state =>
        left
        have hl : (s.cells.update track' fun cell => cell.send state).lookup tr = some cell' := h
        rw [Cells.lookup_update] at hl
        obtain ⟨cell, hc, -⟩ := map_eq_some_iff.mp hl
        exact ⟨cell, hc⟩
      | result tx result =>
        obtain ⟨cell, hc, -⟩ :=
          (s.cellsMove_answer (fun _ => False) tx result).lookup_of_after h
        exact .inl ⟨cell, hc⟩
      | _ => exact .inl ⟨cell', h⟩
    | _ => exact .inl ⟨cell', h⟩
  · obtain ⟨cell, hc, -⟩ := (s.step_outside hac).cells.lookup_of_after h
    exact .inl ⟨cell, hc⟩

lemma requested_of_move {released} (hmv : RequestsMove s released log after) (h : s.Requested) :
    after.Requested := by
  obtain ⟨hn, hsm | ⟨tx, pre, _, hbef, hinsert, -⟩⟩ := hmv
  · rw [Requested, hsm, hn]
    exact h
  · intro tx' request' hl
    rw [hn]
    rcases of_lookup_insert (hinsert ▸ hl) with ⟨rfl, -⟩ | ⟨-, hl⟩
    · exact h _ pre hbef
    · exact h tx' request' hl

lemma requested_step (h : s.Requested) (a : Action) : (s.step a).1.Requested := by
  cases a with
  | manage => exact requested_of_move s.requestsMove_manage h
  | publish =>
    intro tx req hl
    simp only [step, publish] at hl ⊢
    split at hl
    next hroom =>
      rw [if_pos hroom]
      -- the new request has the next number
      rcases of_lookup_insert hl with ⟨rfl, -⟩ | ⟨-, hl⟩
      · exact Nat.lt_succ_self _
      · exact Nat.lt_succ_of_lt (h tx req hl)
    next hfull =>
      rw [if_neg hfull]
      exact h tx req hl
  | _ => exact requested_of_move ((s.step_outside (by simp)).requests (by simp)) h

section

variable (h : Custody log s)
include h

lemma Custody.held_step (hs : Sound s)
    (hap : s.Apart a) (hc' : (s.step a).1.cells.lookup tr = some cell') :
    (∃ info, info.pubHandle = cell'.handle ∧ Owned (log ++ (s.step a).2) (s.step a).1 ⟨tr, info⟩) ∨
        cell'.state = .unpublished := by
  rcases origin_step hc' with ⟨cell, hc⟩ | ⟨opts, _, hp, hr, rfl⟩
  · obtain ⟨_, hcell'', hh, hst, -⟩ := (sound_step hs hap).2 tr cell hc
    obtain rfl := mem_unique hc' hcell''
    rcases h.held tr cell hc with ⟨info, hinfo, howned⟩ | hgone
    · rcases owned_step howned hs h.requested a with howned | hgone
      · exact .inl ⟨info, hinfo.trans hh.symm, howned⟩
      · exact .inr (hgone cell' hc')
    · exact .inr (hst hgone)
  · -- a new track is handed over next
    have hshape := hs.shape
    rw [hp] at hshape
    cases hshape with
    | signals _ hsig => exact absurd (hsig _ (.head _)) id
    | creates _ _ tx =>
      exact .inl ⟨opts.info, rfl, tx, .inl (hr ▸ mem_singleton.mpr rfl)⟩

lemma Custody.keyed_step (hs : Sound s)
    (hap : s.Apart a) (hl : (s.step a).1.manager.descriptors.lookup handle =
      some (.active info tr)) :
    (∃ cell, (s.step a).1.cells.lookup tr = some cell ∧ cell.handle = handle) ∨
      ∃ opts, .spawned tr opts ∈ (s.step a).1.pending ∧ opts.info.pubHandle = handle := by
  have hkept : ∀ cell, s.cells.lookup tr = some cell → cell.handle = handle →
      ∃ cell', (s.step a).1.cells.lookup tr = some cell' ∧ cell'.handle = handle := by
    intro cell hc hh
    obtain ⟨cell', hc', hhandle', -⟩ := (sound_step hs hap).2 tr cell hc
    exact ⟨cell', hc', hhandle'.trans hh⟩
  rcases s.take_or_keep a with ⟨ev, _, hp, -, -, hstep⟩ | ⟨hm, -, hpend⟩
  · -- the manager has nothing to do before it takes up an event
    have hbef : ∀ info', s.manager.descriptors.lookup handle = some (.active info' tr) →
        ∃ cell', (s.step a).1.cells.lookup tr = some cell' ∧ cell'.handle = handle := by
      intro info' hl'
      rcases h.keyed handle info' tr hl' with ⟨cell, hc, hh⟩ | ⟨_, hmem, -⟩
      · exact hkept cell hc hh
      · rw [pending, hp] at hmem
        cases hmem
    rw [hstep] at hl
    have hl : (s.manager.step (s.view, ev)).1.descriptors.lookup handle =
      some (.active info tr) := hl
    by_cases hrun : s.manager.running = true
    · rcases Manager.active_of_step hrun hl with
        ⟨⟨info', hl'⟩, -⟩ | ⟨opts, tx, heffects, hh⟩
      · exact .inl (hbef info' hl')
      · refine .inr ⟨opts, ?_, hh⟩
        rw [hstep]
        change _ ∈ (s.manager.step (s.view, ev)).2
        rw [heffects]
        exact .head _
    · rw [Manager.step, if_neg hrun] at hl
      exact .inl (hbef info hl)
  · rw [hm] at hl
    rcases h.keyed handle info tr hl with ⟨cell, hc, hh⟩ | ⟨opts, hmem, hh⟩
    · exact .inl (hkept cell hc hh)
    · rcases hpend _ hmem with hmem | ⟨rest, hstep⟩
      · exact .inr ⟨opts, hmem, hh⟩
      · -- the track is made in this move
        refine .inl ⟨⟨opts.info.pubHandle, .published, .running, 0⟩, ?_, hh⟩
        rw [hstep]
        exact lookup_insert _

lemma Custody.waited_step (hs : Sound s) (hap : s.Apart a)
    (hl : (s.step a).1.manager.descriptors.lookup handle = some (.active info tr))
    (hc' : (s.step a).1.cells.lookup tr = some cell') (he : cell'.task = .ended) :
    (s.step a).1.manager.running = false ∨ .unpublishRequest handle ∈ (s.step a).1.queue := by
  rcases origin_step hc' with ⟨cell, hc⟩ | ⟨opts, rest, -, -, rfl⟩
  case inr => cases he
  obtain ⟨cell'', hcell'', -, -, ht⟩ := (sound_step hs hap).2 tr cell hc
  obtain rfl := mem_unique hc' hcell''
  rcases s.take_or_keep a with ⟨ev, queue, hp, hq, htk, hstep⟩ | ⟨hm, hq, -⟩
  · -- no task moves while the manager takes up an event
    have hcell_eq : cell' = cell := by
      rw [hstep] at hc'
      exact mem_unique hc' hc
    subst hcell_eq
    rw [hstep] at hl ⊢
    by_cases hrun : s.manager.running = true
    · rcases Manager.active_of_step hrun hl with
        ⟨⟨info', hl'⟩, hev⟩ | ⟨opts, tx, heffects, -⟩
      · rcases h.waited handle info' tr cell' hl' hc he with hover | hmem
        · cases hrun.symm.trans hover
        · rw [hq] at hmem
          exact .inr ((mem_cons.mp hmem).resolve_left (Ne.symm hev))
      · -- a track that the event makes is not there yet
        have hmem : .spawned tr opts ∈ (s.take ev queue).pending := by
          change _ ∈ (s.manager.step (s.view, ev)).2
          rw [heffects]
          exact .head _
        have hsound' := (sound_step hs hap).1
        rw [hstep] at hsound'
        have hn : s.cells.lookup tr = none := (hsound'.fresh tr opts hmem).1
        cases hn.symm.trans hc
    · left
      change (s.manager.step (s.view, ev)).1.running = false
      rw [Manager.step, if_neg hrun]
      exact Bool.eq_false_iff.mpr hrun
  · rw [hm] at hl
    by_cases hbef : cell.task = .ended
    · rcases h.waited handle info tr cell hl hc hbef with hover | hmem
      · exact .inl (hm ▸ hover)
      · exact .inr (hq hmem)
    · obtain rfl := (ht he).resolve_left hbef
      -- the task ends in this move, and sends its request
      rcases h.keyed handle info tr hl with ⟨cell₀, hcell₀, hh⟩ | ⟨opts, hmem, -⟩
      · obtain rfl := mem_unique hc hcell₀
        exact hh ▸ sent_of_finish hs hc hc' hbef he
      · cases (hs.fresh tr opts hmem).1.symm.trans hc

lemma custody_step (hs : Sound s) (hap : s.Apart a) : Custody (log ++ (s.step a).2) (s.step a).1 :=
  ⟨fun _ _ => h.held_step hs hap, fun _ _ _ => h.keyed_step hs hap,
    fun _ _ _ _ => h.waited_step hs hap, requested_step h.requested a⟩

end

lemma custody_new (prov : Option π) : Custody [] (new prov) := by
  -- there are no tracks, descriptors and requests
  exact ⟨nofun, nofun, nofun, nofun⟩

end Custody

end Processes

/-! ### The condition -/

def InputEvent.isGrant : InputEvent → Bool
  | .sfuPublishResponse _ (.ok _) => true
  | _ => false

namespace Processes

def Action.sent : Action → Option InputEvent
  | .send event => some event
  | _ => none

def abandons (self : Processes π) : InputEvent → Bool
  | .sfuPublishResponse handle (.ok _) =>
    match self.manager.descriptors.lookup handle with
    | some (.pending resultTx) => self.isClosed resultTx
    | _ => false
  | _ => false

/-- Grants are heeded, and unpublication and republication keep apart.

* A grant that is sent finds room in the manager's channel.
* A grant that the manager takes up is not one for a pending request whose
  forwarding task has given up. -/
def Heeded (self : Processes π) (action : Action) : Prop :=
  self.Apart action ∧ (∀ event ∈ action.sent, event.isGrant → self.HasRoom) ∧
    ∀ event ∈ self.takenUp action, ¬ self.abandons event
  deriving Decidable

/-! ### Following a grant -/

/-- Where a grant can have got to: the manager's channel, a request to unpublish, or a track. -/
def Followed (log : List (Occurrence π)) (self : Processes π) (info : DataTrackInfo) : Prop :=
  .sfuPublishResponse info.pubHandle (.ok info) ∈ self.queue ∨ Told log self info.pubHandle ∨
    (∃ track options, .spawned track options ∈ self.pending ∧
      options.info.pubHandle = info.pubHandle) ∨
    ∃ track, Tracked log self track info.pubHandle

section Followed

variable {log log' : List (Occurrence π)} {s : Processes π} {info : DataTrackInfo}

lemma followed_take (hcustody : Custody log' s) {queue} (hp : s.phase = .receiving)
    (hq : s.queue = .sfuPublishResponse info.pubHandle (.ok info) :: queue)
    (hheeded : ¬ s.abandons (.sfuPublishResponse info.pubHandle (.ok info))) :
    Followed log (s.take (.sfuPublishResponse info.pubHandle (.ok info)) queue) info := by
  right
  by_cases hrun : s.manager.running = true
  · have hpend : (s.take (.sfuPublishResponse info.pubHandle (.ok info)) queue).pending =
        (s.manager.onSfuPublishResponse s.view info.pubHandle (.ok info)).2 := by
      rw [take_pending, Manager.step, if_pos hrun]
    unfold Manager.onSfuPublishResponse at hpend
    cases hl : s.manager.descriptors.lookup info.pubHandle with
    | none =>
      refine .inl (.inr (.inr (.inl ?_)))
      rw [hpend, hl]
      exact mem_singleton.mpr rfl
    | some d =>
      cases d with
      | pending tx =>
        have ho : ¬ s.view.isClosed tx = true := by
          intro hcl
          exact hheeded (by rw [abandons, hl]; exact hcl)
        refine .inr (.inl ⟨s.manager.nextTrack, ?_⟩)
        rw [hpend, hl]
        dsimp only
        rw [if_neg ho]
        exact ⟨_, .head _, rfl⟩
      | active info' tr =>
        -- a track that is there has the handle, and its task has not told the SFU yet
        refine .inr (.inr ⟨tr, ?_⟩)
        rcases hcustody.keyed _ info' tr hl with ⟨cell, hc, hh⟩ | ⟨opts, hm, -⟩
        · refine ⟨cell, hc, hh, fun he => ?_⟩
          rcases hcustody.waited _ info' tr cell hl hc he with hover | hm
          · cases hrun.symm.trans hover
          · rw [hq] at hm
            exact .inr (.inl ((mem_cons.mp hm).resolve_left (by simp)))
        · rw [pending, hp] at hm
          cases hm
  · refine .inl (.inl ?_)
    rw [take_manager, Manager.step, if_neg hrun]
    exact Bool.eq_false_iff.mpr hrun

lemma followed_step (h : Followed log s info) (hs : Sound s) (hcustody : Custody log' s) {a}
    (hheeded : s.Heeded a) : Followed (log ++ (s.step a).2) (s.step a).1 info := by
  rcases h with h | h | ⟨tr, opts, hm, hh⟩ | ⟨tr, h⟩
  · rcases s.take_or_keep a with ⟨ev, queue, hp, hq, htk, hstep⟩ | ⟨-, hq, -⟩
    · rw [hstep]
      rw [hq] at h
      rcases mem_cons.mp h with rfl | h
      · exact followed_take hcustody hp hq (hheeded.2.2 _ htk)
      · exact .inl h
    · exact .inl (hq h)
  · exact .inr (.inl (told_step h a))
  · rcases s.take_or_keep a with ⟨ev, queue, hp, -⟩ | ⟨-, -, hpend⟩
    · rw [pending, hp] at hm
      cases hm
    · rcases hpend _ hm with hm | ⟨rest, hstep⟩
      · exact .inr (.inr (.inl ⟨tr, opts, hm, hh⟩))
      · -- the track is made, and its task runs
        refine .inr (.inr (.inr ⟨tr, ⟨opts.info.pubHandle, .published, .running, 0⟩, ?_,
          hh, by simp⟩))
        rw [hstep]
        exact lookup_insert _
  · exact .inr (.inr (.inr ⟨tr, tracked_step hs h hheeded.1⟩))

lemma returned_of_owned {loc} (h : Owned log s loc) (hset : s.Settled) (hp : s.pending = []) :
    ∃ tx, .returned tx (.ok loc) ∈ log := by
  obtain ⟨tx, h | ⟨⟨forwarder, caller⟩, hl, h⟩ | h⟩ := h
  · rw [hp] at h
    cases h
  · -- a request at rest has nothing
    have hr := hset.requests tx _ hl
    rcases h with ⟨handle, hforwarder⟩ | hready
    · obtain rfl : forwarder = .waiting handle (some (.ok loc)) := hforwarder
      cases caller <;> cases hr
    · obtain rfl : caller = .ready (.ok loc) := hready
      cases hr
  · exact ⟨tx, h⟩

lemma followed_settled (h : Followed log s info) (hs : Sound s)
    (hcustody : Custody log' s) (hset : s.Settled) (hrun : s.manager.running) :
    (∃ tx loc, loc.info.pubHandle = info.pubHandle ∧ .returned tx (.ok loc) ∈ log') ∨
    .performed (.output (.sfuUnpublishRequest info.pubHandle)) ∈ log := by
  obtain ⟨hq, hp⟩ := idle_of_settled hs hset hrun
  rcases h with h | h | ⟨tr, opts, hm, -⟩ | ⟨tr, h⟩
  · rw [hq] at h
    cases h
  · exact .inr (mem_log_of_told hs h hset hrun)
  · rw [hp] at hm
    cases hm
  · obtain ⟨cell, hc, hh, -⟩ := id h
    rcases hcustody.held tr cell hc with ⟨info', hinfo, howned⟩ | hgone
    · obtain ⟨tx, hret⟩ := returned_of_owned howned hset hp
      exact .inl ⟨tx, _, hinfo.trans hh, hret⟩
    · exact .inr (mem_log_of_tracked hs h ((stateOf_of_lookup hc).trans hgone) hset hrun)

end Followed

/-- **No orphaned publication.** Along a run in which grants are heeded, once the processes are at
rest and unless the manager was shut down, the track of a grant has been returned to a caller, or
the SFU has been asked, after the grant, to unpublish it. -/
theorem delivered_or_unpublished (encryptionProvider : Option π) (actions : List Action)
    (h : Along step Heeded (new encryptionProvider) actions) (pre post : List Action)
    (info : DataTrackInfo)
    (h_pre : pre ++ .send (.sfuPublishResponse info.pubHandle (.ok info)) :: post <+: actions)
    (h_settled : (state step (new encryptionProvider)
      (pre ++ .send (.sfuPublishResponse info.pubHandle (.ok info)) :: post)).Settled)
    (h_running : (state step (new encryptionProvider)
      (pre ++ .send (.sfuPublishResponse info.pubHandle (.ok info)) :: post)).manager.running) :
    (∃ resultTx localTrack, localTrack.info.pubHandle = info.pubHandle ∧
      .returned resultTx (.ok localTrack) ∈ outputs step (new encryptionProvider)
        (pre ++ .send (.sfuPublishResponse info.pubHandle (.ok info)) :: post)) ∨
    .performed (.output (.sfuUnpublishRequest info.pubHandle)) ∈
      outputs step (state step (new encryptionProvider) pre)
        (.send (.sfuPublishResponse info.pubHandle (.ok info)) :: post) := by
  let grant : Action := .send (.sfuPublishResponse info.pubHandle (.ok info))
  let P (log : List (Occurrence π)) (self : Processes π) : Prop := Sound self ∧ Custody log self
  have hstep : ∀ log self a, P log self → self.Heeded a →
      P (log ++ (self.step a).2) (self.step a).1 := by
    rintro log self a ⟨hs, hcustody⟩ hheeded
    exact ⟨(sound_step hs hheeded.1).1, custody_step hcustody hs hheeded.1⟩
  obtain ⟨rest, rfl⟩ := h_pre
  have hpart : Along step Heeded (new encryptionProvider) (pre ++ grant :: post) := h.append_left
  -- up to the grant
  have hbef : P ([] ++ outputs step (new encryptionProvider) pre)
      (state step (new encryptionProvider) pre) :=
    hpart.append_left.run_of_step ⟨sound_new _, custody_new _⟩ hstep
  obtain ⟨hgrant, hpost⟩ := hpart.append_right
  generalize hself : state step (new encryptionProvider) pre = self at hbef hgrant hpost ⊢
  generalize hlog : outputs step (new encryptionProvider) pre = log at hbef
  rw [state_append, hself] at h_settled h_running
  rw [outputs_append, hself, hlog]
  -- the grant is in the manager's channel, unless the manager has ended
  have hfollowed : Followed (self.step grant).2 (self.step grant).1 info := by
    have hroom : self.HasRoom := hgrant.2.1 _ rfl rfl
    simp only [grant, step]
    rw [if_pos (show InputEvent.External (.sfuPublishResponse info.pubHandle (.ok info)) from rfl)]
    by_cases hover : self.phase.isEnded
    · refine .inr (.inl (.inl ?_))
      rw [push_manager]
      exact hbef.1.ended hover
    · left
      rw [push, if_pos ⟨hover, hroom⟩]
      exact mem_append_right _ (mem_singleton.mpr rfl)
  -- and is followed from there
  let Q (after : List (Occurrence π)) (self : Processes π) : Prop :=
    P (log ++ after) self ∧ Followed after self info
  have hend : Q ((self.step grant).2 ++ outputs step (self.step grant).1 post)
      (state step (self.step grant).1 post) := by
    refine hpost.run_of_step ⟨hstep log self grant hbef hgrant, hfollowed⟩ ?_
    rintro after self a ⟨hboth, hfollowed⟩ hheeded
    refine ⟨?_, followed_step hfollowed hboth.1 hboth.2 hheeded⟩
    rw [← append_assoc]
    exact hstep _ self a hboth hheeded
  obtain ⟨⟨hs, hcustody⟩, hfollowed⟩ := hend
  exact followed_settled hfollowed hs hcustody h_settled h_running

def requested : List Action := [.publish ⟨"a"⟩, .manage, .manage, .manage]

def cancelled : List Action := [.cancel 0, .forward 0, .forward 0, .manage, .manage]

def grantedThen : List Action :=
  [.send (.sfuPublishResponse .one (.ok grantedInfo)), .manage, .manage, .manage]

/-- The SFU is asked to take the track back. -/
theorem unpublished_of_cancelled : .performed (.output (.sfuUnpublishRequest .one)) ∈
      outputs step (state step (new (none : Option Unit)) (requested ++ cancelled))
        grantedThen := by
  have hheeded : Along step Heeded (new (none : Option Unit))
      ((requested ++ cancelled) ++ grantedThen) := by decide +kernel
  have hlog : outputs step (new (none : Option Unit)) ((requested ++ cancelled) ++ grantedThen) =
      [.performed (.output (.sfuPublishRequest .one "a" false)),
        .performed (.output (.sfuUnpublishRequest .one))] := by decide +kernel
  rcases delivered_or_unpublished none _ hheeded (requested ++ cancelled) grantedThen.tail
    grantedInfo
    prefix_rfl (by decide +kernel) (by decide +kernel) with ⟨tx, localTrack, -, hm⟩ | hm
  · -- nothing is returned
    have hm : .returned tx (.ok localTrack) ∈ outputs step (new (none : Option Unit))
      ((requested ++ cancelled) ++ grantedThen) := hm
    exact nomatch hm
  · exact hm

/-- The caller gives up while the grant waits in the manager's channel. -/
def cancelledLate : List Action :=
  [.send (.sfuPublishResponse .one (.ok grantedInfo)), .cancel 0, .forward 0, .manage, .manage,
    .forward 0, .manage, .manage]

/-- **An orphaned publication.** With everything at rest, nobody has the track, the manager has no
descriptor of it, and the SFU has been told nothing but to publish it. -/
theorem orphaned : let after := state step (new (none : Option Unit)) (requested ++ cancelledLate)
    after.Settled ∧ after.manager.running ∧ after.manager.descriptors.keys = [] ∧
      after.cells.keys = [] ∧ outputs step (new (none : Option Unit)) (requested ++ cancelledLate) =
        [.performed (.output (.sfuPublishRequest .one "a" false))] := by
  decide +kernel

end Processes

end LiveKit.DataTrack.Local
