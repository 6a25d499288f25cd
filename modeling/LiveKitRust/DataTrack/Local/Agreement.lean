import LiveKitRust.DataTrack.Local.System

/-!
# Tracks and their descriptors

A track that is not unpublished should have exactly one descriptor, an active one under its own
handle: through it the manager republishes and unpublishes the track.

`InTurn` is the condition on a step. Only the manager's steps are restricted: responses and
cancellations that meet a published track, and a republication that meets a task about to end. Each
handler has a lemma of the shape `Keeps`; `agreement_of_inTurn` is the result.

`on_sfu_publish_response` takes the descriptor out before it looks at it. Where it then finds
nothing to do, because the track is already active or could not be republished, it does not put it
back: the track stays published for its user, and the manager has forgotten it.
-/

open Machine List AList

namespace LiveKit.DataTrack.Local

open TrackCell

variable {π : Type}

/-! ### Signals -/

def signalled (effects : List (Effect π)) (track : TrackId) : Bool :=
  effects.any fun
    | .stateSent track' _ => track' = track
    | _ => false

variable {effs : List (Effect π)}

lemma signalled_iff {tr} : signalled effs tr ↔ ∃ state, .stateSent tr state ∈ effs := by
  unfold signalled
  rw [any_eq_true]
  constructor
  · rintro ⟨eff, hm, h⟩
    cases eff with
    | stateSent _ state =>
      obtain rfl := of_decide_eq_true h
      exact ⟨state, hm⟩
    | _ => cases h
  · rintro ⟨_, hm⟩
    exact ⟨_, hm, decide_eq_true rfl⟩

lemma signalled_eq_false (h : ∀ eff ∈ effs, eff.IsAnswer) (tr) : signalled effs tr = false := by
  by_contra htold
  obtain ⟨_, hm⟩ := signalled_iff.mp (Bool.eq_true_of_not_eq_false htold)
  exact h _ hm

lemma lookup_foldl_perform {state} (h : ∀ eff ∈ effs, eff.IsSignal state) (cells tr) :
    (effs.foldl Cells.perform cells).lookup tr = (cells.lookup tr).map fun cell =>
        if signalled effs tr then cell.send state else cell := by
  induction effs generalizing cells with
  | nil => simp [signalled]
  | cons eff effs ih =>
    rw [foldl_cons, ih fun e he => h e (mem_cons_of_mem eff he)]
    have heffect := h eff (.head _)
    cases eff with
    | spawned => cases heffect
    | stateSent track' state' =>
      obtain rfl : state' = state := heffect
      change ((cells.update track' fun cell => cell.send state').lookup tr).map _ = _
      rw [Cells.lookup_update, Option.map_map]
      congr 1
      funext cell
      -- the track itself gets the state now, and a later one of the same kind is idle
      by_cases htr : tr = track'
      · subst htr
        have hhere : signalled (.stateSent tr state' :: effs) tr :=
          signalled_iff.mpr ⟨state', .head _⟩
        rw [if_pos hhere, Function.comp_apply, if_pos rfl]
        split
        · exact cell.send_send state'
        · rfl
      · have hr : signalled (.stateSent track' state' :: effs) tr = signalled effs tr := by
          simp [signalled, Ne.symm htr]
        rw [hr, Function.comp_apply, if_neg htr]
    | _ => rfl

/-! ### The invariant -/

/-- Tracks and descriptors agree.

* The cells are those of the tracks made so far.
* An active descriptor is under the handle of its track.
* A track that is not unpublished has a running task and a descriptor. -/
structure Registered (descriptors : Map Handle Descriptor) (cells : Cells) (nextTrack : TrackId) :
    Prop where
  fresh : ∀ track cell, cells.lookup track = some cell → track < nextTrack
  known : ∀ handle info track, descriptors.lookup handle = some (.active info track) →
    ∃ cell, cells.lookup track = some cell ∧ cell.handle = handle
  live : ∀ track cell, cells.lookup track = some cell → cell.state ≠ .unpublished →
    cell.task = .running ∧ ∃ info, descriptors.lookup cell.handle = some (.active info track)

/-- What a handler leaves behind. -/
structure Keeps (cells : Cells) (result : Manager π × List (Effect π)) : Prop where
  registered : Registered result.1.descriptors (result.2.foldl Cells.perform cells)
    result.1.nextTrack
  kept : ∀ track cell, cells.lookup track = some cell →
    ∃ cell', (result.2.foldl Cells.perform cells).lookup track = some cell' ∧
      cell'.handle = cell.handle
  handed : ∀ resultTx handed, .result resultTx (.ok handed) ∈ result.2 →
    ∃ cell, (result.2.foldl Cells.perform cells).lookup handed.track = some cell ∧
      cell.handle = handed.info.pubHandle

section Steps

variable {m m' : Manager π} {cells : Cells} {effs : List (Effect π)}

lemma TrackCell.published_before {cell : TrackCell} {told : Bool}
    (h : (if told then cell.send .unpublished else cell).state ≠ .unpublished) :
    cell.state ≠ .unpublished := by
  split at h
  next => rwa [eq_of_send_unpublished h] at h
  next => exact h

section

variable (h : Registered m.descriptors cells m.nextTrack)
include h

/-- Cells change one by one and keep their handles. -/
lemma Registered.map {descriptors' : Map Handle Descriptor} {cells' : Cells}
    {g : TrackId → TrackCell → TrackCell}
    (hl : ∀ tr, cells'.lookup tr = (cells.lookup tr).map (g tr))
    (hh : ∀ tr cell, cells.lookup tr = some cell → (g tr cell).handle = cell.handle)
    (hac : ∀ handle info tr, descriptors'.lookup handle = some (.active info tr) →
      ∃ info', m.descriptors.lookup handle = some (.active info' tr))
    (hlive : ∀ tr cell, cells.lookup tr = some cell → (g tr cell).state ≠ .unpublished →
      (g tr cell).task = .running ∧
        ∃ info, descriptors'.lookup cell.handle = some (.active info tr)) :
    Registered descriptors' cells' m.nextTrack := by
  refine ⟨fun tr cell' hc' => ?_, fun handle info tr hd => ?_, fun tr cell' hc' hst => ?_⟩
  · rw [hl] at hc'
    obtain ⟨cell, hc, -⟩ := Option.map_eq_some_iff.mp hc'
    exact h.fresh tr cell hc
  · obtain ⟨info', hbef⟩ := hac handle info tr hd
    obtain ⟨cell, hc, hhandle⟩ := h.known handle info' tr hbef
    exact ⟨g tr cell, by rw [hl, hc]; rfl, (hh tr cell hc).trans hhandle⟩
  · rw [hl] at hc'
    obtain ⟨cell, hc, rfl⟩ := Option.map_eq_some_iff.mp hc'
    rw [hh tr cell hc]
    exact hlive tr cell hc hst

section

variable (hn : m'.nextTrack = m.nextTrack)
include hn

lemma Keeps.of_signals {state : PublishState} (hsignals : ∀ eff ∈ effs, eff.IsSignal state)
    (hac : ∀ handle info tr, m'.descriptors.lookup handle = some (.active info tr) →
      ∃ info', m.descriptors.lookup handle = some (.active info' tr))
    (hlive : ∀ tr cell, cells.lookup tr = some cell →
      (if signalled effs tr then cell.send state else cell).state ≠ .unpublished →
      cell.task = .running ∧ ∃ info, m'.descriptors.lookup cell.handle = some (.active info tr)) :
    Keeps cells (m', effs) := by
  have hl := lookup_foldl_perform hsignals cells
  -- told or not, task and handle of the cell are the old ones
  have hh (tr : TrackId) (cell : TrackCell) :
      (if signalled effs tr then cell.send state else cell).handle = cell.handle := by
    split
    · exact cell.send_handle state
    · rfl
  refine ⟨hn ▸ h.map hl (fun tr cell _ => hh tr cell) hac fun tr cell hc hst => ?_,
    fun tr cell hc => ⟨_, by rw [hl, hc]; rfl, hh tr cell⟩, fun tx handed hm => ?_⟩
  · obtain ⟨ht, hd⟩ := hlive tr cell hc hst
    refine ⟨?_, hd⟩
    split
    · rwa [cell.send_task]
    · exact ht
  · cases hsignals _ hm

lemma Keeps.of_silent (hanswers : ∀ eff ∈ effs, eff.IsAnswer)
    (hac : ∀ handle info tr, m'.descriptors.lookup handle = some (.active info tr) →
      m.descriptors.lookup handle = some (.active info tr))
    (hstays : ∀ handle info tr, m.descriptors.lookup handle = some (.active info tr) →
      (∀ cell, cells.lookup tr = some cell → cell.state ≠ .unpublished) →
      m'.descriptors.lookup handle = some (.active info tr)) : Keeps cells (m', effs) := by
  refine .of_signals h hn (fun eff hm => (hanswers eff hm).isSignal .unpublished)
    (fun handle info tr hd => ⟨info, hac handle info tr hd⟩) ?_
  intro tr cell hc hst
  -- nobody is told anything, so the state is the one before
  rw [signalled_eq_false hanswers tr, if_neg (by simp)] at hst
  obtain ⟨ht, info, hd⟩ := h.live tr cell hc hst
  refine ⟨ht, info, hstays cell.handle info tr hd fun cell' hc' => ?_⟩
  obtain rfl := Option.mem_unique hc hc'
  exact hst

lemma Keeps.of_answers (hsm : m'.descriptors = m.descriptors)
    (hanswers : ∀ eff ∈ effs, eff.IsAnswer) : Keeps cells (m', effs) := by
  refine .of_silent h hn hanswers (fun handle info tr hd => ?_) (fun handle info tr hd _ => ?_)
  · rwa [hsm] at hd
  · rwa [hsm]

end

variable {handle : Handle} {info : DataTrackInfo}

lemma Keeps.erase (hsignals : ∀ eff ∈ effs, eff.IsSignal .unpublished)
    (hgone : ∀ info tr cell, m.descriptors.lookup handle = some (.active info tr) →
      cells.lookup tr = some cell → cell.state = .unpublished ∨ signalled effs tr) :
    Keeps cells (m.eraseDescriptor handle, effs) := by
  refine .of_signals h rfl hsignals (fun handle' info tr hd => ?_) ?_
  · exact ⟨info, (of_lookup_erase hd).2⟩
  · intro tr cell hc hst
    have hbef := published_before hst
    obtain ⟨ht, info, hd⟩ := h.live tr cell hc hbef
    refine ⟨ht, info, (lookup_erase_ne ?_).trans hd⟩
    rintro rfl
    rcases hgone info tr cell hd hc with hunp | hsig
    · exact hbef hunp
    · have hreceives : cell.receivers ≠ 0 := receivers_ne_zero (by simp [ht])
      rw [if_pos hsig] at hst
      exact hst (send_of_receivers hreceives _)

lemma Keeps.create {resultTx} (hp : m.descriptors.lookup handle = some (.pending resultTx))
    (hvacant : ∀ info' tr cell,
      m.descriptors.lookup info.pubHandle = some (.active info' tr) →
      cells.lookup tr = some cell → cell.state = .unpublished) {opts}
    (hoptions : opts.info = info) :
    Keeps cells ({ (m.eraseDescriptor handle).setDescriptor info.pubHandle
            (.active info m.nextTrack) with nextTrack := m.nextTrack + 1 },
        [.spawned m.nextTrack opts, .result resultTx (.ok ⟨m.nextTrack, info⟩)]) := by
  subst hoptions
  -- tracks are numbered in the order they are made
  have hne : ∀ tr cell, cells.lookup tr = some cell → tr ≠ m.nextTrack :=
    fun tr cell hc => Nat.ne_of_lt (h.fresh tr cell hc)
  refine ⟨⟨fun tr cell hc => ?_, fun handle' info' tr hl => ?_,
    fun tr cell hc hst => ?_⟩, fun tr cell hc => ?_, fun tx handed hm => ?_⟩
  · rcases of_lookup_insert hc with ⟨rfl, -⟩ | ⟨-, hc⟩
    · exact Nat.lt_succ_self _
    · exact Nat.lt_succ_of_lt (h.fresh tr cell hc)
  · -- the new descriptor belongs to the new track, the others are the old ones
    rcases of_lookup_insert hl with ⟨rfl, heq⟩ | ⟨-, hl⟩
    · cases heq
      exact ⟨_, lookup_insert _, rfl⟩
    · obtain ⟨cell, hc, hh⟩ := h.known handle' info' tr (of_lookup_erase hl).2
      exact ⟨cell, (lookup_insert_ne (hne tr cell hc)).trans hc, hh⟩
  · rcases of_lookup_insert hc with ⟨rfl, rfl⟩ | ⟨-, hc⟩
    · exact ⟨rfl, opts.info, lookup_insert _⟩
    · -- an older track had its descriptor elsewhere
      obtain ⟨ht, info', hl⟩ := h.live tr cell hc hst
      refine ⟨ht, info', (lookup_insert_ne fun heq => ?_).trans
        ((lookup_erase_ne fun heq => ?_).trans hl)⟩
      · exact hst (hvacant info' tr cell (heq ▸ hl) hc)
      · cases hp.symm.trans (heq ▸ hl)
  · exact ⟨cell, (lookup_insert_ne (hne tr cell hc)).trans hc, rfl⟩
  · rcases mem_cons.mp hm with heq | hm
    · cases heq
    · obtain ⟨-, heq⟩ := Effect.result.inj (mem_singleton.mp hm)
      cases heq
      exact ⟨_, lookup_insert _, rfl⟩

lemma Keeps.republished {info' tr sid} (hl : m.descriptors.lookup handle = some (.active info tr))
    (hst : ∀ cell, cells.lookup tr = some cell → cell.state ≠ .unpublished) :
    Keeps cells ((m.eraseDescriptor handle).setDescriptor handle (.active info' tr),
        [.sidWritten tr sid, .stateSent tr .published]) := by
  have hsig : ∀ eff ∈ ([.sidWritten tr sid, .stateSent tr .published] :
      List (Effect π)), eff.IsSignal .published := by
    simp [Effect.IsSignal]
  refine .of_signals h rfl hsig (fun handle' info'' track' hnew => ?_) ?_
  · rcases of_lookup_insert hnew with ⟨rfl, heq⟩ | ⟨-, hnew⟩
    · cases heq
      exact ⟨info, hl⟩
    · exact ⟨info'', (of_lookup_erase hnew).2⟩
  · intro track' cell hc hsent
    -- the others get nothing, and this one was published before
    have hbef : cell.state ≠ .unpublished := by
      by_cases htr : track' = tr
      · subst htr
        exact hst cell hc
      · have hsi : ¬ signalled
            ([.sidWritten tr sid, .stateSent tr .published] : List (Effect π)) track' := by
          simp [signalled, Ne.symm htr]
        rwa [if_neg hsi] at hsent
    obtain ⟨ht, info'', hlive⟩ := h.live track' cell hc hbef
    refine ⟨ht, ?_⟩
    by_cases heq : cell.handle = handle
    · subst heq
      cases hl.symm.trans hlive
      exact ⟨info', lookup_insert _⟩
    · exact ⟨info'', (lookup_insert_ne heq).trans ((lookup_erase_ne heq).trans hlive)⟩

end

end Steps

/-! ### Republication and shutdown -/

namespace Manager

lemma lookup_republishAll {entries : List (Handle × Descriptor)}
    (hnodup : (entries.map Prod.fst).Nodup) {m : Manager π}
    (hfree : ∀ handle ∈ entries.map Prod.fst, m.descriptors.lookup handle = none) (handle d) :
    (state republishDescriptor m entries).descriptors.lookup handle = some d ↔
      m.descriptors.lookup handle = some d ∨ (handle, d) ∈ entries ∧ d.activeInfo.isSome := by
  induction entries generalizing m with
  | nil => simp
  | cons entry entries ih =>
    obtain ⟨handle', d'⟩ := entry
    obtain ⟨hhead, hr⟩ := nodup_cons.mp hnodup
    have htail : ∀ handle ∈ entries.map Prod.fst, m.descriptors.lookup handle = none :=
      fun handle hm => hfree handle (mem_cons_of_mem handle' hm)
    cases d' with
    | pending =>
      -- a pending request is dropped: its descriptor is not put back
      refine (ih hr htail).trans (or_congr_right (and_congr_left fun hac => ?_))
      rw [mem_cons, or_iff_right]
      intro heq
      cases heq
      cases hac
    | active info tr =>
      -- an active one is put back, and no later entry is under its handle
      have hfree' : ∀ handle ∈ entries.map Prod.fst,
          (m.setDescriptor handle' (.active info tr)).descriptors.lookup handle = none := by
        intro handle hm
        have hne : handle ≠ handle' := fun heq => hhead (heq ▸ hm)
        exact (lookup_insert_ne hne).trans (htail handle hm)
      refine (ih hr hfree').trans ?_
      rw [mem_cons, or_and_right, ← or_assoc]
      refine or_congr_left ⟨fun hs => ?_, ?_⟩
      · rcases of_lookup_insert hs with ⟨rfl, rfl⟩ | ⟨-, hs⟩
        · exact .inr ⟨rfl, rfl⟩
        · exact .inl hs
      · rintro (hs | ⟨heq, -⟩)
        · refine (lookup_insert_ne fun heq => ?_).trans hs
          cases (hfree handle' (.head _)).symm.trans (heq ▸ hs)
        · cases heq
          exact lookup_insert _

variable (m : Manager π)

variable (order : HashOrder Handle)

lemma lookup_onRepublishTracks (handle d) :
    (m.onRepublishTracks order).1.descriptors.lookup handle = some d ↔
      m.descriptors.lookup handle = some d ∧ d.activeInfo.isSome := by
  let taken : Manager π := { m with descriptors := ∅ }
  have hn : ∀ handle, taken.descriptors.lookup handle = none := fun _ => lookup_empty _
  have hloop := lookup_republishAll (order.nodup_keys_entries m.descriptors)
    (fun handle _ => hn handle) handle d
  rw [HashOrder.mem_entries, hn, or_iff_right (by simp)] at hloop
  exact hloop

lemma signalled_onRepublishTracks (tr) : signalled (m.onRepublishTracks order).2 tr ↔
      ∃ handle info, m.descriptors.lookup handle = some (.active info tr) := by
  -- the loop sends to the tracks of its active entries, in whatever order it takes them
  have hloop : ∀ (entries : List (Handle × Descriptor)) (m : Manager π),
      (∃ state, .stateSent tr state ∈ outputs republishDescriptor m entries) ↔
        ∃ handle info, (handle, .active info tr) ∈ entries := by
    intro entries
    induction entries with
    | nil => simp
    | cons entry _ ih =>
      intro _
      obtain ⟨_, d⟩ := entry
      simp only [outputs_cons, mem_append, mem_cons, exists_or, ih]
      refine or_congr_left ?_
      cases d with
      | pending => simp [republishDescriptor]
      | active => simp [republishDescriptor, eq_comm]
  calc signalled (m.onRepublishTracks order).2 tr
      ↔ ∃ state, .stateSent tr state ∈ (m.onRepublishTracks order).2 := signalled_iff
    _ ↔ ∃ handle info, (handle, .active info tr) ∈ order.entries m.descriptors :=
        hloop (order.entries m.descriptors) { m with descriptors := ∅ }
    _ ↔ ∃ handle info, m.descriptors.lookup handle = some (.active info tr) := by
        simp only [HashOrder.mem_entries]

lemma onRepublishTracks_nextTrack : (m.onRepublishTracks order).1.nextTrack = m.nextTrack := by
  obtain ⟨_, hf⟩ := m.onRepublishTracks_frame order
  rw [hf]

lemma signalled_onShutdown {m : Manager π} {order : HashOrder Handle} {handle : Handle}
    {info : DataTrackInfo} {tr : TrackId}
    (h : m.descriptors.lookup handle = some (.active info tr)) :
    signalled (m.onShutdown order).2 tr := by
  refine signalled_iff.mpr ⟨.unpublished, mem_map.mpr ?_⟩
  exact ⟨(handle, .active info tr), HashOrder.mem_entries.mpr h, rfl⟩

end Manager

/-! ### The condition -/

namespace System

def LiveAt (self : System π) (handle : Handle) : Prop :=
  ∃ info track, self.manager.descriptors.lookup handle = some (.active info track) ∧
    self.stateOf track ≠ .unpublished

/-- The manager may handle the event now.

* A response for an active track finds it unpublished, or waiting for this very response, and is
  positive. A positive response to a request that somebody waits for makes a track where none is
  published.
* A request is cancelled before its track is published, or after it was unpublished.
* A republication finds no task about to end, or one that has ended while others receive. -/
def InTurnEvent (self : System π) : InputEvent → Prop
  | .sfuPublishResponse handle result =>
    (∀ info track, self.manager.descriptors.lookup handle = some (.active info track) →
      self.stateOf track = .unpublished ∨
        self.stateOf track = .republishing ∧ result.toOption.isSome) ∧
    ∀ resultTx info, self.manager.descriptors.lookup handle = some (.pending resultTx) →
      resultTx ∉ self.closed → result = .ok info → ¬ self.LiveAt info.pubHandle
  | .publishCancelled handle => ¬ self.LiveAt handle
  | .republishTracks _ => ∀ handle info track cell,
    self.manager.descriptors.lookup handle = some (.active info track) →
      self.cells.lookup track = some cell → cell.task = .running ∨ cell.receivers = 0
  | _ => True

/-- If it is the manager's turn and it runs, it may handle the first event of its queue. -/
def InTurn (self : System π) (action : Action) : Prop :=
  match action with
  | .manage => ∀ event queue, self.queue = event :: queue → self.manager.running →
      self.InTurnEvent event
  | _ => True

lemma unpublished_of_not_liveAt {s : System π} {handle : Handle} (h : ¬ s.LiveAt handle)
    {info : DataTrackInfo} {tr : TrackId} {cell : TrackCell}
    (hl : s.manager.descriptors.lookup handle = some (.active info tr))
    (hc : s.cells.lookup tr = some cell) : cell.state = .unpublished := by
  by_contra hst
  rw [← stateOf_of_lookup hc] at hst
  exact h ⟨info, tr, hl, hst⟩

end System

/-! ### The handlers -/

section Handlers

variable {s : System π} (h : Registered s.manager.descriptors s.cells s.manager.nextTrack)

include h

lemma keeps_request {handle} (allocator) {tx} (hvacant : s.manager.descriptors.lookup handle = none)
    (ev) :
    Keeps s.cells ({ s.manager with
        handleAllocator := allocator
        descriptors := s.manager.descriptors.insert handle (.pending tx) }, [.output ev]) := by
  refine .of_silent h rfl (by simp [Effect.IsAnswer]) (fun handle' info tr hd => ?_)
    (fun handle' info tr hd _ => ?_)
  · rcases of_lookup_insert hd with ⟨-, ⟨⟩⟩ | ⟨-, hd⟩
    exact hd
  · refine (lookup_insert_ne ?_).trans hd
    rintro rfl
    cases hvacant.symm.trans hd

lemma keeps_removeDescriptor (handle : Handle) (rest : List OutputEvent) : Keeps s.cells
      ((s.manager.removeDescriptor s.view handle).1,
        (s.manager.removeDescriptor s.view handle).2 ++ rest.map .output) := by
  rw [Manager.removeDescriptor_fst]
  refine .erase h (s.manager.remove_signals s.view handle rest) ?_
  intro _ tr cell hl hc
  -- a track that is not unpublished is told to be
  by_cases hst : cell.state = .unpublished
  · exact .inl hst
  · refine .inr (signalled_iff.mpr ⟨.unpublished, mem_append_left _ ?_⟩)
    rw [← System.stateOf_of_lookup hc] at hst
    have hview : s.view.state tr ≠ .unpublished := hst
    rw [Manager.removeDescriptor, hl]
    dsimp only
    rw [if_pos hview]
    exact .head _

lemma keeps_onRepublishTracks {order} (hturn : s.InTurnEvent (.republishTracks order)) :
    Keeps s.cells (s.manager.onRepublishTracks order) := by
  refine .of_signals h (s.manager.onRepublishTracks_nextTrack order)
    (s.manager.onRepublishTracks_signals order) (fun handle info tr hd => ?_) ?_
  · exact ⟨info, ((s.manager.lookup_onRepublishTracks order handle _).mp hd).1⟩
  · intro tr cell hc hst
    change (if signalled (s.manager.onRepublishTracks order).2 tr then _ else cell).state ≠ _ at hst
    -- active descriptors go back in
    have hstays : ∀ info, s.manager.descriptors.lookup cell.handle = some (.active info tr) →
        (s.manager.onRepublishTracks order).1.descriptors.lookup cell.handle =
          some (.active info tr) :=
      fun info hd => (s.manager.lookup_onRepublishTracks order cell.handle _).mpr ⟨hd, rfl⟩
    by_cases hbef : cell.state = .unpublished
    · -- an unpublished track was revived, and its task has not noticed anything
      have hsig : signalled (s.manager.onRepublishTracks order).2 tr := by
        by_contra hsi
        rw [if_neg hsi] at hst
        exact hst hbef
      obtain ⟨handle, info, hd⟩ := (s.manager.signalled_onRepublishTracks order tr).mp hsig
      obtain ⟨_, hc', hh⟩ := h.known handle info tr hd
      obtain rfl := Option.mem_unique hc hc'
      rcases hturn handle info tr cell hd hc with ht | hn
      · exact ⟨ht, info, hstays info (hh ▸ hd)⟩
      · rw [if_pos hsig, send_of_no_receivers hn] at hst
        exact absurd hbef hst
    · obtain ⟨ht, info, hd⟩ := h.live tr cell hc hbef
      exact ⟨ht, info, hstays info hd⟩

lemma keeps_onShutdown (order) : Keeps s.cells (s.manager.onShutdown order) := by
  refine .of_signals h rfl (s.manager.onShutdown_signals order) (nofun) ?_
  intro tr cell hc hst
  change (if signalled (s.manager.onShutdown order).2 tr then _ else cell).state ≠ _ at hst
  -- everything that was published has been told
  obtain ⟨ht, _, hd⟩ := h.live tr cell hc (published_before hst)
  have hreceives : cell.receivers ≠ 0 := receivers_ne_zero (by simp [ht])
  rw [if_pos (Manager.signalled_onShutdown hd)] at hst
  exact absurd (send_of_receivers hreceives _) hst

lemma keeps_step {ev : InputEvent} (hturn : s.manager.running → s.InTurnEvent ev) :
    Keeps s.cells (s.manager.step (s.view, ev)) := by
  cases hrun : s.manager.running with
  | false =>
    -- the condition is asked of a running manager only; after a shutdown events are dropped
    rw [s.manager.step_of_not_running s.view hrun]
    exact .of_answers h rfl rfl nofun
  | true =>
    have hturn := hturn hrun
    have hmv := s.manager.step_move s.view hrun ev
    generalize s.manager.step (s.view, ev) = res at hmv ⊢
    cases hmv with
    | answer _ han => exact .of_answers h rfl rfl (by simpa using han)
    | request allocator hvacant => exact keeps_request h allocator hvacant _
    | cancel =>
      refine .erase h nofun fun info tr cell hl hc => .inl ?_
      exact System.unpublished_of_not_liveAt hturn hl hc
    | refuse hp hanswers =>
      -- no track is at the handle yet
      refine .erase h (fun eff hm => (hanswers eff hm).isSignal _) ?_
      exact fun info tr cell hl _ => nomatch hp.symm.trans hl
    | lapse hac hidle =>
      -- the descriptor is not put back: the track must have been unpublished
      refine .erase h nofun fun info tr cell hl hc => .inl ?_
      rw [← System.stateOf_of_lookup hc]
      rcases hturn.1 info tr hl with hunp | ⟨hrep, hok⟩
      · exact hunp
      · obtain ⟨-, rfl⟩ := Descriptor.active.inj (Option.mem_unique hac hl)
        rcases hidle with hst | hn
        · exact absurd hrep hst
        · rw [hn] at hok
          cases hok
    | create hp ho =>
      refine Keeps.create h hp (fun info' tr cell hl hc => ?_) rfl
      have hwaits := hturn.2 _ _ hp (fun hin => ho (decide_eq_true hin)) rfl
      exact System.unpublished_of_not_liveAt hwaits hl hc
    | restore hac hst =>
      refine .republished h hac fun cell hc => ?_
      have hrep : s.stateOf _ = .republishing := hst
      rw [← System.stateOf_of_lookup hc, hrep]
      simp
    | remove outputs => exact keeps_removeDescriptor h _ outputs
    | republish => exact keeps_onRepublishTracks h hturn
    | shutdown order => exact keeps_onShutdown h order

end Handlers

/-! ### Runs -/

structure Fit (log : List (Effect π)) (system : System π) : Prop where
  registered : Registered system.manager.descriptors system.cells system.manager.nextTrack
  handed : ∀ resultTx handed, .result resultTx (.ok handed) ∈ log →
    ∃ cell, system.cells.lookup handed.track = some cell ∧ cell.handle = handed.info.pubHandle

section Runs

variable {log : List (Effect π)} {s : System π}

section

variable (h : Fit log s)
include h

lemma Fit.manage (hturn : s.InTurn .manage) : Fit (log ++ s.manage.2) s.manage.1 := by
  unfold System.manage
  split
  next => rwa [append_nil]
  next ev queue hq =>
    have hkp := keeps_step h.registered (hturn ev queue hq)
    refine ⟨hkp.registered, fun tx handed hm => ?_⟩
    rcases mem_append.mp hm with hm | hm
    · obtain ⟨cell, hc, hh⟩ := h.handed tx handed hm
      obtain ⟨cell', hc', hsm⟩ := hkp.kept handed.track cell hc
      exact ⟨cell', hc', hsm.trans hh⟩
    · exact hkp.handed tx handed hm

lemma Fit.update {self' : System π} (hm : self'.manager = s.manager)
    {tr : TrackId} {f : TrackCell → TrackCell} (hcells : self'.cells = s.cells.update tr f)
    (hf : ∀ cell, s.cells.lookup tr = some cell → (f cell).handle = cell.handle ∧
      ((f cell).state ≠ .unpublished → cell.state ≠ .unpublished ∧
        (cell.task = .running → (f cell).task = .running))) : Fit log self' := by
  have hl (track' : TrackId) := hcells ▸ s.cells.lookup_update tr track' f
  -- the cell changed keeps its handle and the others stay
  have hkept : ∀ track' cell, s.cells.lookup track' = some cell →
      (if track' = tr then f cell else cell).handle = cell.handle := by
    intro _ cell hc
    split
    next heq => exact (hf cell (heq ▸ hc)).1
    next => rfl
  refine ⟨?_, fun tx handed hmem => ?_⟩
  · rw [hm]
    refine h.registered.map hl hkept (fun _ info _ hd => ⟨info, hd⟩) fun track' cell hc hst => ?_
    -- published after the step means published before, with a running task
    split at hst
    next heq =>
      obtain ⟨hbef, hruns⟩ := (hf cell (heq ▸ hc)).2 hst
      obtain ⟨ht, hd⟩ := h.registered.live track' cell hc hbef
      rw [if_pos heq]
      exact ⟨hruns ht, hd⟩
    next heq =>
      rw [if_neg heq]
      exact h.registered.live track' cell hc hst
  · obtain ⟨cell, hc, hh⟩ := h.handed tx handed hmem
    exact ⟨_, by rw [hl, hc]; rfl, (hkept handed.track cell hc).trans hh⟩

lemma Fit.push (ev) : Fit log (s.push ev) := by
  refine ⟨?_, ?_⟩
  · rw [s.push_manager, s.push_cells]
    exact h.registered
  · rw [s.push_cells]
    exact h.handed

lemma Fit.finish (tr) : Fit log (s.finish tr) := by
  unfold System.finish
  split
  next => exact h
  next _ hc =>
    split
    next hstopping =>
      refine h.update (s.push_manager _) rfl fun cell' hc' => ?_
      obtain rfl := Option.mem_unique hc hc'
      refine ⟨rfl, fun hst => ⟨hst, fun hrun => ?_⟩⟩
      cases hstopping.1.symm.trans hrun
    next => exact h

lemma Fit.silent : Fit (log ++ []) s := by
  rwa [append_nil]

lemma fit_step {a} (hturn : s.InTurn a) : Fit (log ++ (s.step a).2) (s.step a).1 := by
  cases a with
  | manage => exact h.manage hturn
  | send ev =>
    exact (h.push ev).silent
  | unpublish =>
    refine Fit.silent (h.update rfl rfl fun cell _ => ⟨cell.send_handle _, fun hst => ?_⟩)
    have hsm := eq_of_send_unpublished hst
    rw [hsm] at hst ⊢
    exact ⟨hst, id⟩
  | notice =>
    -- a task ends only after it has read that its track is unpublished
    refine Fit.silent (h.update rfl rfl fun cell _ => ?_)
    split
    next hread => exact ⟨rfl, fun hst => absurd hread.2 hst⟩
    next => exact ⟨rfl, fun hst => ⟨hst, id⟩⟩
  | finish tr =>
    exact (h.finish tr).silent
  | watch | unwatch =>
    exact Fit.silent (h.update rfl rfl fun cell _ => ⟨rfl, fun hst => ⟨hst, id⟩⟩)
  | close =>
    exact Fit.silent ⟨h.registered, h.handed⟩

end

lemma fit_new (prov : Option π) : Fit [] (System.new prov) :=
  ⟨⟨nofun, nofun, nofun⟩, nofun⟩

end Runs

def RegisteredOnce (descriptors : Map Handle Descriptor) (handed : LocalDataTrack) : Prop :=
  (∃ info, descriptors.lookup handed.info.pubHandle = some (.active info handed.track)) ∧
    ∀ handle info, descriptors.lookup handle = some (.active info handed.track) →
      handle = handed.info.pubHandle

/-- **Agreement.** Along a run whose steps are all in turn, every track handed to the user that is
not unpublished is registered exactly once, in every state. -/
theorem agreement_of_inTurn (encryptionProvider : Option π) (actions : List Action)
    (h_turn : Along System.step System.InTurn (System.new encryptionProvider) actions)
    (pre : List Action) (h_pre : pre <+: actions) (resultTx : ResultTx) (handed : LocalDataTrack)
    (h_handed : .result resultTx (.ok handed) ∈
      outputs System.step (System.new encryptionProvider) pre) :
    let after := state System.step (System.new encryptionProvider) pre
    after.stateOf handed.track ≠ .unpublished →
      RegisteredOnce after.manager.descriptors handed := by
  intro after hst
  obtain ⟨_, rfl⟩ := h_pre
  -- the invariant holds at the end of every prefix
  have hfit : Fit (outputs System.step (System.new encryptionProvider) pre) after :=
    h_turn.append_left.run_of_step (fit_new encryptionProvider)
      fun _ _ _ hfit hstep => fit_step hfit hstep
  obtain ⟨cell, hc, hh⟩ := hfit.handed resultTx handed h_handed
  rw [System.stateOf_of_lookup hc] at hst
  obtain ⟨-, info, hd⟩ := hfit.registered.live handed.track cell hc hst
  -- a second descriptor of the track would be under the handle of the same cell
  refine ⟨⟨info, hh ▸ hd⟩, fun handle info' hd' => ?_⟩
  obtain ⟨_, hc', hhandle'⟩ := hfit.registered.known handle info' handed.track hd'
  obtain rfl := Option.mem_unique hc hc'
  exact hhandle'.symm.trans hh

def firstTrack (sid : String) (h : SID_PREFIX.toList <+: sid.toList := by decide) :
    DataTrackInfo :=
  ⟨⟨sid, h⟩, .one, "a", false⟩

def granted : List Action :=
  [.send (.publishRequest ⟨"a"⟩ 0), .manage,
    .send (.sfuPublishResponse .one (.ok (firstTrack "DTR_a"))), .manage]

def regranted : List Action :=
  granted ++ [.send (.republishTracks .asListed), .manage,
      .send (.sfuPublishResponse .one (.ok (firstTrack "DTR_b"))), .manage]

/-- The track of the first connection is still the one that is registered. -/
theorem agreement_regranted :
    let after := state System.step (System.new (none : Option Unit)) regranted
    after.stateOf 0 = .published ∧
      RegisteredOnce after.manager.descriptors ⟨0, firstTrack "DTR_a"⟩ := by
  let before (n : ℕ) := state System.step (System.new (none : Option Unit)) (regranted.take n)
  -- only the turns of the manager have a condition to check
  have hturn : Along System.step System.InTurn (System.new (none : Option Unit)) regranted := by
    refine ⟨trivial, ?_, trivial, ?_, trivial, ?_, trivial, ?_, trivial⟩
    · rintro _ _ hq -
      cases hq
      trivial
    · -- the request is pending when it is answered
      rintro _ _ hq -
      cases hq
      have hpend : (before 3).manager.descriptors.lookup ⟨1, by decide⟩ =
          some (.pending 0) := by decide +kernel
      refine ⟨fun info track hd => absurd (hpend.symm.trans hd) (by simp), ?_⟩
      rintro _ _ - - hok ⟨_, _, hd, -⟩
      cases hok
      cases hpend.symm.trans hd
    · -- the one task there is runs
      rintro _ _ hq -
      cases hq
      rintro _ _ track cell - hc
      change (before 5).cells.lookup track = some cell at hc
      have hkeys : (before 5).cells.keys = [0] := by decide +kernel
      have hm : track ∈ (before 5).cells.keys := lookup_isSome.mp (by rw [hc]; rfl)
      rw [hkeys] at hm
      obtain rfl := mem_singleton.mp hm
      have ht : ((before 5).cells.lookup 0).map task = some .running := by
        decide +kernel
      rw [hc] at ht
      exact .inl (Option.some.inj ht)
    · -- the track waits for the second answer
      rintro _ _ hq -
      cases hq
      have hactive : (before 7).manager.descriptors.lookup ⟨1, by decide⟩ =
          some (.active (firstTrack "DTR_a") 0) := by decide +kernel
      refine ⟨fun info track hd => ?_, fun tx info hd => ?_⟩
      · obtain ⟨-, rfl⟩ := Descriptor.active.inj (Option.mem_unique hactive hd)
        have hst : (before 7).stateOf 0 = .republishing := by decide +kernel
        exact .inr ⟨hst, rfl⟩
      · cases hactive.symm.trans hd
  have hst : (state System.step (System.new (none : Option Unit)) regranted).stateOf 0 =
      .published := by decide +kernel
  refine ⟨hst, agreement_of_inTurn none regranted hturn regranted (prefix_refl _) 0
    ⟨0, firstTrack "DTR_a"⟩ (by decide +kernel) ?_⟩
  rw [hst]
  simp

def answeredTwice : List Action :=
  granted ++ [.send (.sfuPublishResponse .one (.ok (firstTrack "DTR_a"))), .manage]

/-- **A lost descriptor.** The user has the track, and it is published; the
manager runs and has no descriptor of it. -/
theorem descriptor_lost :
    let after := state System.step (System.new (none : Option Unit)) answeredTwice
    .result 0 (.ok ⟨0, firstTrack "DTR_a"⟩) ∈
        outputs System.step (System.new (none : Option Unit)) answeredTwice ∧
      after.manager.running ∧ after.stateOf 0 = .published ∧
      after.manager.descriptors.keys = [] ∧
      ¬ RegisteredOnce after.manager.descriptors ⟨0, firstTrack "DTR_a"⟩ := by
  have hkeys : (state System.step (System.new (none : Option Unit))
      answeredTwice).manager.descriptors.keys = [] := by decide +kernel
  refine ⟨by decide +kernel, by decide +kernel, by decide +kernel, hkeys, ?_⟩
  -- no handle is in use, so the track has no descriptor
  rintro ⟨⟨_, hd⟩, -⟩
  have hm := lookup_isSome.mp (show (AList.lookup _ _).isSome by rw [hd]; rfl)
  cases hm

end LiveKit.DataTrack.Local
