import LiveKitRust.DataTrack.Remote.SubscriptionView

/-!
# The manager among its tasks and subscribers

The manager, the track tasks and the subscribers are processes that exchange messages
(`TrackTask::run` in `remote/manager.rs`, `subscribe_with_options` in `remote/mod.rs`). `System` is
a state of all of them: the manager and its input channel, a queue of `EVENT_BUFFER_COUNT` events;
the track tasks, each with its packet channel; the shared cells of the tracks, their SID and publish
state; and the receivers that subscribers hold, each on the frame channel of one task.

An `Action` is a step of one process, and one that is not enabled leaves the system as it is. The
manager handles an event in one step: what it awaits in between is only room in its output channel.
-/

open List

namespace LiveKit.DataTrack.Remote

variable {π : Type}

def EVENT_BUFFER_COUNT : ℕ := 16

def PACKET_BUFFER_COUNT : ℕ := 16

inductive TaskPhase where
  | running
  /-- Has found its frame channel closed and read the SID, and is about to ask
  the manager to unsubscribe. -/
  | stopping (sid : DataTrackSid)
  | ended
  deriving DecidableEq

structure TrackTask where
  track : TrackId
  phase : TaskPhase
  inbox : List Packet
  deriving DecidableEq

structure Outside where
  tasks : Map TaskId TrackTask
  sids : Map TrackId DataTrackSid
  published : Map TrackId Bool
  receivers : List (ResultTx × TaskId)
  deriving DecidableEq

namespace Outside

def taskState (self : Outside) (task : TaskId) : Option (TrackId × TaskPhase) :=
  (self.tasks.lookup task).map fun t => (t.track, t.phase)

def HasReceiver (self : Outside) (task : TaskId) : Prop := ∃ r ∈ self.receivers, r.2 = task
  deriving Decidable

def updateTask (self : Outside) (task : TaskId) (f : TrackTask → TrackTask) : Outside :=
  match self.tasks.lookup task with
  | none => self
  | some t => { self with tasks := self.tasks.insert task (f t) }

/-- `try_send` on a task's packet channel. -/
def enqueue (packet : Packet) (task : TrackTask) : TrackTask :=
  if task.phase ≠ .ended ∧ task.inbox.length < PACKET_BUFFER_COUNT then
    { task with inbox := task.inbox ++ [packet] }
  else task

def perform (self : Outside) : Effect π → Outside
  | .output (.trackPublished track) =>
    { self with
      sids := self.sids.insert track.track track.info.sid
      published := self.published.insert track.track true }
  | .output _ => self
  | .result resultTx (.ok task) => { self with receivers := (resultTx, task) :: self.receivers }
  | .result _ (.error _) => self
  | .sidWritten track sid => { self with sids := self.sids.insert track sid }
  | .published track value => { self with published := self.published.insert track value }
  | .spawned task track _ => { self with tasks := self.tasks.insert task ⟨track, .running, []⟩ }
  | .packet task packet => self.updateTask task (enqueue packet)

end Outside

structure System (π : Type) where
  manager : Manager π
  queue : List InputEvent
  outside : Outside

inductive Action where
  /-- A subscriber, the SFU or the transport sends the manager an event. -/
  | send (event : InputEvent)
  | manage
  | notice (task : TaskId)
  /-- A task that has noticed so sends its request to unsubscribe, and ends. -/
  | unsubscribe (task : TaskId)
  /-- A task finds that its track is unpublished, and ends. -/
  | unpublished (task : TaskId)
  | receive (task : TaskId)
  | dropReceiver (receiver : ResultTx × TaskId)

namespace System

def new (decryptionProvider : Option π) : System π :=
  ⟨Manager.new decryptionProvider, [], ⟨∅, ∅, ∅, []⟩⟩

variable (self : System π)

/-- An event is put into the manager's channel, if it has room. -/
def push (event : InputEvent) : System π :=
  if self.queue.length < EVENT_BUFFER_COUNT then { self with queue := self.queue ++ [event] }
  else self

def manage : System π × List (Effect π) :=
  match self.queue with
  | [] => (self, [])
  | event :: queue =>
    let (manager, effects) := self.manager.step event
    (⟨manager, queue, effects.foldl Outside.perform self.outside⟩, effects)

/-- A task finds that the last receiver is gone. The publish state is looked at
first, so that this happens only while the track is published. -/
def notice (task : TaskId) : System π :=
  match self.outside.tasks.lookup task with
  | none => self
  | some t =>
    match self.outside.sids.lookup t.track with
    | none => self
    | some sid =>
      if t.phase = .running ∧ self.outside.published.lookup t.track = some true ∧
          ¬ self.outside.HasReceiver task then
        { self with
          outside := self.outside.updateTask task fun t => { t with phase := .stopping sid } }
      else self

def unsubscribe (task : TaskId) : System π :=
  match self.outside.taskState task with
  | some (_, .stopping sid) =>
    if self.queue.length < EVENT_BUFFER_COUNT then { self.push (.unsubscribeRequest sid) with
        outside := self.outside.updateTask task fun t => { t with phase := .ended } }
    else self
  | _ => self

def unpublished (task : TaskId) : System π :=
  match self.outside.taskState task with
  | some (track, .running) =>
    if self.outside.published.lookup track = some true then self
    else { self with outside := self.outside.updateTask task fun t => { t with phase := .ended } }
  | _ => self

def receive (task : TaskId) : System π :=
  match self.outside.taskState task with
  | some (_, .running) =>
    { self with outside := self.outside.updateTask task fun t => { t with inbox := t.inbox.tail } }
  | _ => self

/-- One step of the system. Only track tasks can make a request to
unsubscribe. -/
def step (action : Action) : System π × List (Effect π) :=
  match action with
  | .send (.unsubscribeRequest _) => (self, [])
  | .send event => (self.push event, [])
  | .manage => self.manage
  | .notice task => (self.notice task, [])
  | .unsubscribe task => (self.unsubscribe task, [])
  | .unpublished task => (self.unpublished task, [])
  | .receive task => (self.receive task, [])
  | .dropReceiver receiver =>
    ({ self with
        outside := { self.outside with receivers := self.outside.receivers.erase receiver } }, [])

end System

/-! ### What effects do to tasks -/

namespace Outside

variable (s : Outside)

variable (task task' : TaskId) (packet : Packet) {effs : List (Effect π)}

variable (f : TrackTask → TrackTask)

lemma taskState_updateTask (htr : ∀ t, (f t).track = t.track) :
    (s.updateTask task f).taskState task' =
      if task' = task then (s.tasks.lookup task).map fun t => (t.track, (f t).phase)
      else s.taskState task' := by
  unfold updateTask taskState
  cases hl : s.tasks.lookup task with
  | none =>
    -- an update of a task that is not there changes nothing
    by_cases h : task' = task
    · rw [if_pos h, h, hl]
      rfl
    · rw [if_neg h]
  | some t =>
    rw [AList.lookup_insert_ite]
    by_cases h : task' = task
    · rw [if_pos h, if_pos h, Option.map_some, Option.map_some, htr]
    · rw [if_neg h, if_neg h]

lemma taskState_updateTask_of_phase (htr : ∀ t, (f t).track = t.track)
    (hp : ∀ t, (f t).phase = t.phase) :
    (s.updateTask task f).taskState task' = s.taskState task' := by
  rw [taskState_updateTask s task task' f htr]
  by_cases h : task' = task
  · rw [if_pos h, h]
    simp only [hp]
    rfl
  · rw [if_neg h]

lemma enqueue_track (task) : (enqueue packet task).track = task.track := by
  unfold enqueue
  split <;> rfl

lemma enqueue_phase (task) : (enqueue packet task).phase = task.phase := by
  unfold enqueue
  split <;> rfl

@[simp] lemma updateTask_receivers : (s.updateTask task f).receivers = s.receivers := by
  unfold updateTask
  split <;> rfl

@[simp] lemma updateTask_sids : (s.updateTask task f).sids = s.sids := by
  unfold updateTask
  split <;> rfl

@[simp] lemma updateTask_published : (s.updateTask task f).published = s.published := by
  unfold updateTask
  split <;> rfl

lemma taskState_perform {effect : Effect π}
    (h : ∀ task tr opts, effect ≠ .spawned task tr opts) (s : Outside)
    (task : TaskId) : (s.perform effect).taskState task = s.taskState task := by
  cases effect with
  | output ev => cases ev <;> rfl
  | result _ result => cases result <;> rfl
  | sidWritten | published => rfl
  | spawned task' tr opts => exact absurd rfl (h task' tr opts)
  | packet task' packet =>
    exact taskState_updateTask_of_phase s task' task _ (enqueue_track packet) (enqueue_phase packet)

lemma taskState_foldl_perform (h : ∀ effect ∈ effs, ∀ task tr opts, effect ≠ .spawned task tr opts)
    (s : Outside) (task : TaskId) : (effs.foldl perform s).taskState task = s.taskState task := by
  induction effs generalizing s with
  | nil => rfl
  | cons effect _ ih =>
    rw [foldl_cons, ih fun e he => h e (mem_cons_of_mem effect he)]
    exact taskState_perform (h effect (.head _)) s task

lemma taskState_spawned (tr : TrackId) (options : PipelineOptions π) (txs : List ResultTx) :
    ((Effect.spawned task tr options ::
        txs.map fun tx => .result tx (.ok task)).foldl perform s).taskState task' =
      if task' = task then some (tr, .running) else s.taskState task' := by
  -- answers start no task
  have hresults : ∀ effect ∈ txs.map fun tx =>
      (.result tx (.ok task) : Effect π), ∀ task tr options, effect ≠ .spawned task tr options := by
    intro _ hm
    obtain ⟨_, -, rfl⟩ := mem_map.mp hm
    simp
  rw [foldl_cons, taskState_foldl_perform hresults]
  change Option.map _ ((s.tasks.insert task ⟨tr, .running, []⟩).lookup task') = _
  rw [AList.lookup_insert_ite]
  split <;> rfl

lemma perform_resubscribe (sid sub) :
    (Manager.resubscribe sid sub : List (Effect π)).foldl perform s = s := by
  unfold Manager.resubscribe
  split <;> rfl

/-- The effect ends something: a track is unpublished or a request refused. -/
def Closing : Effect π → Prop
  | .published _ false => True
  | .result _ (.error _) => True
  | _ => False

lemma perform_closing (h : ∀ effect ∈ effs, Closing effect) (s) :
    (effs.foldl perform s).receivers = s.receivers ∧
      ∀ tr, (effs.foldl perform s).published.lookup tr = some true →
        s.published.lookup tr = some true := by
  induction effs generalizing s with
  | nil => exact ⟨rfl, fun _ => id⟩
  | cons effect _ ih =>
    obtain ⟨hreceivers, hpub⟩ :=
      ih (fun e he => h e (mem_cons_of_mem effect he)) (s.perform effect)
    have heffect := h effect (.head _)
    unfold Closing at heffect
    split at heffect
    next track' =>
      refine ⟨hreceivers, fun tr htr => ?_⟩
      -- the track is no longer published, the others are what they were
      have hinsert := hpub tr htr
      change (s.published.insert track' false).lookup tr = some true at hinsert
      rcases AList.of_lookup_insert hinsert with ⟨-, ⟨⟩⟩ | ⟨-, hbef⟩
      exact hbef
    next => exact ⟨hreceivers, hpub⟩
    next => exact absurd heffect not_false

end Outside

variable {effect : Effect π} {manager m' : Manager π} {effs : List (Effect π)}

lemma closing_of_mem_shutdownEffects {d} (h : effect ∈ Manager.shutdownEffects d) :
    Outside.Closing effect := by
  rcases Manager.mem_shutdownEffects h with rfl | ⟨_, rfl⟩ <;> trivial

lemma Move.not_spawned (h : Move manager effs m') (hm : effect ∈ effs) (task tr opts) :
    effect ≠ .spawned task tr opts := by
  rintro rfl
  cases h with
  | publish | unpublish | configure | deliver | resend => simp at hm
  | reassign hl hnew =>
    rename_i d
    unfold Manager.resubscribe at hm
    cases hsub : d.subscription <;> simp [hsub] at hm
  | shutdown =>
    obtain ⟨e, -, hm⟩ := mem_flatMap.mp hm
    exact closing_of_mem_shutdownEffects hm

lemma Move.lookup_cases (h : Move manager effs m') {sid d'}
    (hl : m'.descriptors.lookup sid = some d') :
    (∃ effect ∈ effs, effect.keys sid) ∨ ∃ d, manager.descriptors.lookup sid = some d ∧
        d'.track = d.track ∧ d'.subscription = d.subscription := by
  cases h with
  | publish =>
    rcases AList.of_lookup_insert hl with ⟨rfl, -⟩ | ⟨-, hl⟩
    · exact .inl ⟨_, mem_singleton_self _, rfl⟩
    · exact .inr ⟨d', hl, rfl, rfl⟩
  | reassign =>
    rcases AList.of_lookup_insert hl with ⟨rfl, -⟩ | ⟨-, hl⟩
    · exact .inl ⟨_, .head _, rfl⟩
    · exact .inr ⟨d', (AList.of_lookup_erase hl).2, rfl, rfl⟩
  | unpublish =>
    -- the remaining moves take descriptors away or change their options
    exact .inr ⟨d', (AList.of_lookup_erase hl).2, rfl, rfl⟩
  | configure h_old =>
    rcases AList.of_lookup_insert hl with ⟨rfl, rfl⟩ | ⟨-, hl⟩
    · exact .inr ⟨_, h_old, rfl, rfl⟩
    · exact .inr ⟨d', hl, rfl, rfl⟩
  | deliver | resend => exact .inr ⟨d', hl, rfl, rfl⟩
  | shutdown => cases hl

end LiveKit.DataTrack.Remote
