import LiveKitRust.Base.Machine

/-!
# Publishing data over FFI (`livekit-ffi/src/server/room.rs`)

`publish_data`, `publish_transcription` and `publish_sip_dtmf` put a request into the queue of a
task, which answers it with a callback. A request that finds no task gets its callback from a task
of its own. `close` has the tasks stop, and a task that takes up the close signal drops the requests
that are left in its queue (`answered_of_drained`).

If the client is not ready in time, `connect` closes the room and drops the queues before any task
runs. For the requests in them this is the same as if the tasks had stopped.
-/

open Machine

namespace LiveKit.Ffi

inductive PublishKind where
  | data
  | transcription
  | sipDtmf
  deriving DecidableEq

/-- Requests and callbacks, by their async ids. -/
inductive PublishEvent where
  | requested (kind : PublishKind) (asyncId : ℕ)
  | callback (kind : PublishKind) (asyncId : ℕ)
  deriving DecidableEq

/-- `data_task`, `transcription_task` or `sip_dtmf_task`. -/
structure PublishTask where
  running : Bool := true
  rx : List ℕ := []
  /-- The request whose publishing is awaited. -/
  publishing : Option ℕ := none

def PublishTask.requests (self : PublishTask) : List ℕ := self.rx ++ self.publishing.toList

/-- The room, with its tasks and the callbacks that were spawned for requests it did not take. -/
structure FfiRoom where
  tasks : PublishKind → PublishTask := fun _ => {}
  spawned : List (PublishKind × ℕ) := []
  closed : Bool := false

namespace FfiRoom

variable (self : FfiRoom)

/-- A request comes in, its task takes it up or is done with it, a spawned callback is sent, or the
room is closed and a task takes up the signal. -/
inductive Action where
  | publish (kind : PublishKind) (asyncId : ℕ)
  | recv (kind : PublishKind)
  | published (kind : PublishKind)
  | runSpawned
  | close
  | stop (kind : PublishKind)

def setTask (kind : PublishKind) (task : PublishTask) : FfiRoom :=
  { self with tasks := Function.update self.tasks kind task }

/-- One step, with the requests and callbacks. A task looks at the signal between two requests only,
and what is in its queue goes with it. -/
def step : Action → FfiRoom × List PublishEvent
  | .publish kind asyncId =>
    let task := self.tasks kind
    (if task.running then self.setTask kind { task with rx := task.rx ++ [asyncId] }
      else { self with spawned := self.spawned ++ [(kind, asyncId)] }, [.requested kind asyncId])
  | .recv kind =>
    match self.tasks kind with
    | ⟨true, asyncId :: rx, none⟩ => (self.setTask kind ⟨true, rx, some asyncId⟩, [])
    | _ => (self, [])
  | .published kind =>
    match self.tasks kind with
    | ⟨running, rx, some asyncId⟩ =>
      (self.setTask kind ⟨running, rx, none⟩, [.callback kind asyncId])
    | _ => (self, [])
  | .runSpawned =>
    match self.spawned with
    | [] => (self, [])
    | (kind, asyncId) :: spawned => ({ self with spawned }, [.callback kind asyncId])
  | .close => ({ self with closed := true }, [])
  | .stop kind =>
    match self.tasks kind with
    | ⟨true, _, none⟩ => (if self.closed then self.setTask kind ⟨false, [], none⟩ else self, [])
    | _ => (self, [])

/-- The requests of a kind that are still to be answered. -/
def outstanding (kind : PublishKind) : List ℕ :=
  (self.tasks kind).requests ++ (self.spawned.filter (·.1 = kind)).map Prod.snd

/-- A task stops only when its queue is empty. -/
def Drained (self : FfiRoom) : Action → Prop
  | .stop kind => (self.tasks kind).rx = []
  | _ => True

def Answered (log : List PublishEvent) (self : FfiRoom) : Prop :=
  ∀ kind asyncId, log.count (.requested kind asyncId) =
    log.count (.callback kind asyncId) + (self.outstanding kind).count asyncId

lemma outstanding_setTask (kind kind' task) :
    (self.setTask kind' task).outstanding kind =
      (if kind = kind' then task.requests else (self.tasks kind).requests) ++
        (self.spawned.filter (·.1 = kind)).map Prod.snd := by
  simp only [outstanding, setTask, Function.update_apply]
  split <;> rfl

lemma Answered.step {self log a} (h : Answered log self) (hdrained : self.Drained a) :
    Answered (log ++ (self.step a).2) (self.step a).1 := by
  intro kind asyncId
  have hkind := h kind asyncId
  unfold outstanding PublishTask.requests at hkind
  unfold FfiRoom.step
  cases a with
  | publish | recv | published =>
    dsimp only
    split <;> grind [outstanding, outstanding_setTask, PublishTask.requests]
  | runSpawned =>
    dsimp only
    split <;> grind [outstanding, PublishTask.requests]
  | close => grind [outstanding, PublishTask.requests]
  | stop kind' =>
    dsimp only
    split <;> grind [outstanding, outstanding_setTask, PublishTask.requests, Drained]

/-- **Callbacks.** In a run in which the tasks stop with empty queues, every request has had its one
callback or is still to be answered. -/
theorem answered_of_drained {actions : List Action} (h : Along step Drained {} actions)
    (kind : PublishKind) (asyncId : ℕ) :
    (outputs step {} actions).count (.requested kind asyncId) =
      (outputs step {} actions).count (.callback kind asyncId) +
        ((state step {} actions).outstanding kind).count asyncId := by
  have hinit : Answered [] {} := fun _ _ => rfl
  have hanswered := h.run_of_step hinit fun _ _ _ hs hdrained => hs.step hdrained
  exact hanswered kind asyncId

theorem answered_of_drained_one :
    let actions := [.publish .data 7, .recv .data, .close, .published .data, .stop .data]
    (outputs step {} actions).count (.requested .data 7) = (outputs step {} actions).count
      (.callback .data 7) + ((state step {} actions).outstanding .data).count 7 := by
  refine answered_of_drained ?_ .data 7
  exact ⟨trivial, trivial, trivial, trivial, rfl, trivial⟩

/-- The task stops with a request in its queue, which is then nowhere. -/
theorem request_dropped :
    let actions := [.publish .data 7, .close, .stop .data]
    outputs step {} actions = [.requested .data 7] ∧
      (state step {} actions).outstanding .data = [] := by
  decide

end FfiRoom

end LiveKit.Ffi
