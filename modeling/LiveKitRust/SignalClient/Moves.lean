import LiveKitRust.SignalClient.Client

/-!
# What the steps of the signal client can do

`Steps` says what becomes of the data that the calls share and of the calls themselves; it leaves
out the streams and the tickets, which decide only when a call goes on. A step is a new call, a move
of a call (`Move`, one rule for each point of the source where it can go on), an answer to a call
that waits for one (`Answer`), or nothing of this. Every invariant is proved from these rules.
-/

open Locks List

namespace LiveKit.SignalClient

structure Shared where
  reconnecting : Bool
  stream : Option ℕ
  queue : List Outgoing

namespace SignalInner

def shared (self : SignalInner) : Shared := ⟨self.reconnecting, self.stream, self.queue⟩

inductive Flushed (self : SignalInner) : Stage → Prop
  | empty (h : self.queue = []) : Flushed self (.acquired .flush)
  | noStream (h : self.stream = none) : Flushed self (.acquired .drain)
  | drained (n : ℕ) : Flushed self (.draining n [])

inductive Undelivered (self : SignalInner) : Stage → Prop
  | noStream (h : self.stream = none) : Undelivered self (.acquired .send)
  | sendError : Undelivered self (.answered .sendError)

inductive Move (self : SignalInner) (c : ℕ) (connects : Bool) :
    Task → Stage → Shared → Stage → List Event → Prop
  | hold {item} (h : self.reconnecting = true) (h_item : isPassThrough item.signal = false) :
      Move self c connects (.send item) .called self.shared (.acquiring (.push false) none) []
  | normal {item} (h : self.reconnecting = false) :
      Move self c connects (.send item) .called self.shared (.acquiring .flush none) []
  | bypass {item} (h : self.reconnecting = true) (h_item : isPassThrough item.signal = true) :
      Move self c connects (.send item) .called self.shared (.acquiring .send none) []
  | flushQueue : Move self c connects .flushQueue .called self.shared (.acquiring .flush none) []
  | restart :
      Move self c connects .restart .called { self.shared with reconnecting := true }
        (.acquiring .restart none) []
  | setReconnected :
      Move self c connects .setReconnected .called { self.shared with reconnecting := false }
        (.acquiring .flush none) [.reconnected]
  | close {notifyClose} :
      Move self c connects (.close notifyClose) .called self.shared (.acquiring .close none) []
  | ask {task purpose ticket} :
      Move self c connects task (.acquiring purpose none) self.shared
        (.acquiring purpose (some ticket)) []
  | acquire {task purpose ticket}
      (h : admits (fun other : Call => other.stage.holds) (fun other => other.stage.asks) self.calls
        ⟨purpose.lock, purpose.mode, ticket⟩ = true) :
      Move self c connects task (.acquiring purpose (some ticket)) self.shared
        (.acquired purpose) []
  | push {item guarded} :
      Move self c connects (.send item) (.acquired (.push guarded))
        { self.shared with queue := self.queue ++ [item] } .returned [.returned c]
  | nonempty {task} (h : self.queue ≠ []) :
      Move self c connects task (.acquired .flush) self.shared (.acquiring .drain none) []
  | take {task n} (h : self.stream = some n) :
      Move self c connects task (.acquired .drain) { self.shared with queue := [] }
        (.draining n self.queue) []
  | next {task n item rest} :
      Move self c connects task (.draining n (item :: rest)) self.shared (.awaiting n item rest) []
  | flushed {item stage} (h : self.Flushed stage) :
      Move self c connects (.send item) stage self.shared (.acquiring .send none) []
  | flushedOnly {task stage} (h_task : ∀ item, task ≠ .send item) (h : self.Flushed stage) :
      Move self c connects task stage self.shared .returned [.returned c]
  | transmit {item n} (h : self.stream = some n) :
      Move self c connects (.send item) (.acquired .send) self.shared (.sending n) []
  | dropped {item stage} (h_item : isPassThrough item.signal = true) (h : self.Undelivered stage) :
      Move self c connects (.send item) stage self.shared .returned [.returned c]
  | kept {item stage} (h_item : isPassThrough item.signal = false) (h : self.Undelivered stage) :
      Move self c connects (.send item) stage self.shared (.acquiring (.push true) none) []
  | done {task result} (h : result ≠ .sendError) :
      Move self c connects task (.answered result) self.shared .returned [.returned c]
  | takeOld {task purpose n} (h_purpose : purpose = .restart ∨ purpose = .close)
      (h : self.stream = some n) :
      Move self c connects task (.acquired purpose) { self.shared with stream := none }
        (.closing n) []
  | noOld {task} (h : self.stream = none) :
      Move self c connects task (.acquired .restart) self.shared .connecting []
  | nothing {task} (h : self.stream = none) :
      Move self c connects task (.acquired .close) self.shared .returned [.returned c]
  | oldClosed {n} : Move self c connects .restart (.closing n) self.shared .connecting []
  | closed {task n} (h_task : task ≠ .restart) :
      Move self c connects task (.closing n) self.shared .returned [.returned c]
  | install {task n} (h : connects = true) :
      Move self c connects task .connecting { self.shared with stream := some n } .returned
        [.installed, .returned c]
  | fail {task} : Move self c connects task .connecting self.shared .failed []
  | reset {task} :
      Move self c connects task .failed { self.shared with reconnecting := false } .returned
        [.returned c]

/-- A call gets the answer it waits for. -/
inductive Answer : Task → SendResult → Stage → Stage → List Event → Prop
  | send {item n result} :
      Answer (.send item) result (.sending n) (.answered result)
        (if result = .ok then [.written item] else [])
  | drain {task n item rest result} :
      Answer task result (.awaiting n item rest) (.draining n rest)
        (if result = .ok then [.written item] else [])

inductive Answers (self : SignalInner) : Input → ℕ → SendResult → Prop
  | written {n c channel} (h : self.streams[n]? = some ⟨.signal c :: channel, false⟩) :
      Answers self (.write n true) c .ok
  | failed {n c channel} (h : self.streams[n]? = some ⟨.signal c :: channel, false⟩) :
      Answers self (.write n false) c .wsError
  | discarded {n c channel} (h : self.streams[n]? = some ⟨.signal c :: channel, true⟩) :
      Answers self (.discard n) c .sendError

inductive Steps (self : SignalInner) : Input → Shared → List Call → List Event → Prop
  | call (method : Method) :
      Steps self (.call method) self.shared
        (self.calls ++ [⟨method.task self.calls.length, .called⟩]) [.made self.calls.length]
  | idle (input : Input) : Steps self input self.shared self.calls []
  | move {c connects task stage stage' shared events} (h_call : self.calls[c]? = some ⟨task, stage⟩)
      (h : Move self c connects task stage shared stage' events) :
      Steps self (.advance c connects) shared (self.calls.set c ⟨task, stage'⟩) events
  | answer {input c result task stage stage' events} (h_call : self.calls[c]? = some ⟨task, stage⟩)
      (h_answers : self.Answers input c result) (h : Answer task result stage stage' events) :
      Steps self input self.shared (self.calls.set c ⟨task, stage'⟩) events

abbrev StepsTo (self : SignalInner) (input : Input) (after : SignalInner × List Event) : Prop :=
  Steps self input after.1.shared after.1.calls after.2

section Inversion

variable {s : SignalInner} {c : ℕ} {task : Task} {stage : Stage} {connects : Bool}

lemma steps_afterFlush (hc : s.calls[c]? = some ⟨task, stage⟩) (h : s.Flushed stage) :
    StepsTo s (.advance c connects) (s.afterFlush c ⟨task, stage⟩) := by
  cases task with
  | send => exact .move hc (.flushed h)
  | _ =>
    exact .move hc (.flushedOnly nofun h)

variable {item : Outgoing} {res : SendResult}

lemma steps_undelivered (hc : s.calls[c]? = some ⟨.send item, stage⟩) (h : s.Undelivered stage) :
    StepsTo s (.advance c connects) (s.undelivered c ⟨.send item, stage⟩ item) := by
  unfold undelivered
  split
  next hitem => exact .move hc (.dropped hitem h)
  next hitem => exact .move hc (.kept (eq_false_of_ne_true hitem) h)

lemma steps_start (hc : s.calls[c]? = some ⟨task, .called⟩) :
    StepsTo s (.advance c connects) (s.start c ⟨task, .called⟩) := by
  cases task with
  | send item =>
    unfold start
    dsimp only
    cases hrec : s.reconnecting with
    | false => exact .move hc (.normal hrec)
    | true =>
      cases hitem : isPassThrough item.signal with
      | false => exact .move hc (.hold hrec hitem)
      | true => exact .move hc (.bypass hrec hitem)
  | flushQueue => exact .move hc .flushQueue
  | restart => exact .move hc .restart
  | setReconnected => exact .move hc .setReconnected
  | close => exact .move hc .close

lemma steps_proceed {purpose} (hc : s.calls[c]? = some ⟨task, .acquired purpose⟩) :
    StepsTo s (.advance c connects) (s.proceed c ⟨task, .acquired purpose⟩ purpose) := by
  cases purpose with
  | push =>
    cases task with
    | send => exact .move hc .push
    | _ => exact .idle _
  | flush =>
    dsimp only [proceed]
    split
    next hempty => exact steps_afterFlush hc (.empty (length_eq_zero_iff.mp hempty))
    next hempty => exact .move hc (.nonempty fun hnil => hempty (congrArg length hnil))
  | drain =>
    dsimp only [proceed]
    split
    next hs => exact steps_afterFlush hc (.noStream hs)
    next n hs => exact .move hc (.take hs)
  | send =>
    dsimp only [proceed]
    split
    next hs => exact steps_undelivered hc (.noStream hs)
    next n hs => exact .move hc (.transmit hs)
    · exact .idle _
  | restart =>
    dsimp only [proceed]
    split
    next hs => exact .move hc (.noOld hs)
    next n hs => exact .move hc (.takeOld (.inl rfl) hs)
  | close =>
    dsimp only [proceed]
    split
    next hs => exact .move hc (.nothing hs)
    next n hs =>
      split
      · exact .move hc (.takeOld (.inr rfl) hs)
      · exact .move hc (.takeOld (.inr rfl) hs)

lemma steps_resume (hc : s.calls[c]? = some ⟨task, stage⟩) :
    StepsTo s (.advance c connects) (s.resume c ⟨task, stage⟩ connects) := by
  cases stage with
  | called => exact steps_start hc
  | acquiring _ ticket =>
    cases ticket with
    | none => exact .move hc .ask
    | some =>
      dsimp only [resume]
      split
      next hadmits => exact .move hc (.acquire hadmits)
      · exact .idle _
  | acquired => exact steps_proceed hc
  | draining n rest =>
    cases rest with
    | nil => exact steps_afterFlush hc (.drained n)
    | cons => exact .move hc .next
  | awaiting | sending | returned => exact .idle _
  | answered res =>
    cases res with
    | ok | wsError => exact .move hc (.done nofun)
    | sendError =>
      cases task with
      | send => exact steps_undelivered hc .sendError
      | _ => exact .idle _
  | closing =>
    dsimp only [resume]
    split
    · split
      next ht =>
        cases ht
        exact .move hc .oldClosed
      next ht => exact .move hc (.closed ht)
    · exact .idle _
  | connecting =>
    dsimp only [resume, connect]
    split
    next hconnects => exact .move hc (.install hconnects)
    · exact .move hc .fail
  | failed => exact .move hc .reset

lemma answer_of_onAnswer {st'} (h : onAnswer ⟨task, stage⟩ res = some (item, st')) :
    Answer task res stage st' (if res = .ok then [.written item] else []) := by
  cases stage with
  | sending =>
    cases task with
    | send =>
      cases h
      exact .send
    | _ => cases h
  | awaiting =>
    cases h
    exact .drain
  | _ => cases h

lemma steps_answer {i : Input} (hanswers : s.Answers i c res)
    {told : SignalInner} (hshared : told.shared = s.shared) (hcalls : told.calls = s.calls) :
    StepsTo s i (told.answer c res) := by
  have hidle : Steps s i told.shared told.calls [] := by
    rw [hshared, hcalls]
    exact .idle i
  unfold answer
  rw [hcalls]
  split
  · exact hidle
  next call hc =>
    split
    · exact hidle
    next stage han =>
      have hset : (told.setStage c call stage).calls = s.calls.set c ⟨call.task, stage⟩ :=
        congrArg (set · c _) hcalls
      have hsm : (told.setStage c call stage).shared = s.shared := hshared
      rw [StepsTo, hset, hsm]
      exact .answer hc hanswers (answer_of_onAnswer han)

theorem steps_step (s : SignalInner) (i : Input) :
    Steps s i (s.step i).1.shared (s.step i).1.calls (s.step i).2 := by
  cases i with
  | call method => exact .call method
  | advance c =>
    dsimp only [step]
    cases hc : s.calls[c]? with
    | none => exact .idle _
    | some => exact steps_resume hc
  | write =>
    dsimp only [step, write]
    split
    next channel hs =>
      split
      next hsucceeds =>
        subst hsucceeds
        exact steps_answer (.written hs) rfl rfl
      next hsucceeds =>
        obtain rfl := eq_false_of_ne_true hsucceeds
        exact steps_answer (.failed hs) rfl rfl
    · exact .idle _
    · exact .idle _
  | discard =>
    dsimp only [step, discard]
    split
    next channel hs => exact steps_answer (.discarded hs) rfl rfl
    · exact .idle _
    · exact .idle _
  | endStream => exact .idle _

end Inversion

/-! ### The stages that a task goes through -/

def isPurposeOf : Task → Purpose → Bool
  | .send _, .push _ | .send _, .flush | .send _, .drain | .send _, .send => true
  | .flushQueue, .flush | .flushQueue, .drain => true
  | .setReconnected, .flush | .setReconnected, .drain => true
  | .restart, .restart => true
  | .close _, .close => true
  | _, _ => false

def isStageOf : Task → Stage → Bool
  | _, .called | _, .returned => true
  | task, .acquiring purpose _ | task, .acquired purpose => isPurposeOf task purpose
  | task, .draining .. | task, .awaiting .. => isPurposeOf task .drain
  | .send _, .sending _ | .send _, .answered _ => true
  | .restart, .closing _ | .restart, .connecting | .restart, .failed => true
  | .close _, .closing _ => true
  | _, _ => false

def Staged (calls : List Call) : Prop := ∀ call ∈ calls, isStageOf call.task call.stage = true

/-- What a flush has taken from the queue. -/
def taken : Stage → List Outgoing
  | .draining _ rest => rest
  | .awaiting _ item rest => item :: rest
  | _ => []

section Staged

variable {s : SignalInner} {c : ℕ} {task : Task} {stage st' : Stage} {evs : List Event}

lemma Flushed.taken_eq_nil (h : s.Flushed stage) : taken stage = [] := by
  cases h with
  | empty | noStream | drained => rfl

lemma Undelivered.taken_eq_nil (h : s.Undelivered stage) : taken stage = [] := by
  cases h with
  | noStream | sendError => rfl

lemma isPurposeOf_drain (h : isPurposeOf task .flush = true) : isPurposeOf task .drain = true := by
  cases task with
  | send | flushQueue | setReconnected => rfl
  | restart | close => cases h

variable {shared : Shared}

lemma Move.staged {connects} (h : Move s c connects task stage shared st' evs)
    (hs : isStageOf task stage = true) : isStageOf task st' = true := by
  cases h with
  | ask | acquire | take | next => exact hs
  | nonempty => exact isPurposeOf_drain hs
  | takeOld hpurpose =>
    rcases hpurpose with rfl | rfl
    · cases task <;> first | rfl | cases hs
    · cases task <;> first | rfl | cases hs
  | noOld | fail => cases task <;> first | rfl | cases hs
  | _ => rfl

lemma Answer.staged {res} (h : Answer task res stage st' evs) (hs : isStageOf task stage = true) :
    isStageOf task st' = true := by
  cases h with
  | send => rfl
  | drain => exact hs

lemma staged_steps (h : Staged s.calls) {i calls} (hsteps : Steps s i shared calls evs) :
    Staged calls := by
  cases hsteps with
  | call method =>
    refine forall_mem_append.mpr ⟨h, forall_mem_singleton.mpr ?_⟩
    cases method <;> rfl
  | idle => exact h
  | move hc hmv => exact Tables.forall_mem_set h (hmv.staged (h _ (mem_of_getElem? hc)))
  | answer hc _ han => exact Tables.forall_mem_set h (han.staged (h _ (mem_of_getElem? hc)))

end Staged

end SignalInner

end LiveKit.SignalClient
