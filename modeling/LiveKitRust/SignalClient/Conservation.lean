import LiveKitRust.Base.Machine
import LiveKitRust.SignalClient.Moves
import Mathlib.Data.List.Nodup

/-!
# No signal is lost

A signal that is passed to `send` and may be queued is written once, or in the queue once, or in the
hands of one call: the `send` itself, or a flush that has taken it from the queue. Each rule moves
it from one of these places to another (`Move.balance`). It is lost only by the answer to a message:
by a `send` if writing it fails, as only `SendError` is answered with queueing it, and by a flush
whatever goes wrong (`lost`). As long as this does not happen, each signal is in one of the places
(`signals_conserved`).
-/

open Machine List

namespace LiveKit.SignalClient.SignalInner

/-! ### In the hands of a call -/

/-- A `send` at this stage has nothing more to do with its signal. -/
def isSettled : Stage → Bool
  | .answered .ok | .answered .wsError | .returned => true
  | _ => false

/-- The signal of a `send`, until it is written, queued or given up. -/
def own (call : Call) : List Outgoing :=
  match call.task with
  | .send item => if isSettled call.stage then [] else [item]
  | _ => []

def carried (call : Call) : List Outgoing := own call ++ taken call.stage

def inHand (calls : List Call) : List Outgoing := calls.flatMap carried

/-- The signal that goes with the answer, if any. -/
def lost (call : Call) (result : SendResult) : Option Outgoing :=
  match result, call.stage, call.task with
  | .ok, _, _ => none
  | _, .awaiting _ item _, _ => some item
  | .wsError, .sending _, .send item => some item
  | _, _, _ => none

/-- The call whose message is the next one in a channel. -/
def nextCaller (self : SignalInner) (n : ℕ) (ended : Bool) : Option ℕ :=
  match self.streams[n]? with
  | some ⟨.signal caller :: _, ended'⟩ => if ended' = ended then some caller else none
  | _ => none

/-- The answer does not take a signal with it that may be queued. -/
def Keeps (self : SignalInner) (caller : ℕ) (result : SendResult) : Prop :=
  ∀ call ∈ self.calls[caller]?, ∀ item ∈ lost call result, isPassThrough item.signal = true
  deriving Decidable

/-- Writing a signal that may be queued does not fail, and a flush gets no signal back. -/
def Delivers (self : SignalInner) : Input → Prop
  | .write n false => ∀ caller ∈ self.nextCaller n false, self.Keeps caller .wsError
  | .discard n => ∀ caller ∈ self.nextCaller n true, self.Keeps caller .sendError
  | _ => True

instance (self : SignalInner) (input : Input) : Decidable (self.Delivers input) := by
  unfold Delivers
  split <;> infer_instance

section Balance

variable {s : SignalInner} {c : ℕ} {task : Task} {stage st' : Stage} {evs : List Event}
  {item : Outgoing}

lemma own_eq_nil (h : ∀ item, task ≠ .send item) : own ⟨task, stage⟩ = [] := by
  cases task with
  | send item => exact absurd rfl (h item)
  | _ => rfl

lemma carried_congr (hset : isSettled st' = isSettled stage)
    (htk : taken st' = taken stage) : carried ⟨task, st'⟩ = carried ⟨task, stage⟩ := by
  unfold carried own
  rw [hset, htk]

lemma carried_of_not_send (ht : ∀ item, task ≠ .send item) (htk : taken stage = []) :
    carried ⟨task, stage⟩ = [] := by
  unfold carried
  rw [own_eq_nil ht, htk]
  rfl

lemma Flushed.not_carried (h : s.Flushed stage) : isSettled stage = false ∧ taken stage = [] := by
  refine ⟨?_, h.taken_eq_nil⟩
  cases h <;> rfl

lemma Undelivered.not_carried (h : s.Undelivered stage) :
    isSettled stage = false ∧ taken stage = [] := by
  refine ⟨?_, h.taken_eq_nil⟩
  cases h <;> rfl

variable {sent : Outgoing} {result : SendResult}

lemma carried_send (h : isSettled stage = false ∧ taken stage = []) :
    carried ⟨.send sent, stage⟩ = [sent] := by
  unfold carried own
  rw [h.1, h.2]
  rfl

lemma carried_returned (task : Task) : carried ⟨task, .returned⟩ = [] := by
  cases task with
  | send => rfl
  | _ => rfl

lemma ne_of_passThrough (hsent : isPassThrough sent.signal = true)
    (hitem : isPassThrough item.signal = false) : sent ≠ item := by
  rintro rfl
  cases hsent.symm.trans hitem

lemma count_singleton_of_ne (h : sent ≠ item) : [sent].count item = 0 :=
  count_eq_zero.mpr fun hm => h (mem_singleton.mp hm).symm

lemma Move.balance {connects shared} (h : Move s c connects task stage shared st' evs)
    (hs : isStageOf task stage = true) (hitem : isPassThrough item.signal = false) :
    evs.count (.written item) + shared.queue.count item + (carried ⟨task, st'⟩).count item =
      s.queue.count item + (carried ⟨task, stage⟩).count item := by
  -- most moves leave everything where it is
  have hsm {shared : Shared} {evs : List Event} {stage st' : Stage}
      (hevs : evs.count (.written item) = 0) (hq : shared.queue = s.queue)
      (hcarried : carried ⟨task, st'⟩ = carried ⟨task, stage⟩) :
      evs.count (.written item) + shared.queue.count item + (carried ⟨task, st'⟩).count item =
        s.queue.count item + (carried ⟨task, stage⟩).count item := by
    rw [hevs, hq, hcarried, Nat.zero_add]
  -- a call that is no `send` has nothing to return with
  have hret {stage : Stage} (hs : isStageOf task stage = true)
      (hsend : ∀ sent, isStageOf (.send sent) stage = false) (htk : taken stage = []) :
      carried ⟨task, .returned⟩ = carried ⟨task, stage⟩ := by
    have ht (sent : Outgoing) : task ≠ .send sent := by
      rintro rfl
      rw [hsend sent] at hs
      cases hs
    rw [carried_returned, carried_of_not_send ht htk]
  cases h with
  | @push sent guarded =>
    rw [carried_returned, @carried_send (.acquired (.push guarded)) sent ⟨rfl, rfl⟩]
    show 0 + (s.queue ++ [sent]).count item + 0 = _
    rw [count_append, Nat.zero_add, Nat.add_zero]
  | @take _ n =>
    have htk : carried ⟨task, .draining n s.queue⟩ =
        carried ⟨task, .acquired .drain⟩ ++ s.queue := by
      unfold carried
      exact congrArg (· ++ s.queue) (append_nil _).symm
    rw [htk, count_append]
    show 0 + 0 + _ = _
    omega
  | flushed h | kept _ h =>
    obtain ⟨hset, htk⟩ := h.not_carried
    exact hsm rfl rfl (carried_congr hset.symm htk.symm)
  | flushedOnly ht h =>
    obtain ⟨_, htk⟩ := h.not_carried
    refine hsm rfl rfl ?_
    rw [carried_of_not_send ht htk, carried_returned]
  | @dropped _ _ hsent h =>
    rw [carried_returned, carried_send h.not_carried,
      count_singleton_of_ne (ne_of_passThrough hsent hitem)]
    exact Nat.zero_add _
  | @done _ result h =>
    have hset : isSettled (.answered result) = true := by
      cases result with
      | ok | wsError => rfl
      | sendError => exact absurd rfl h
    exact hsm rfl rfl (carried_congr hset.symm rfl)
  | nothing | closed | install | reset => exact hsm rfl rfl (hret hs (fun _ => rfl) rfl)
  | takeOld hpurpose =>
    rcases hpurpose with rfl | rfl <;> exact hsm rfl rfl (carried_congr rfl rfl)
  | _ => exact hsm rfl rfl (carried_congr rfl rfl)

lemma count_written (sent) : [Event.written sent].count (.written item) = [sent].count item := by
  simp [count_singleton]

lemma Answer.balance (h : Answer task result stage st' evs)
    (hkp : ∀ sent ∈ lost ⟨task, stage⟩ result, isPassThrough sent.signal = true)
    (hitem : isPassThrough item.signal = false) :
    evs.count (.written item) + (carried ⟨task, st'⟩).count item =
      (carried ⟨task, stage⟩).count item := by
  cases h with
  | @send sent n =>
    rw [@carried_send (.sending n) sent ⟨rfl, rfl⟩]
    cases result with
    | ok =>
      show [Event.written sent].count (.written item) + 0 = _
      rw [count_written, Nat.add_zero]
    | wsError =>
      rw [count_singleton_of_ne (ne_of_passThrough (hkp sent rfl) hitem)]
      rfl
    | sendError =>
      exact Nat.zero_add _
  | @drain _ n sent rest =>
    have hcarried : (carried ⟨task, .awaiting n sent rest⟩).count item =
        [sent].count item + (carried ⟨task, .draining n rest⟩).count item := by
      unfold carried
      rw [show own ⟨task, .awaiting n sent rest⟩ = own ⟨task, .draining n rest⟩ from rfl,
        count_append, count_append]
      show _ + (sent :: rest).count item = _ + (_ + rest.count item)
      rw [count_cons, count_singleton]
      omega
    rw [hcarried]
    cases result with
    | ok =>
      show [Event.written sent].count (.written item) + _ = _
      rw [count_written]
    | wsError | sendError =>
      rw [count_singleton_of_ne (ne_of_passThrough (hkp sent rfl) hitem)]
      rfl

lemma Answers.keeps {i} (h : s.Answers i c result) (hdelivers : s.Delivers i) :
    s.Keeps c result := by
  cases h with
  | written => exact fun call _ sent hlost => by cases hlost
  | failed h | discarded h =>
    refine hdelivers c ?_
    unfold nextCaller
    rw [h]
    rfl

end Balance

/-! ### What was passed to `send` -/

def passedTo : Task → List Outgoing
  | .send item => [item]
  | _ => []

def passed (calls : List Call) : List Outgoing := calls.flatMap fun call => passedTo call.task

structure Numbered (calls : List Call) : Prop where
  lt : ∀ item ∈ passed calls, item.call < calls.length
  nodup : (passed calls).Nodup

section Passed

variable {s : SignalInner} {c : ℕ} {task : Task} {stage st' : Stage} {calls : List Call}

lemma passed_set (hc : calls[c]? = some ⟨task, stage⟩) :
    passed (calls.set c ⟨task, st'⟩) = passed calls :=
  Tables.flatMap_set_of_eq hc rfl

lemma passed_call (calls task) :
    passed (calls ++ [⟨task, .called⟩]) = passed calls ++ passedTo task := by
  unfold passed
  rw [flatMap_append]
  exact congrArg (_ ++ ·) (flatMap_singleton ..)

lemma numbered_call (h : Numbered calls) (method : Method) :
    Numbered (calls ++ [⟨method.task calls.length, .called⟩]) := by
  have hnew : ∀ item ∈ passedTo (method.task calls.length), item.call = calls.length := by
    intro _ hm
    cases method with
    | send =>
      rw [mem_singleton.mp hm]
    | _ => cases hm
  constructor
  · intro item hm
    rw [length_append, length_singleton]
    rw [passed_call] at hm
    rcases mem_append.mp hm with hm | hm
    · exact Nat.lt_succ_of_lt (h.lt item hm)
    · rw [hnew item hm]
      exact Nat.lt_succ_self _
  · rw [passed_call]
    refine nodup_append.mpr ⟨h.nodup, ?_, ?_⟩
    · cases method with
      | send => exact nodup_singleton _
      | _ => exact nodup_nil
    · rintro item hm _ hm' rfl
      have hlt := h.lt item hm
      rw [hnew item hm'] at hlt
      exact Nat.lt_irrefl _ hlt

lemma numbered_steps (h : Numbered s.calls) {i shared evs} (hsteps : Steps s i shared calls evs) :
    Numbered calls := by
  cases hsteps with
  | call method => exact numbered_call h method
  | idle => exact h
  | move hc | answer hc =>
    refine ⟨?_, ?_⟩
    · rw [passed_set hc, length_set]
      exact h.lt
    · rw [passed_set hc]
      exact h.nodup

end Passed

/-! ### Runs -/

/-- How often a signal was written, is in the queue and is in the hands of a call. -/
def places (log : List Event) (queue : List Outgoing) (calls : List Call) (item : Outgoing) : ℕ :=
  log.count (.written item) + queue.count item + (inHand calls).count item

/-- A signal that may be queued is in as many places as there are calls it was passed to. -/
structure Accounted (log : List Event) (inner : SignalInner) : Prop where
  staged : Staged inner.calls
  numbered : Numbered inner.calls
  places_eq : ∀ item, isPassThrough item.signal = false →
    places log inner.queue inner.calls item = (passed inner.calls).count item

variable {s : SignalInner} {i : Input} {calls : List Call}

lemma places_steps (hstaged : Staged s.calls) (hdelivers : s.Delivers i) {shared evs}
    (hsteps : Steps s i shared calls evs) {item} (hitem : isPassThrough item.signal = false) (log) :
    places (log ++ evs) shared.queue calls item + (passed s.calls).count item =
      places log s.queue s.calls item + (passed calls).count item := by
  unfold places
  rw [count_append]
  cases hsteps with
  | call method =>
    have hhand : inHand (s.calls ++ [⟨method.task s.calls.length, .called⟩]) =
        inHand s.calls ++ passedTo (method.task s.calls.length) := by
      unfold inHand
      rw [flatMap_append]
      cases method <;> rfl
    rw [hhand, passed_call, count_append, count_append]
    show _ + 0 + s.queue.count item + _ + _ = _
    omega
  | idle => rfl
  | @move _ _ task _ st' _ _ hc hmv =>
    have hbalance := hmv.balance (hstaged _ (mem_of_getElem? hc)) hitem
    have hcount := Tables.count_flatMap_set carried hc ⟨task, st'⟩ item
    rw [passed_set hc]
    unfold inHand
    omega
  | @answer _ _ _ task _ st' _ hc hanswers han =>
    have hkp := hanswers.keeps hdelivers _ hc
    have hbalance := han.balance hkp hitem
    have hcount := Tables.count_flatMap_set carried hc ⟨task, st'⟩ item
    rw [passed_set hc]
    unfold inHand
    show _ + s.queue.count item + _ + _ = _
    omega

lemma accounted_step {log} (h : Accounted log s) (hdelivers : s.Delivers i) :
    Accounted (log ++ (s.step i).2) (s.step i).1 := by
  have hsteps := steps_step s i
  refine ⟨staged_steps h.staged hsteps, numbered_steps h.numbered hsteps, fun item hitem => ?_⟩
  have hplaces := places_steps h.staged hdelivers hsteps hitem log
  have hbef := h.places_eq item hitem
  show places _ (s.step i).1.shared.queue _ item = _
  omega

lemma accounted_run {is} (h : Along step Delivers connected is) :
    Accounted (outputs step connected is) (Machine.state step connected is) := by
  show Accounted ([] ++ outputs step connected is) _
  refine h.run_of_step (P := Accounted) ⟨nofun, ⟨nofun, nodup_nil⟩, fun _ _ => rfl⟩ ?_
  exact fun _ _ _ haccounted hdelivers => accounted_step haccounted hdelivers

lemma inHand_of_returned (h : ∀ call ∈ calls, call.stage = .returned) : inHand calls = [] := by
  unfold inHand
  rw [flatMap_eq_nil_iff]
  intro call hm
  obtain ⟨task, stage⟩ := call
  obtain rfl : stage = .returned := h _ hm
  exact carried_returned task

/-- **Conservation.** A signal that was passed to `send` and may be queued has been written once, or
is in the queue once, or in the hands of one call; so it is one of the first two when all calls have
returned. -/
theorem signals_conserved {inputs : List Input} (h : Along step Delivers connected inputs)
    {item : Outgoing} (h_passed : item ∈ passed (Machine.state step connected inputs).calls)
    (h_item : isPassThrough item.signal = false) :
    let log := outputs step connected inputs
    let inner := Machine.state step connected inputs
    log.count (.written item) + inner.queue.count item + (inHand inner.calls).count item = 1 ∧
      ((∀ call ∈ inner.calls, call.stage = .returned) →
        log.count (.written item) + inner.queue.count item = 1) := by
  intro log inner
  have haccounted : Accounted log inner := accounted_run h
  have hone : (passed inner.calls).count item = 1 :=
    count_eq_one_of_mem haccounted.numbered.nodup h_passed
  have hplaces : log.count (.written item) + inner.queue.count item +
      (inHand inner.calls).count item = 1 := by
    rw [← hone]
    exact haccounted.places_eq item h_item
  refine ⟨hplaces, fun hret => ?_⟩
  rw [inHand_of_returned hret] at hplaces
  exact hplaces

/-- A signal comes back when the stream ends, and is written to the next one. -/
def writtenAfterRestart : List Input :=
  .call (.send ⟨.mute, [0]⟩) :: List.replicate 7 (.advance 0 false) ++ [.endStream 0, .discard 0] ++
    List.replicate 4 (.advance 0 false) ++ [.call .restart] ++ List.replicate 6 (.advance 1 true) ++
    [.call .setReconnected] ++ List.replicate 8 (.advance 2 false) ++
    [.write 1 true, .advance 2 false]

theorem signals_conserved_writtenAfterRestart : let item : Outgoing := ⟨0, ⟨.mute, [0]⟩⟩
    let inner := Machine.state step connected writtenAfterRestart
    (∀ call ∈ inner.calls, call.stage = .returned) ∧
      (outputs step connected writtenAfterRestart).count (.written item) +
        inner.queue.count item = 1 := by
  have hdelivers : Along step Delivers connected writtenAfterRestart := by decide +kernel
  have hret : ∀ call ∈ (state step connected writtenAfterRestart).calls,
      call.stage = .returned := by decide +kernel
  exact ⟨hret, (signals_conserved hdelivers (by decide +kernel) rfl).2 hret⟩

/-- The first signal of a flush cannot be written, which ends the task of the stream; so the second
one comes back. -/
def flushedToDeadStream : List Input :=
  .call .restart :: List.replicate 4 (.advance 0 true) ++
    [.endStream 0, .advance 0 true, .advance 0 true] ++
    .call (.send ⟨.mute, [0]⟩) :: List.replicate 4 (.advance 1 false) ++
    .call (.send ⟨.mute, [1]⟩) :: List.replicate 4 (.advance 2 false) ++
    .call .setReconnected :: List.replicate 8 (.advance 3 false) ++
    [.write 1 false, .advance 3 false, .discard 1, .advance 3 false]

/-- Writing a signal fails with an error of the WebSocket. -/
def writeFails : List Input :=
  .call (.send ⟨.mute, [0]⟩) :: List.replicate 7 (.advance 0 false) ++
    [.write 0 false, .advance 0 false]

/-- All calls return, and no signal has been written or is in the queue. -/
theorem signals_lost : let flushed := Machine.state step connected flushedToDeadStream
    let failed := Machine.state step connected writeFails
    (passed flushed.calls = [⟨1, ⟨.mute, [0]⟩⟩, ⟨2, ⟨.mute, [1]⟩⟩] ∧ flushed.queue = [] ∧
      (∀ call ∈ flushed.calls, call.stage = .returned) ∧
      ∀ item ∈ passed flushed.calls, .written item ∉ outputs step connected flushedToDeadStream) ∧
    passed failed.calls = [⟨0, ⟨.mute, [0]⟩⟩] ∧ failed.queue = [] ∧
      (∀ call ∈ failed.calls, call.stage = .returned) ∧
      ∀ item ∈ passed failed.calls, .written item ∉ outputs step connected writeFails := by
  decide +kernel

end LiveKit.SignalClient.SignalInner
