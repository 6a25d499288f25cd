import LiveKitRust.Rpc.Client

/-!
# A call by itself

A call, as its caller thinks of it, is a `Conversation`: it knows whether its request was
acknowledged and what the answer was, and nothing of maps, channels and other calls. `acked_since`
and `answer_since` say what it has heard since it was made, and `explained_since` that whatever it
returns is accounted for.
-/

open Rust List

namespace LiveKit.Rpc

/-! ### A call by itself -/

structure Conversation where
  stage : Stage
  acked : Bool
  answer : Option (Except RpcError String)

def resultOf : Except RpcError String → Outcome RpcError String
  | .ok payload => .ok payload
  | .error e => .err e

namespace RpcClientManager.Input

def response : Input → Option (String × Except RpcError String)
  | rpcResponse requestId payload error =>
    some (requestId, match error with
      | some e => .error (.fromProto e)
      | none => .ok (payload.getD ""))
  | responseStream reader =>
    if reader.requestId = "" then none
    else
      some (reader.requestId, match reader.readAll with
        | .ok payload => .ok payload
        | .error e =>
          .error (.builtIn .applicationError (some ("Failed to read response stream: " ++ e))))
  | performRpc .. | sendFinished .. | poll .. | timeOut _ | drop _ | rpcAck _ => none

def answer (id : String) (self : Input) : Option (Except RpcError String) :=
  match self.response with
  | some (requestId, answer) => if requestId = id then some answer else none
  | none => none

def acks (id : String) : Input → Bool
  | rpcAck requestId => requestId = id
  | performRpc .. | sendFinished .. | poll .. | timeOut _ | drop _ | rpcResponse ..
  | responseStream _ => false

end RpcClientManager.Input

namespace Conversation

open RpcClientManager (Input)

def begun : Conversation := ⟨.sending, false, none⟩

def finishSend (self : Conversation) (result : Except String Unit) : Stage :=
  match self.stage, result with
  | .sending, .ok _ => .awaitingAck
  | .sending, .error e => .returned (.err (.builtIn .sendFailed (some e)))
  | stage, _ => stage

def poll (self : Conversation) (elapsed : Bool) : Stage :=
  match self.stage with
  | .awaitingAck =>
    if self.acked then .awaitingResponse else if elapsed then .ackElapsed else .awaitingAck
  | .awaitingResponse =>
    match self.answer with
    | some answer => .returned (resultOf answer)
    | none => if elapsed then .responseElapsed else .awaitingResponse
  | stage => stage

def timeOut (self : Conversation) : Stage :=
  match self.stage with
  | .ackElapsed => .returned (.err (.builtIn .connectionTimeout none))
  | .responseElapsed => .returned (.err (.builtIn .responseTimeout none))
  | stage => stage

def dropFuture (self : Conversation) : Stage :=
  match self.stage with
  | .sending | .awaitingAck | .awaitingResponse => .dropped
  | stage => stage

def next (n : ℕ) (self : Conversation) : Input → Stage
  | .sendFinished m result => if m = n then self.finishSend result else self.stage
  | .poll m elapsed => if m = n then self.poll elapsed else self.stage
  | .timeOut m => if m = n then self.timeOut else self.stage
  | .drop m => if m = n then self.dropFuture else self.stage
  | .performRpc .. | .rpcAck _ | .rpcResponse .. | .responseStream _ => self.stage

/-- What an input is to the call number `n` with the id `id`. Only the first answer counts. -/
def step (n : ℕ) (id : String) (self : Conversation) (input : Input) : Conversation where
  stage := self.next n input
  acked := self.acked || input.acks id
  answer := self.answer.or (input.answer id)

def since (start : Conversation) (n : ℕ) (id : String) (inputs : List Input) : Conversation :=
  inputs.foldl (step n id) start

variable {n : ℕ} {id : String} {start : Conversation} {is : List Input}

lemma since_concat (input : Input) :
    start.since n id (is ++ [input]) = (start.since n id is).step n id input :=
  foldl_concat ..

lemma acked_since : (start.since n id is).acked = (start.acked || is.any (Input.acks id)) := by
  induction is using reverseRecOn with
  | nil => exact (Bool.or_false _).symm
  | append_singleton _ i ih =>
    rw [since_concat]
    show (_ || i.acks id) = _
    rw [ih, any_append, any_cons, any_nil, Bool.or_false, Bool.or_assoc]

lemma answer_since :
    (start.since n id is).answer = start.answer.or (is.findSome? (Input.answer id)) := by
  induction is using reverseRecOn with
  | nil => exact (Option.or_none).symm
  | append_singleton _ i ih =>
    rw [since_concat]
    show Option.or _ (i.answer id) = _
    rw [ih, findSome?_append, Option.or_assoc]
    cases h : i.answer id with
    | none | some => simp [h]

/-- What a call may return, and by what right. -/
inductive Accounted (n : ℕ) (id : String) (inputs : List Input) :
    Outcome RpcError String → Prop where
  | sendFailed (e : String) (h : .sendFinished n (.error e) ∈ inputs) :
    Accounted n id inputs (.err (.builtIn .sendFailed (some e)))
  /-- The time is over, and there was no acknowledgement until then. -/
  | connectionTimeout (before rest : List Input) (h : inputs = before ++ .poll n true :: rest)
    (h_acks : ∀ input ∈ before, input.acks id = false) :
    Accounted n id inputs (.err (.builtIn .connectionTimeout none))
  /-- The time is over, and there was no answer until then. -/
  | responseTimeout (before rest : List Input) (h : inputs = before ++ .poll n true :: rest)
    (h_answer : ∀ input ∈ before, input.answer id = none) :
    Accounted n id inputs (.err (.builtIn .responseTimeout none))
  | answered (input : Input) (answer : Except RpcError String) (h : input ∈ inputs)
    (h_answer : input.answer id = some answer) :
    Accounted n id inputs (resultOf answer)

lemma Accounted.concat {result} (h : Accounted n id is result) (i : Input) :
    Accounted n id (is ++ [i]) result := by
  cases h with
  | sendFailed e h => exact .sendFailed e (mem_append_left _ h)
  | connectionTimeout pre rest h hacks =>
    exact .connectionTimeout pre (rest ++ [i]) (by simp [h]) hacks
  | responseTimeout pre rest h han =>
    exact .responseTimeout pre (rest ++ [i]) (by simp [h]) han
  | answered input' ans h han =>
    exact .answered input' ans (mem_append_left _ h) han

def Explained (n : ℕ) (id : String) (inputs : List Input) : Stage → Prop
  | .returned result => Accounted n id inputs result
  | .ackElapsed => Accounted n id inputs (.err (.builtIn .connectionTimeout none))
  | .responseElapsed => Accounted n id inputs (.err (.builtIn .responseTimeout none))
  | .sending | .awaitingAck | .awaitingResponse | .dropped => True

variable {stage : Stage}

lemma Explained.concat (h : Explained n id is stage) (i : Input) :
    Explained n id (is ++ [i]) stage := by
  cases stage with
  | returned | ackElapsed | responseElapsed => exact Accounted.concat h i
  | _ => trivial

section

variable {s : Conversation} (h : Explained n id is s.stage)
include h

lemma explained_finishSend {res} :
    Explained n id (is ++ [.sendFinished n res]) (s.finishSend res) := by
  unfold finishSend
  split
  · trivial
  next e _ => exact Accounted.sendFailed e (mem_append_right _ (mem_singleton_self _))
  · exact h.concat _

lemma explained_poll {elapsed} (hacked : s.acked = is.any (Input.acks id))
    (han : s.answer = is.findSome? (Input.answer id)) :
    Explained n id (is ++ [.poll n elapsed]) (s.poll elapsed) := by
  unfold poll
  split
  · split
    · trivial
    next hno_ack =>
      split
      next helapsed =>
        subst helapsed
        refine Accounted.connectionTimeout is [] rfl fun i hm => ?_
        rw [hacked, Bool.not_eq_true] at hno_ack
        exact Bool.eq_false_iff.mpr (any_eq_false.mp hno_ack i hm)
      · trivial
  · split
    next ans hs =>
      obtain ⟨i, hm, heq⟩ := exists_of_findSome?_eq_some (han.symm.trans hs)
      exact Accounted.answered i ans (mem_append_left _ hm) heq
    next hn =>
      split
      next helapsed =>
        subst helapsed
        exact Accounted.responseTimeout is [] rfl (findSome?_eq_none_iff.mp (han.symm.trans hn))
      · trivial
  · exact h.concat _

lemma explained_timeOut : Explained n id (is ++ [.timeOut n]) s.timeOut := by
  unfold timeOut
  split
  next hs =>
    rw [hs] at h
    exact Accounted.concat h _
  next hs =>
    rw [hs] at h
    exact Accounted.concat h _
  · exact h.concat _

lemma explained_dropFuture : Explained n id (is ++ [.drop n]) s.dropFuture := by
  unfold dropFuture
  split
  · trivial
  · trivial
  · trivial
  · exact h.concat _

lemma explained_ite {m i} (hown : m = n → Explained n id (is ++ [i]) stage) :
    Explained n id (is ++ [i]) (if m = n then stage else s.stage) := by
  split
  next heq => exact hown heq
  · exact h.concat i

end

lemma explained_since : Explained n id is (begun.since n id is).stage := by
  induction is using reverseRecOn with
  | nil => trivial
  | append_singleton is input ih =>
    have hacked : (begun.since n id is).acked = is.any (Input.acks id) := acked_since
    have han : (begun.since n id is).answer = is.findSome? (Input.answer id) :=
      answer_since
    rw [since_concat]
    generalize begun.since n id is = s at *
    cases input with
    | performRpc | rpcAck | rpcResponse | responseStream => exact ih.concat _
    | sendFinished => exact explained_ite ih (by rintro rfl; exact explained_finishSend ih)
    | poll => exact explained_ite ih (by rintro rfl; exact explained_poll ih hacked han)
    | timeOut => exact explained_ite ih (by rintro rfl; exact explained_timeOut ih)
    | drop => exact explained_ite ih (by rintro rfl; exact explained_dropFuture ih)

end Conversation

end LiveKit.Rpc
