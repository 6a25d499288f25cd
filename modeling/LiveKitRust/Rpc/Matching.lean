import LiveKitRust.Base.Tables
import LiveKitRust.Rpc.Conversation

/-!
# Calls among others, and their answers

The manager refines the conversations of all its calls at once.

`Coherent` says of the two maps that what is under an id belongs to a call of that id which has not
had it yet. This needs no assumption. `Refines` relates one call in the manager to its conversation.
It holds along a run if no other call makes up the same id (`refines_step`).

A call that is dropped leaves what it has put into the maps, and there is nothing here about that.
For all the others the maps are exact (`rpc_matches`).
-/

open Rust Machine List

namespace LiveKit.Rpc

/-! ### The maps -/

/-- The sending half for the acknowledgement may be in the map. -/
def Stage.MayAwaitAck : Stage → Prop
  | .sending | .awaitingAck | .ackElapsed | .dropped => True
  | .awaitingResponse | .responseElapsed | .returned _ => False

def Stage.Returned : Stage → Prop
  | .returned _ => True
  | .sending | .awaitingAck | .ackElapsed | .awaitingResponse | .responseElapsed | .dropped => False

variable {stage : Stage}

lemma Stage.returned_of_not_inFlight (h : ¬ stage.InFlight)
    (hdropped : stage ≠ .dropped) : stage.Returned := by
  cases stage with
  | dropped => exact absurd rfl hdropped
  | returned => trivial
  | _ => exact absurd trivial h

lemma Stage.inFlight_or_dropped (h : ¬ stage.Returned) : stage.InFlight ∨ stage = .dropped := by
  cases stage with
  | dropped => exact .inr rfl
  | returned => exact absurd trivial h
  | _ => exact .inl trivial

lemma Stage.MayAwaitAck.not_returned (h : stage.MayAwaitAck) : ¬ stage.Returned := by
  cases stage with
  | returned => exact h.elim
  | _ => exact not_false

namespace RpcClientManager

/-- What is under an id belongs to a call with that id, to which nothing was sent yet. -/
structure Coherent (manager : RpcClientManager) : Prop where
  acks : ∀ {id n}, manager.pendingAcks.lookup id = some n →
    ∃ call, manager.calls[n]? = some call ∧ call.id = id ∧ call.ack = .empty ∧
      call.stage.MayAwaitAck
  responses : ∀ {id n}, manager.pendingResponses.lookup id = some n →
    ∃ call, manager.calls[n]? = some call ∧ call.id = id ∧ call.response = .empty ∧
      ¬ call.stage.Returned

variable {s : RpcClientManager} {n m : ℕ} {id id' : String} {stage : Stage}
  {ack : Oneshot Unit} {response : Oneshot (Except RpcError String)} {call : Call}
  {other : RpcClientManager}

lemma getElem?_setStage_self (hc : s.calls[n]? = some call) :
    (s.setStage n stage).calls[n]? = some { call with stage := stage } := by
  show (s.calls.modify n _)[n]? = _
  rw [getElem?_modify_eq, hc]
  rfl

lemma getElem?_setStage_ne (h : n ≠ m) : (s.setStage n stage).calls[m]? = s.calls[m]? :=
  getElem?_modify_ne _ _ h

lemma getElem?_setAck : (s.setAck n ack).calls[m]? =
    s.calls[m]?.map fun call => if n = m then { call with ack := ack } else call :=
  getElem?_modify ..

lemma getElem?_setResponse : (s.setResponse n response).calls[m]? =
    s.calls[m]?.map fun call => if n = m then { call with response := response } else call :=
  getElem?_modify ..

lemma getElem?_removeAck (id ack) (hc : s.calls[m]? = some call) :
    (s.removeAck id ack).calls[m]? =
      some { call with ack := if s.pendingAcks.lookup id = some m then ack else call.ack } := by
  unfold removeAck
  split
  next n hl =>
    rw [getElem?_setAck, hl]
    show Option.map _ s.calls[m]? = _
    rw [hc]
    by_cases heq : n = m
    · simp [heq]
    · simp [heq]
  next hl => rw [hc, if_neg (by simp [hl])]

lemma getElem?_removeResponse (id response) (hc : s.calls[m]? = some call) :
    (s.removeResponse id response).calls[m]? = some { call with
        response :=
          if s.pendingResponses.lookup id = some m then response else call.response } := by
  unfold removeResponse
  split
  next n hl =>
    rw [getElem?_setResponse, hl]
    show Option.map _ s.calls[m]? = _
    rw [hc]
    by_cases heq : n = m
    · simp [heq]
    · simp [heq]
  next hl => rw [hc, if_neg (by simp [hl])]

lemma lookup_ne_of_id_ne {map : Map String ℕ} {p : Call → Prop} (h : ∀ {id n},
      map.lookup id = some n → ∃ call, s.calls[n]? = some call ∧ call.id = id ∧ p call)
    (hc : s.calls[n]? = some call) (hne : call.id ≠ id) : map.lookup id ≠ some n := by
  intro hl
  obtain ⟨_, howner, hid, -⟩ := h hl
  cases hc.symm.trans howner
  exact hne hid

lemma lookup_pendingAcks_removeAck : (s.removeAck id ack).pendingAcks.lookup id' =
      if id' = id then none else s.pendingAcks.lookup id' := by
  unfold removeAck
  split
  · exact AList.lookup_erase_ite ..
  next hl =>
    split
    next heq => rw [heq, hl]
    · rfl

lemma lookup_pendingResponses_removeResponse :
    (s.removeResponse id response).pendingResponses.lookup id' =
      if id' = id then none else s.pendingResponses.lookup id' := by
  unfold removeResponse
  split
  · exact AList.lookup_erase_ite ..
  next hl =>
    split
    next heq => rw [heq, hl]
    · rfl

@[simp] lemma pendingResponses_removeAck :
    (s.removeAck id ack).pendingResponses = s.pendingResponses := by
  unfold removeAck
  split <;> rfl

@[simp] lemma pendingAcks_removeResponse :
    (s.removeResponse id response).pendingAcks = s.pendingAcks := by
  unfold removeResponse
  split <;> rfl

lemma getElem?_push {calls new} (h : calls[m]? = some call) : (calls ++ [new])[m]? = some call := by
  rw [getElem?_append_left (List.getElem?_eq_some_iff.mp h).1, h]

inductive Act (self : RpcClientManager) (n : ℕ) (call : Call) : RpcClientManager → Prop
  | stay : Act self n call self
  /-- It gives up waiting for what it has got. -/
  | goto {stage : Stage}
      (h_ack : call.ack = .empty → call.stage.MayAwaitAck → stage.MayAwaitAck)
      (h_response : call.response = .empty → ¬ stage.Returned) :
      Act self n call (self.setStage n stage)
  /-- It takes back both sending halves. -/
  | leave {result} : Act self n call ((self.cleanUp call.id).setStage n (.returned result))
  | expire {result} (h_stage : call.stage = .responseElapsed) :
      Act self n call ((self.removeResponse call.id .closed).setStage n (.returned result))

lemma act_finishSend (res) : Act s n call (s.finishSend n call res) := by
  unfold finishSend
  split
  · exact .goto (fun _ _ => trivial) fun _ => not_false
  · exact .leave
  · exact .stay

lemma act_poll (elapsed : Bool) : Act s n call (s.poll n call elapsed) := by
  unfold poll
  split
  · split
    iterate 2
      next hsent => exact .goto (fun hempty => nomatch hsent.symm.trans hempty) fun _ => not_false
    · split
      · exact .goto (fun _ _ => trivial) fun _ => not_false
      · exact .stay
  next hs =>
    -- no acknowledgement is awaited any more
    have hno_ack {P : Prop} (hawaits : call.stage.MayAwaitAck) : P := by
      rw [hs] at hawaits
      exact hawaits.elim
    split
    iterate 3
      next hsent => exact .goto (fun _ => hno_ack) fun hempty => nomatch hsent.symm.trans hempty
    · split
      · exact .goto (fun _ => hno_ack) fun _ => not_false
      · exact .stay
  all_goals exact .stay

lemma act_timeOut : Act s n call (s.timeOut n call) := by
  unfold timeOut
  split
  · exact .leave
  next hs => exact .expire hs
  all_goals exact .stay

lemma act_dropFuture : Act s n call (s.dropFuture n call) := by
  unfold dropFuture
  split
  any_goals exact .goto (fun _ _ => trivial) fun _ => not_false
  all_goals exact .stay

section

variable (h : s.Coherent)
include h

lemma Coherent.removeAck (id ack) : (s.removeAck id ack).Coherent := by
  refine ⟨fun {id' n} hl => ?_, fun {id' n} hl => ?_⟩
  · rw [lookup_pendingAcks_removeAck] at hl
    split at hl
    · cases hl
    next hne =>
      obtain ⟨_, hc, rfl, hack, hs⟩ := h.acks hl
      refine ⟨_, getElem?_removeAck id ack hc, rfl, ?_, hs⟩
      exact (if_neg (lookup_ne_of_id_ne h.acks hc hne)).trans hack
  · rw [pendingResponses_removeAck] at hl
    obtain ⟨_, hc, hid, hresp, hs⟩ := h.responses hl
    exact ⟨_, getElem?_removeAck id ack hc, hid, hresp, hs⟩

lemma Coherent.removeResponse (id response) : (s.removeResponse id response).Coherent := by
  refine ⟨fun {id' n} hl => ?_, fun {id' n} hl => ?_⟩
  · rw [pendingAcks_removeResponse] at hl
    obtain ⟨_, hc, hid, hack, hs⟩ := h.acks hl
    exact ⟨_, getElem?_removeResponse id response hc, hid, hack, hs⟩
  · rw [lookup_pendingResponses_removeResponse] at hl
    split at hl
    · cases hl
    next hne =>
      obtain ⟨_, hc, rfl, hresp, hs⟩ := h.responses hl
      refine ⟨_, getElem?_removeResponse id response hc, rfl, ?_, hs⟩
      exact (if_neg (lookup_ne_of_id_ne h.responses hc hne)).trans hresp

lemma Coherent.cleanUp (id : String) : (s.cleanUp id).Coherent :=
  (h.removeAck id .closed).removeResponse id .closed

lemma Coherent.setStage (hacks : ∀ id, s.pendingAcks.lookup id = some n → stage.MayAwaitAck)
    (hresponses : ∀ id, s.pendingResponses.lookup id = some n → ¬ stage.Returned) :
    (s.setStage n stage).Coherent := by
  refine ⟨fun {id m} hl => ?_, fun {id m} hl => ?_⟩
  · obtain ⟨call, hc, hid, hack, hs⟩ := h.acks hl
    by_cases heq : n = m
    · subst heq
      exact ⟨_, getElem?_setStage_self hc, hid, hack, hacks id hl⟩
    · exact ⟨call, (getElem?_setStage_ne heq).trans hc, hid, hack, hs⟩
  · obtain ⟨call, hc, hid, hresp, hs⟩ := h.responses hl
    by_cases heq : n = m
    · subst heq
      exact ⟨_, getElem?_setStage_self hc, hid, hresp, hresponses id hl⟩
    · exact ⟨call, (getElem?_setStage_ne heq).trans hc, hid, hresp, hs⟩

lemma Coherent.push (new : Call) : Coherent { s with calls := s.calls ++ [new] } := by
  refine ⟨fun hl => ?_, fun hl => ?_⟩
  · obtain ⟨call, hc, hr⟩ := h.acks hl
    exact ⟨call, getElem?_push hc, hr⟩
  · obtain ⟨call, hc, hr⟩ := h.responses hl
    exact ⟨call, getElem?_push hc, hr⟩

lemma Coherent.register (id : String) : (s.register id).Coherent := by
  have hclean := (h.cleanUp id).push ⟨id, .sending, .empty, .empty⟩
  refine ⟨fun {id' n} hl => ?_, fun {id' n} hl => ?_⟩
  · rcases AList.of_lookup_insert hl with ⟨rfl, rfl⟩ | ⟨-, hl⟩
    · exact ⟨_, getElem?_concat_length, rfl, rfl, trivial⟩
    · exact hclean.acks hl
  · rcases AList.of_lookup_insert hl with ⟨rfl, rfl⟩ | ⟨-, hl⟩
    · exact ⟨_, getElem?_concat_length, rfl, rfl, not_false⟩
    · exact hclean.responses hl

section

variable (hc : s.calls[n]? = some call)
include hc

lemma lookup_removeResponse_ne (id' : String) :
    (s.removeResponse call.id response).pendingResponses.lookup id' ≠ some n := by
  rw [lookup_pendingResponses_removeResponse]
  split
  · exact nofun
  next hne => exact lookup_ne_of_id_ne h.responses hc (Ne.symm hne)

lemma lookup_removeAck_ne
    (id' : String) : (s.removeAck call.id ack).pendingAcks.lookup id' ≠ some n := by
  rw [lookup_pendingAcks_removeAck]
  split
  · exact nofun
  next hne => exact lookup_ne_of_id_ne h.acks hc (Ne.symm hne)

lemma Coherent.cleanUp_setStage : ((s.cleanUp call.id).setStage n stage).Coherent := by
  refine (h.cleanUp call.id).setStage (fun id' hl => ?_) fun id' hl => ?_
  · rw [RpcClientManager.cleanUp, pendingAcks_removeResponse] at hl
    exact absurd hl (lookup_removeAck_ne h hc id')
  · have hc' := getElem?_removeAck call.id .closed hc
    exact absurd hl (lookup_removeResponse_ne (h.removeAck call.id .closed) hc' id')

lemma Coherent.act (hact : Act s n call other) : other.Coherent := by
  cases hact with
  | stay => exact h
  | goto hack hresp =>
    refine h.setStage (fun id hl => ?_) fun id hl => ?_
    · obtain ⟨_, howner, -, hempty, hawaits⟩ := h.acks hl
      cases hc.symm.trans howner
      exact hack hempty hawaits
    · obtain ⟨_, howner, -, hempty, -⟩ := h.responses hl
      cases hc.symm.trans howner
      exact hresp hempty
  | leave => exact h.cleanUp_setStage hc
  | expire hs =>
    refine (h.removeResponse call.id .closed).setStage (fun id hl => ?_) fun id hl => ?_
    · -- it has had its acknowledgement
      rw [pendingAcks_removeResponse] at hl
      obtain ⟨_, howner, -, -, hawaits⟩ := h.acks hl
      cases hc.symm.trans howner
      rw [hs] at hawaits
      exact hawaits.elim
    · exact absurd hl (lookup_removeResponse_ne h hc id)

end

lemma Coherent.onCall {act} (hact : ∀ call, s.calls[n]? = some call → (act call).Coherent) :
    (s.onCall n act).Coherent := by
  unfold RpcClientManager.onCall
  split
  next call hc => exact hact call hc
  · exact h

end

lemma step_of_response {i requestId ans} (h : i.response = some (requestId, ans)) :
    (s.step i).1 = s.removeResponse requestId (.sent ans) := by
  cases i with
  | rpcResponse =>
    cases h
    rfl
  | responseStream r =>
    unfold Input.response at h
    dsimp only at h
    split at h
    · cases h
    next hid =>
      cases h
      show s.handleV2ResponseStream r = _
      unfold handleV2ResponseStream
      rw [if_neg hid]
      cases r.readAll with
      | ok | error => rfl
  | _ => cases h

lemma step_responseStream_none {r} (h : (Input.responseStream r).response = none) :
    s.handleV2ResponseStream r = s := by
  unfold Input.response at h
  dsimp only at h
  split at h
  next hid => exact if_pos hid
  · cases h

lemma coherent_step (h : s.Coherent) (i : Input) : (s.step i).1.Coherent := by
  cases i with
  | performRpc id data sur =>
    show (s.performRpc id data sur).1.Coherent
    unfold performRpc
    split
    · exact h.push _
    · exact h.register id
  | sendFinished _ res => exact h.onCall fun call hc => h.act hc (act_finishSend res)
  | poll _ elapsed => exact h.onCall fun call hc => h.act hc (act_poll elapsed)
  | timeOut => exact h.onCall fun call hc => h.act hc act_timeOut
  | drop => exact h.onCall fun call hc => h.act hc act_dropFuture
  | rpcAck requestId => exact h.removeAck requestId (.sent ())
  | rpcResponse requestId => exact h.removeResponse requestId _
  | responseStream r =>
    cases hresp : (Input.responseStream r).response with
    | none =>
      show (s.handleV2ResponseStream r).Coherent
      rw [step_responseStream_none hresp]
      exact h
    | some response =>
      rw [step_of_response hresp]
      exact h.removeResponse response.1 _

lemma coherent_state (inputs) : (state step new inputs).Coherent :=
  state_invariant (P := Coherent) ⟨(by cases ·), (by cases ·)⟩ inputs
    fun _ i _ h => coherent_step h i

/-! ### A call among the others -/

def ids (self : RpcClientManager) : List String := self.calls.map Call.id

lemma map_id_modify (calls : List Call) (n : ℕ) {f} (h : ∀ call, (f call).id = call.id) :
    (calls.modify n f).map Call.id = calls.map Call.id := by
  apply ext_getElem?
  intro i
  rw [getElem?_map, getElem?_map, getElem?_modify]
  cases calls[i]? with
  | none => rfl
  | some call =>
    show some (Call.id (if n = i then f call else call)) = some call.id
    split
    · rw [h]
    · rfl

@[simp] lemma ids_setStage : (s.setStage n stage).ids = s.ids := map_id_modify _ n fun _ => rfl

@[simp] lemma ids_removeAck : (s.removeAck id ack).ids = s.ids := by
  unfold removeAck
  split
  · exact map_id_modify _ _ fun _ => rfl
  · rfl

@[simp] lemma ids_removeResponse : (s.removeResponse id response).ids = s.ids := by
  unfold removeResponse
  split
  · exact map_id_modify _ _ fun _ => rfl
  · rfl

@[simp] lemma ids_cleanUp : (s.cleanUp id).ids = s.ids := ids_removeResponse.trans ids_removeAck

structure Owns (manager : RpcClientManager) (n : ℕ) (id : String) : Prop where
  mine : manager.ids[n]? = some id
  sole : ∀ m, manager.ids[m]? = some id → m = n

lemma Owns.exists_call (h : s.Owns n id) : ∃ call, s.calls[n]? = some call ∧ call.id = id := by
  have hmine := h.mine
  rw [ids, getElem?_map] at hmine
  exact Option.map_eq_some_iff.mp hmine

lemma Owns.of_ids (h : s.Owns n id) (hids : other.ids = s.ids) : other.Owns n id := by
  refine ⟨?_, ?_⟩
  · rw [hids]
    exact h.mine
  · rw [hids]
    exact h.sole

lemma Owns.concat (h : s.Owns n id) (hne : id' ≠ id)
    (hids : other.ids = s.ids ++ [id']) : other.Owns n id := by
  refine ⟨?_, fun m hmine => ?_⟩
  · rw [hids, getElem?_append_left (List.getElem?_eq_some_iff.mp h.mine).1]
    exact h.mine
  · rw [hids] at hmine
    rcases Tables.getElem?_concat_cases hmine with hmine | ⟨-, heq⟩
    · exact h.sole m hmine
    · -- the new one has another id
      exact absurd heq.symm hne

/-- The manager is at the point of the conversation, for the call number `n`. -/
structure Refines (conversation : Conversation) (n : ℕ) (id : String)
    (manager : RpcClientManager) : Prop extends manager.Owns n id where
  stage : ∀ call, manager.calls[n]? = some call → call.stage = conversation.stage
  /-- While it is in flight, its channels and the maps are as they should be. -/
  ack : conversation.stage.InFlight → ∀ call, manager.calls[n]? = some call →
    call.ack = (if conversation.acked then .sent () else .empty)
  response : conversation.stage.InFlight → ∀ call, manager.calls[n]? = some call →
    call.response = conversation.answer.elim .empty .sent
  acks : conversation.stage.InFlight →
    manager.pendingAcks.lookup id = if conversation.acked then none else some n
  responses : conversation.stage.InFlight →
    manager.pendingResponses.lookup id = if conversation.answer.isSome then none else some n

variable {conv : Conversation}

variable {i : Input} {data : PerformRpcData} {sur : Surroundings} {inputs : List Input}

lemma Refines.frame (h : Refines conv n id s) (howns : other.Owns n id)
    (hc : other.calls[n]? = s.calls[n]?)
    (hacks : other.pendingAcks.lookup id = s.pendingAcks.lookup id)
    (hresponses : other.pendingResponses.lookup id = s.pendingResponses.lookup id) :
    Refines conv n id other := by
  refine ⟨howns, ?_, ?_, ?_, ?_, ?_⟩
  · rw [hc]
    exact h.stage
  · rw [hc]
    exact h.ack
  · rw [hc]
    exact h.response
  · rw [hacks]
    exact h.acks
  · rw [hresponses]
    exact h.responses

lemma Owns.refines (h : s.Owns n id) (hc : s.calls[n]? = some call) (hs : call.stage = conv.stage)
    (hflight : conv.stage.InFlight → call.ack = (if conv.acked then .sent () else .empty) ∧
      call.response = conv.answer.elim .empty .sent ∧
      s.pendingAcks.lookup id = (if conv.acked then none else some n) ∧
      s.pendingResponses.lookup id = if conv.answer.isSome then none else some n) :
    Refines conv n id s := by
  have hsm {call'} (hc' : s.calls[n]? = some call') : call = call' :=
    Option.some.inj (hc.symm.trans hc')
  refine ⟨h, fun _ hc' => hsm hc' ▸ hs, fun hin _ hc' => ?_, fun hin _ hc' => ?_,
    fun hin => (hflight hin).2.2.1, fun hin => (hflight hin).2.2.2⟩
  · exact hsm hc' ▸ (hflight hin).1
  · exact hsm hc' ▸ (hflight hin).2.1

lemma Owns.refines_returned (h : s.Owns n id) (res acked ans) :
    Refines ⟨.returned res, acked, ans⟩ n id (s.setStage n (.returned res)) := by
  obtain ⟨_, hc, _⟩ := h.exists_call
  exact (h.of_ids ids_setStage).refines (getElem?_setStage_self hc) rfl False.elim

lemma Owns.id_ne (h : s.Owns n id) (hc : s.calls[m]? = some call) (hne : m ≠ n) : call.id ≠ id := by
  intro hid
  refine hne (h.sole m ?_)
  rw [ids, getElem?_map, hc, ← hid]
  rfl

lemma Owns.cleanUp (h : s.Owns n id) : (s.cleanUp id').Owns n id := h.of_ids ids_cleanUp

section

variable (h : Refines conv n id s)
include h

lemma Refines.setStage (hflight : stage.InFlight → conv.stage.InFlight) :
    Refines { conv with stage := stage } n id (s.setStage n stage) := by
  obtain ⟨call, hc, _⟩ := h.exists_call
  refine (h.of_ids ids_setStage).refines (getElem?_setStage_self hc) rfl fun hs => ?_
  have hin := hflight hs
  exact ⟨h.ack hin call hc, h.response hin call hc, h.acks hin, h.responses hin⟩

lemma Refines.setStage_ne (hne : m ≠ n) : Refines conv n id (s.setStage m stage) :=
  h.frame (h.of_ids ids_setStage) (getElem?_setStage_ne hne) rfl rfl

lemma Refines.push (new : Call) (hne : new.id ≠ id) :
    Refines conv n id { s with calls := s.calls ++ [new] } := by
  obtain ⟨_, hc, -⟩ := h.exists_call
  exact h.frame (h.concat hne map_append) ((getElem?_push hc).trans hc.symm) rfl rfl

lemma Refines.acked : Refines { conv with acked := true } n id (s.removeAck id (.sent ())) := by
  obtain ⟨call, hc, -⟩ := h.exists_call
  refine (h.of_ids ids_removeAck).refines (getElem?_removeAck id (.sent ()) hc)
    (h.stage call hc) fun hs => ⟨?_, h.response hs call hc, ?_, ?_⟩
  · show (if _ then _ else call.ack) = Oneshot.sent ()
    rw [h.acks hs, h.ack hs call hc]
    cases conv.acked with
    | true => rfl
    | false => exact if_pos rfl
  · rw [lookup_pendingAcks_removeAck, if_pos rfl]
    rfl
  · rw [pendingResponses_removeAck]
    exact h.responses hs

lemma Refines.answered (ans) :
    Refines { conv with answer := conv.answer.or (some ans) } n id
      (s.removeResponse id (.sent ans)) := by
  obtain ⟨call, hc, -⟩ := h.exists_call
  refine (h.of_ids ids_removeResponse).refines (getElem?_removeResponse id (.sent ans) hc)
    (h.stage call hc) fun hs => ⟨h.ack hs call hc, ?_, ?_, ?_⟩
  · show (if _ then _ else call.response) = _
    rw [h.responses hs, h.response hs call hc]
    cases conv.answer with
    | some => rfl
    | none => exact if_pos rfl
  · rw [pendingAcks_removeResponse]
    exact h.acks hs
  · rw [lookup_pendingResponses_removeResponse, if_pos rfl]
    cases conv.answer with
    | some | none => rfl

lemma Refines.onCall (act : ℕ → Call → RpcClientManager)
    (hown : ∀ call, s.calls[n]? = some call → call.stage = conv.stage →
      Refines { conv with stage := stage } n id (act n call))
    (hot : ∀ call, m ≠ n → call.id ≠ id → Refines conv n id (act m call)) :
    Refines { conv with stage := if m = n then stage else conv.stage } n id
      (s.onCall m (act m)) := by
  unfold RpcClientManager.onCall
  by_cases heq : m = n
  · subst heq
    obtain ⟨call, hc, -⟩ := h.exists_call
    rw [if_pos rfl, hc]
    exact hown call hc (h.stage call hc)
  · rw [if_neg heq]
    split
    next call hc => exact hot call heq (h.id_ne hc heq)
    · exact h

section

variable (hs : call.stage = conv.stage)
include hs

lemma Refines.finishSend (res) :
    Refines { conv with stage := conv.finishSend res } n id (s.finishSend n call res) := by
  obtain ⟨stage, acked, ans⟩ := conv
  unfold finishSend Conversation.finishSend
  rw [hs]
  cases stage with
  | sending =>
    cases res with
    | ok => exact h.setStage fun _ => trivial
    | error => exact h.toOwns.cleanUp.refines_returned _ acked ans
  | _ => exact h

lemma Refines.poll (hc : s.calls[n]? = some call) (elapsed : Bool) :
    Refines { conv with stage := conv.poll elapsed } n id (s.poll n call elapsed) := by
  obtain ⟨stage, acked, ans⟩ := conv
  unfold poll Conversation.poll
  rw [hs]
  cases stage with
  | awaitingAck =>
    have hack := h.ack trivial call hc
    dsimp only at hack ⊢
    rw [hack]
    cases acked with
    | true => exact h.setStage fun _ => trivial
    | false =>
      cases elapsed with
      | true => exact h.setStage fun _ => trivial
      | false => exact h
  | awaitingResponse =>
    have hresp := h.response trivial call hc
    dsimp only at hresp ⊢
    rw [hresp]
    cases ans with
    | some ans =>
      cases ans with
      | ok | error => exact h.setStage fun _ => trivial
    | none =>
      cases elapsed with
      | true => exact h.setStage fun _ => trivial
      | false => exact h
  | _ => exact h

lemma Refines.timeOut : Refines { conv with stage := conv.timeOut } n id (s.timeOut n call) := by
  obtain ⟨stage, acked, ans⟩ := conv
  unfold timeOut Conversation.timeOut
  rw [hs]
  cases stage with
  | ackElapsed => exact h.toOwns.cleanUp.refines_returned _ acked ans
  | responseElapsed =>
    exact (h.toOwns.of_ids ids_removeResponse).refines_returned _ acked ans
  | _ => exact h

lemma Refines.dropFuture :
    Refines { conv with stage := conv.dropFuture } n id (s.dropFuture n call) := by
  obtain ⟨stage, _, _⟩ := conv
  unfold dropFuture Conversation.dropFuture
  rw [hs]
  cases stage with
  | sending | awaitingAck | awaitingResponse => exact h.setStage fun _ => trivial
  | _ => exact h

end

variable (hcoh : s.Coherent)
include hcoh

lemma Refines.removeAck_ne (hne : id' ≠ id) (ack) : Refines conv n id (s.removeAck id' ack) := by
  obtain ⟨_, hc, hid⟩ := h.exists_call
  have hc' := getElem?_removeAck id' ack hc
  rw [if_neg (lookup_ne_of_id_ne hcoh.acks hc (hid.trans_ne hne.symm))] at hc'
  refine h.frame (h.of_ids ids_removeAck) (hc'.trans hc.symm) ?_ ?_
  · rw [lookup_pendingAcks_removeAck, if_neg hne.symm]
  · rw [pendingResponses_removeAck]

lemma Refines.removeResponse_ne (hne : id' ≠ id) (response) :
    Refines conv n id (s.removeResponse id' response) := by
  obtain ⟨_, hc, hid⟩ := h.exists_call
  have hc' := getElem?_removeResponse id' response hc
  rw [if_neg (lookup_ne_of_id_ne hcoh.responses hc (hid.trans_ne hne.symm))] at hc'
  refine h.frame (h.of_ids ids_removeResponse) (hc'.trans hc.symm) ?_ ?_
  · rw [pendingAcks_removeResponse]
  · rw [lookup_pendingResponses_removeResponse, if_neg hne.symm]

lemma Refines.cleanUp_ne (hne : id' ≠ id) : Refines conv n id (s.cleanUp id') :=
  (h.removeAck_ne hcoh hne .closed).removeResponse_ne (hcoh.removeAck id' .closed) hne .closed

lemma Refines.register_ne (hne : id' ≠ id) : Refines conv n id (s.register id') := by
  have hpushed := (h.cleanUp_ne hcoh hne).push ⟨id', .sending, .empty, .empty⟩ hne
  refine hpushed.frame (hpushed.of_ids rfl) rfl ?_ ?_
  · exact (AList.lookup_insert_ite ..).trans (if_neg hne.symm)
  · exact (AList.lookup_insert_ite ..).trans (if_neg hne.symm)

lemma Refines.act_ne (hne : m ≠ n) (hid : call.id ≠ id)
    (hact : Act s m call other) : Refines conv n id other := by
  cases hact with
  | stay => exact h
  | goto => exact h.setStage_ne hne
  | leave => exact (h.cleanUp_ne hcoh hid).setStage_ne hne
  | expire => exact (h.removeResponse_ne hcoh hid .closed).setStage_ne hne

lemma refines_response {response} (hresp : i.response = some response) (hacks : i.acks id = false)
    (hn : conv.next n i = conv.stage) : Refines (conv.step n id i) n id (s.step i).1 := by
  obtain ⟨requestId, ans⟩ := response
  have han : i.answer id = if requestId = id then some ans else none := by
    rw [Input.answer, hresp]
  unfold Conversation.step
  rw [step_of_response hresp, hn, hacks, Bool.or_false, han]
  by_cases hid : requestId = id
  · subst hid
    rw [if_pos rfl]
    exact h.answered ans
  · rw [if_neg hid, Option.or_none]
    exact h.removeResponse_ne hcoh hid (.sent ans)

/-- **An input is to the manager what it is to the conversation**, unless another call makes up
the same id. -/
theorem refines_step (hnew : ∀ data sur, i ≠ .performRpc id data sur) :
    Refines (conv.step n id i) n id (s.step i).1 := by
  -- an input that is no message
  have hsi (hacks : i.acks id = false) (han : i.answer id = none) :
      conv.step n id i = { conv with stage := conv.next n i } := by
    unfold Conversation.step
    rw [hacks, han, Bool.or_false, Option.or_none]
  cases i with
  | performRpc id' data sur =>
    rw [hsi rfl rfl]
    have hne : id' ≠ id := by
      rintro rfl
      exact hnew data sur rfl
    show Refines conv n id (s.performRpc id' data sur).1
    unfold performRpc
    split
    · exact h.push _ hne
    · exact h.register_ne hcoh hne
  | sendFinished _ res =>
    rw [hsi rfl rfl]
    exact h.onCall (s.finishSend · · res) (fun _ _ hs => h.finishSend hs res)
      fun _ hne hid => h.act_ne hcoh hne hid (act_finishSend res)
  | poll _ elapsed =>
    rw [hsi rfl rfl]
    exact h.onCall (s.poll · · elapsed) (fun _ hc hs => h.poll hs hc elapsed)
      fun _ hne hid => h.act_ne hcoh hne hid (act_poll elapsed)
  | timeOut =>
    rw [hsi rfl rfl]
    exact h.onCall s.timeOut (fun _ _ hs => h.timeOut hs)
      fun _ hne hid => h.act_ne hcoh hne hid act_timeOut
  | drop =>
    rw [hsi rfl rfl]
    exact h.onCall s.dropFuture (fun _ _ hs => h.dropFuture hs)
      fun _ hne hid => h.act_ne hcoh hne hid act_dropFuture
  | rpcAck requestId =>
    show Refines (conv.step n id _) n id (s.removeAck requestId (.sent ()))
    by_cases hid : requestId = id
    · subst hid
      have hstep : conv.step n requestId (.rpcAck requestId) = { conv with acked := true } := by
        simp [Conversation.step, Conversation.next, Input.acks, Input.answer, Input.response]
      rw [hstep]
      exact h.acked
    · rw [hsi (decide_eq_false hid) rfl]
      exact h.removeAck_ne hcoh hid (.sent ())
  | rpcResponse => exact refines_response h hcoh rfl rfl rfl
  | responseStream r =>
    cases hresp : (Input.responseStream r).response with
    | none =>
      rw [hsi rfl (by rw [Input.answer, hresp])]
      show Refines conv n id (s.handleV2ResponseStream r)
      rw [step_responseStream_none hresp]
      exact h
    | some => exact refines_response h hcoh hresp rfl rfl

end

/-! ### Every call of a run -/

def made (inputs : List Input) : List String :=
  inputs.filterMap fun
    | .performRpc id _ _ => some id
    | .sendFinished .. | .poll .. | .timeOut _ | .drop _ | .rpcAck _ | .rpcResponse ..
    | .responseStream _ => none

lemma ids_onCall {act} (h : ∀ call, Act s n call (act call)) :
    (s.onCall n act).ids = s.ids ++ [] := by
  rw [append_nil]
  unfold onCall
  split
  next call _ =>
    have hact := h call
    generalize act call = other at hact ⊢
    cases hact with
    | stay => rfl
    | goto | leave | expire => simp
  · rfl

lemma ids_step (i : Input) : (s.step i).1.ids = s.ids ++ made [i] := by
  cases i with
  | performRpc id data sur =>
    show (s.performRpc id data sur).1.ids = _
    unfold performRpc
    split
    · exact map_append
    · exact map_append.trans (congrArg (· ++ [id]) ids_cleanUp)
  | sendFinished _ res => exact ids_onCall fun call => act_finishSend res
  | poll _ elapsed => exact ids_onCall fun call => act_poll elapsed
  | timeOut => exact ids_onCall fun call => act_timeOut
  | drop => exact ids_onCall fun call => act_dropFuture
  | rpcAck => exact ids_removeAck.trans (append_nil _).symm
  | rpcResponse => exact ids_removeResponse.trans (append_nil _).symm
  | responseStream r =>
    refine Eq.trans ?_ (append_nil _).symm
    cases hresp : (Input.responseStream r).response with
    | none => exact congrArg ids (step_responseStream_none hresp)
    | some =>
      rw [step_of_response hresp]
      exact ids_removeResponse

lemma ids_state (inputs) : (state step new inputs).ids = made inputs := by
  induction inputs using reverseRecOn with
  | nil => rfl
  | append_singleton _ _ ih =>
    rw [state_concat, ids_step, ih]
    exact filterMap_append.symm

def opening (data : PerformRpcData) (surroundings : Surroundings) : Conversation :=
  match refusal data surroundings with
  | some result => ⟨.returned result, false, none⟩
  | none => .begun

lemma owns_concat (hids : other.ids = s.ids ++ [id]) (hnew : id ∉ s.ids) :
    other.Owns s.ids.length id := by
  refine ⟨?_, fun m hmine => ?_⟩
  · rw [hids]
    exact getElem?_concat_length
  · rw [hids] at hmine
    rcases Tables.getElem?_concat_cases hmine with hmine | ⟨rfl, -⟩
    · exact absurd (mem_of_getElem? hmine) hnew
    · rfl

lemma length_ids : s.ids.length = s.calls.length := length_map ..

lemma refines_performRpc (hnew : id ∉ s.ids) : Refines (opening data sur) s.ids.length id
      (s.performRpc id data sur).1 := by
  unfold opening performRpc
  cases refusal data sur with
  | some =>
    refine ⟨owns_concat map_append hnew, ?_, False.elim, False.elim, False.elim, False.elim⟩
    intro _ hc
    rw [length_ids] at hc
    cases getElem?_concat_length.symm.trans hc
    rfl
  | none =>
    have hlen : (s.cleanUp id).calls.length = s.ids.length := by
      rw [← length_ids, ids_cleanUp]
    have hc : (s.register id).calls[s.ids.length]? = some ⟨id, .sending, .empty, .empty⟩ := by
      rw [← hlen]
      exact getElem?_concat_length
    have hids : (s.register id).ids = s.ids ++ [id] :=
      map_append.trans (congrArg (· ++ [id]) ids_cleanUp)
    refine (owns_concat hids hnew).refines hc rfl fun _ => ⟨rfl, rfl, ?_, ?_⟩
    all_goals
      rw [← hlen]
      exact (AList.lookup_insert_ite ..).trans (if_pos rfl)

lemma refines_since (h : Refines conv n id s) (hcoh : s.Coherent) (hnew : id ∉ made inputs) :
    Refines (conv.since n id inputs) n id (state step s inputs) := by
  induction inputs generalizing conv s with
  | nil => exact h
  | cons i inputs ih =>
    have hmade : made (i :: inputs) = made [i] ++ made inputs :=
      filterMap_append (l := [i])
    rw [hmade, mem_append, not_or] at hnew
    refine ih (refines_step h hcoh fun data sur heq => hnew.1 ?_) (coherent_step hcoh i) hnew.2
    rw [heq]
    exact mem_singleton_self id

lemma stage_since_returned {result} (inputs) (h : conv.stage = .returned result) :
    (conv.since n id inputs).stage = .returned result := by
  induction inputs generalizing conv with
  | nil => exact h
  | cons i _ ih =>
    refine ih ?_
    show conv.next n i = _
    cases i with
    | performRpc | rpcAck | rpcResponse | responseStream => exact h
    | sendFinished =>
      simp [Conversation.next, Conversation.finishSend, h]
    | poll => simp [Conversation.next, Conversation.poll, h]
    | timeOut => simp [Conversation.next, Conversation.timeOut, h]
    | drop => simp [Conversation.next, Conversation.dropFuture, h]

/-- What holds of a call after the inputs since it was made: what it has returned is accounted
for, and the maps have its id exactly while it is in flight and waits for the message. -/
structure Matched (manager : RpcClientManager) (n : ℕ) (id : String) (data : PerformRpcData)
    (surroundings : Surroundings) (inputs : List Input) (call : Call) : Prop where
  id_eq : call.id = id
  outcome : ∀ result, call.stage = .returned result →
    refusal data surroundings = some result ∨ Conversation.Accounted n id inputs result
  ack : call.stage ≠ .dropped →
    (id ∈ manager.pendingAcks ↔ call.stage.InFlight ∧ ∀ input ∈ inputs, input.acks id = false)
  response : call.stage ≠ .dropped → (id ∈ manager.pendingResponses ↔
      call.stage.InFlight ∧ ∀ input ∈ inputs, input.answer id = none)

lemma mem_iff_lookup {map : Map String ℕ} : id ∈ map ↔ ∃ n, map.lookup id = some n := by
  rw [← AList.lookup_isSome, Option.isSome_iff_exists]

lemma ite_eq_some_iff {c : Prop} [Decidable c] :
    (∃ m, (if c then none else some n) = some m) ↔ ¬ c := by
  split <;> simp [*]

@[simp] lemma acked_opening (data sur) : (opening data sur).acked = false := by
  unfold opening
  split <;> rfl

@[simp] lemma answer_opening (data sur) : (opening data sur).answer = none := by
  unfold opening
  split <;> rfl

lemma Coherent.exists_call (h : s.Coherent) (hm : id ∈ s.pendingAcks ∨ id ∈ s.pendingResponses) :
    ∃ m : ℕ, ∃ call, s.calls[m]? = some call ∧ call.id = id ∧ ¬ call.stage.Returned := by
  rcases hm with hm | hm
  · obtain ⟨m, hl⟩ := mem_iff_lookup.mp hm
    obtain ⟨call, hc, hid, -, hawaits⟩ := h.acks hl
    exact ⟨m, call, hc, hid, hawaits.not_returned⟩
  · obtain ⟨m, hl⟩ := mem_iff_lookup.mp hm
    obtain ⟨call, hc, hid, -, hret⟩ := h.responses hl
    exact ⟨m, call, hc, hid, hret⟩

lemma Refines.matched (h : Refines ((opening data sur).since n id inputs) n id s)
    (hcoh : s.Coherent) :
    ∃ call, s.calls[n]? = some call ∧ s.Matched n id data sur inputs call := by
  obtain ⟨call, hc, hid⟩ := h.exists_call
  have hs := h.stage call hc
  -- a call that has returned has nothing in the maps
  have hgone (hret : call.stage.Returned) : ¬ (id ∈ s.pendingAcks ∨ id ∈ s.pendingResponses) := by
    intro hm
    obtain ⟨m, _, howner, howner_id, hnot⟩ := hcoh.exists_call hm
    by_cases heq : m = n
    · subst heq
      cases hc.symm.trans howner
      exact hnot hret
    · exact h.id_ne howner heq howner_id
  refine ⟨call, hc, hid, fun result hres => ?_, fun hdropped => ?_, fun hdropped => ?_⟩
  · rw [hs] at hres
    unfold opening at hres
    cases hrefusal : refusal data sur with
    | some =>
      rw [hrefusal, stage_since_returned inputs rfl] at hres
      cases hres
      exact .inl rfl
    | none =>
      rw [hrefusal] at hres
      have hexplained : Conversation.Explained n id inputs
        (Conversation.begun.since n id inputs).stage :=
        Conversation.explained_since
      rw [hres] at hexplained
      exact .inr hexplained
  · by_cases hflight : call.stage.InFlight
    · rw [mem_iff_lookup, h.acks (hs ▸ hflight), Conversation.acked_since, acked_opening,
        Bool.false_or, ite_eq_some_iff, Bool.not_eq_true, any_eq_false]
      simp only [hflight, true_and, Bool.not_eq_true]
    · have habsent := hgone (Stage.returned_of_not_inFlight hflight hdropped)
      exact iff_of_false (fun hm => habsent (.inl hm)) fun h => hflight h.1
  · by_cases hflight : call.stage.InFlight
    · rw [mem_iff_lookup, h.responses (hs ▸ hflight), Conversation.answer_since, answer_opening,
        Option.none_or, ite_eq_some_iff, Bool.not_eq_true, Option.isSome_eq_false_iff,
        Option.isNone_iff_eq_none, findSome?_eq_none_iff]
      simp only [hflight, true_and]
    · have habsent := hgone (Stage.returned_of_not_inFlight hflight hdropped)
      exact iff_of_false (fun hm => habsent (.inr hm)) fun h => hflight h.1

/-- **Responses and calls match.** For every run, with calls, messages and timeouts in any order
and calls dropped anywhere, if the ids that the calls make up are distinct: each call returns
what a message with its id has brought or an error of its own, and unless it is dropped the maps
have its id exactly as long as it waits for the message. There is nothing in the maps but ids of
calls in flight, and of dropped ones. -/
theorem rpc_matches (inputs : List Input) (h_ids : (made inputs).Nodup) :
    (∀ before id data surroundings after,
      inputs = before ++ .performRpc id data surroundings :: after →
        ∃ call, (state step new inputs).calls[(made before).length]? = some call ∧
          (state step new inputs).Matched (made before).length id data surroundings after call) ∧
      ∀ id, id ∈ (state step new inputs).pendingAcks ∨
          id ∈ (state step new inputs).pendingResponses →
        ∃ call ∈ (state step new inputs).calls, call.id = id ∧
          (call.stage.InFlight ∨ call.stage = .dropped) := by
  refine ⟨?_, ?_⟩
  · rintro before id data surroundings after rfl
    have hmade : made (before ++ .performRpc id data surroundings :: after) =
        made before ++ id :: made after := filterMap_append
    rw [hmade, nodup_append, nodup_cons] at h_ids
    obtain ⟨-, ⟨ha, -⟩, hdisjoint⟩ := h_ids
    have hbef : id ∉ (state step new before).ids := by
      rw [ids_state]
      exact fun hm => hdisjoint id hm id (.head _) rfl
    rw [state_append, state_cons, ← ids_state before]
    have hcoh := coherent_step (coherent_state before) (.performRpc id data surroundings)
    have hsince := refines_since (refines_performRpc hbef) hcoh ha
    refine hsince.matched ?_
    exact state_invariant (P := Coherent) hcoh after fun _ i _ h => coherent_step h i
  · intro id hm
    obtain ⟨_, call, hc, hid, hret⟩ := (coherent_state inputs).exists_call hm
    exact ⟨call, mem_of_getElem? hc, hid, Stage.inFlight_or_dropped hret⟩

/-- Two calls at the same time; the answer to the second comes before its acknowledgement. -/
def sampleCalls : List Input :=
  [.performRpc "2" {} ⟨none, 1⟩, .sendFinished 0 (.ok ()), .sendFinished 1 (.ok ()), .rpcAck "1",
    .rpcResponse "2" (some "two") none, .poll 0 false, .rpcResponse "1" (some "one") none,
    .rpcResponse "1" (some "again") none, .poll 0 true, .rpcAck "2", .poll 1 false]

theorem rpc_matches_twoCalls : (made (.performRpc "1" {} ⟨none, 0⟩ :: sampleCalls)).Nodup ∧
      ∃ call, (state step new (.performRpc "1" {} ⟨none, 0⟩ :: sampleCalls)).calls[0]? = some call ∧
        (state step new (.performRpc "1" {} ⟨none, 0⟩ :: sampleCalls)).Matched 0 "1" {} ⟨none, 0⟩
          sampleCalls call := by
  have hids : (made (.performRpc "1" {} ⟨none, 0⟩ :: sampleCalls)).Nodup := by decide +kernel
  exact ⟨hids, (rpc_matches _ hids).1 [] "1" {} ⟨none, 0⟩ sampleCalls rfl⟩

/-- A call whose request was acknowledged is in flight, and its id is not in the map of the
acknowledgements any more. A call whose request could not be sent returns an error that is
neither a timeout nor a disconnect. -/
theorem acknowledged_in_flight :
    (∃ call, (state step new [.performRpc "1" {} ⟨none, 0⟩, .sendFinished 0 (.ok ()),
        .rpcAck "1"]).calls[0]? = some call ∧ call.id = "1" ∧ call.stage.InFlight) ∧
      "1" ∉ (state step new [.performRpc "1" {} ⟨none, 0⟩, .sendFinished 0 (.ok ()),
        .rpcAck "1"]).pendingAcks ∧ ∃ call, (state step new [.performRpc "1" {} ⟨none, 0⟩,
          .sendFinished 0 (.error "closed")]).calls[0]? = some call ∧
        call.stage = .returned (.err (.builtIn .sendFailed (some "closed"))) :=
  ⟨⟨_, rfl, rfl, trivial⟩, by decide +kernel, ⟨_, rfl, rfl⟩⟩

end RpcClientManager

end LiveKit.Rpc
