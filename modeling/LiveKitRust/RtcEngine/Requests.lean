import Mathlib.Data.Finset.Basic
import LiveKitRust.Base.Monitor

/-!
# Requests and their responses (`local_participant.rs`, `rtc_session.rs`)

`set_metadata`, `set_attributes` and `set_name` send a request, and then wait for the response
through `get_response`, which puts a sender into `pending_requests` when it is first polled. A
response that comes before there is one is dropped, and the caller times out (`answered_iff`).

The id of a request is its position among the calls here. `next_request_id` is an `AtomicU32`, which
wraps: an id comes again after `2 ^ 32` requests, when the call that had it is long over.
-/

open Machine Monitor

namespace LiveKit.RtcEngine

variable {ρ : Type}

/-- Where a call is. It has `sent` its request, and waits once `get_response` was polled. -/
inductive RequestStage (ρ : Type) where
  | sent
  | waiting
  | returned (response : ρ)
  | timedOut
  deriving DecidableEq

inductive RequestEvent where
  | sent (id : ℕ)
  | received (id : ℕ)
  | timedOut (id : ℕ)

/-- The calls, by their request ids, and the ids in `pending_requests`. -/
structure Requests (ρ : Type) where
  calls : List (RequestStage ρ)
  pendingRequests : Finset ℕ

namespace Requests

variable (self : Requests ρ)

inductive Action (ρ : Type) where
  | send
  | getResponse (id : ℕ)
  /-- A `RequestResponse` is handled by the signal task. -/
  | requestResponse (id : ℕ) (response : ρ)
  | timeout (id : ℕ)

def step : Action ρ → Requests ρ × List RequestEvent
  | .send => (⟨self.calls ++ [.sent], self.pendingRequests⟩, [.sent self.calls.length])
  | .getResponse id =>
    match self.calls[id]? with
    | some .sent => (⟨self.calls.set id .waiting, insert id self.pendingRequests⟩, [])
    | _ => (self, [])
  | .requestResponse id response =>
    if id ∈ self.pendingRequests then
      -- the receiver of a call that has timed out is gone
      let calls := match self.calls[id]? with
        | some .waiting => self.calls.set id (.returned response)
        | _ => self.calls
      (⟨calls, self.pendingRequests.erase id⟩, [.received id])
    else (self, [.received id])
  | .timeout id =>
    match self.calls[id]? with
    | some .waiting => (⟨self.calls.set id .timedOut, self.pendingRequests⟩, [.timedOut id])
    | _ => (self, [])

def Delivers (self : Requests ρ) : Action ρ → Prop
  | .requestResponse id response =>
    self.calls[id]? = some .sent ∨ self.calls[id]? = some .waiting →
      (self.step (.requestResponse id response)).1.calls[id]? = some (.returned response)
  | _ => True

/-- Whether the request has been sent, and whether a response has come since. Then its caller
does not time out. -/
inductive Seen where
  | nothing
  | sent
  | answered

def observe (id : ℕ) : Seen → RequestEvent → Option Seen
  | seen, .sent id' => some (if id' = id then .sent else seen)
  | .sent, .received id' => some (if id' = id then .answered else .sent)
  | seen, .received _ => some seen
  | .answered, .timedOut id' => if id' = id then none else some .answered
  | seen, .timedOut _ => some seen

/-- No response comes between the sending of a request and the first poll of `get_response`. -/
def Awaited (self : Requests ρ) : Action ρ → Prop
  | .requestResponse id _ => self.calls[id]? ≠ some .sent
  | _ => True

variable {self} {a : Action ρ}

lemma awaited_of_delivers (h : self.Delivers a) : self.Awaited a := by
  cases a with
  | requestResponse id response =>
    intro hsent
    have hreturned := h (.inl hsent)
    -- nothing happens to a call that does not wait
    rw [step, hsent] at hreturned
    split at hreturned <;> cases hsent.symm.trans hreturned
  | _ => trivial

/-- The sender of a call that waits is in the map. -/
def Listed (self : Requests ρ) : Prop :=
  ∀ id : ℕ, self.calls[id]? = some .waiting → id ∈ self.pendingRequests

lemma Listed.step (h : self.Listed) (a) : (self.step a).1.Listed := by
  intro id hwaits
  cases a with
  | send => exact h id (by grind [Requests.step])
  | getResponse | requestResponse | timeout => grind [Requests.step, Listed]

lemma delivers_of_awaited (hlisted : self.Listed) (h : self.Awaited a) : self.Delivers a := by
  cases a with
  | requestResponse id response =>
    intro ho
    have hwaits := ho.resolve_left h
    obtain ⟨hlt, -⟩ := List.getElem?_eq_some_iff.mp hwaits
    rw [step, if_pos (hlisted id hwaits), hwaits]
    exact List.getElem?_set_self hlt
  | _ => trivial

def Consistent (id : ℕ) (self : Requests ρ) : Seen → Prop
  | .nothing => self.calls[id]? = none
  | .sent => self.calls[id]? ≠ none
  | .answered => self.calls[id]? ≠ none ∧ self.calls[id]? ≠ some .sent ∧
    self.calls[id]? ≠ some .waiting

lemma passes_step {id seen} (hlisted : self.Listed) (h : Consistent id self seen)
    (hawaited : self.Awaited a) :
    Passes (observe id) seen (self.step a).2 (Consistent id (self.step a).1) := by
  cases a with
  | send =>
    refine .single rfl ?_
    split
    · grind [step, Consistent]
    · cases seen <;> grind [step, Consistent]
  | getResponse id' =>
    rw [step]
    split
    · refine .nil ?_
      cases seen <;> grind [Consistent]
    · exact .nil h
  | requestResponse id' response =>
    have hlast : (self.step (.requestResponse id' response)).2 = [.received id'] := by
      rw [step]
      split <;> rfl
    rw [hlast]
    have hstays := hlisted id'
    cases seen with
    | nothing | answered => exact .single rfl (by grind [step, Consistent])
    | sent =>
      refine .single rfl ?_
      -- the response finds the call waiting, or at its end
      split <;> grind [step, Consistent, Awaited]
  | timeout id' =>
    rw [step]
    split
    next hwaits =>
      cases seen with
      | answered =>
        have hne : id' ≠ id := by
          rintro rfl
          exact h.2.2 hwaits
        exact .single (if_neg hne) (by grind [Consistent])
      | _ => exact .single rfl (by grind [Consistent])
    · exact .nil h

/-- **Rendezvous.** In a run every response to a call that has not ended is returned by it, and
no call times out after a response to its request has come, if and only if no response comes
before the call waits for it. -/
theorem answered_iff (actions : List (Action ρ)) : (Along step Delivers ⟨[], ∅⟩ actions ∧
        ∀ id, (watch (observe id) .nothing (outputs step ⟨[], ∅⟩ actions)).isSome) ↔
      Along step Awaited ⟨[], ∅⟩ actions := by
  have hlisted : ∀ pre : List (Action ρ), (state step ⟨[], ∅⟩ pre).Listed := fun pre =>
    state_invariant (by intro _ hn; cases hn) pre fun _ a _ h => h.step a
  constructor
  · rintro ⟨hdelivers, -⟩
    rw [along_iff_forall] at hdelivers ⊢
    exact fun pre a post heq => awaited_of_delivers (hdelivers pre a post heq)
  · intro hawaited
    refine ⟨?_, fun id => ?_⟩
    · rw [along_iff_forall] at hawaited ⊢
      exact fun pre a post heq => delivers_of_awaited (hlisted pre) (hawaited pre a post heq)
    · exact (Passes.along (m := Seen.nothing)
        (I := fun s seen => s.Listed ∧ Consistent id s seen) hawaited ⟨hlisted [], rfl⟩
        fun s a seen hawaited h =>
          (passes_step h.1 h.2 hawaited).mono fun _ hseen => ⟨h.1.step a, hseen⟩).isSome

/-- The response comes before `get_response` is polled: the call times out. -/
theorem response_dropped :
    let actions := [.send, .requestResponse 0 (), .getResponse 0, .timeout 0]
    (state step ⟨[], ∅⟩ actions).calls = [.timedOut] ∧
      outputs step ⟨[], ∅⟩ actions = [.sent 0, .received 0, .timedOut 0] ∧
      watch (observe 0) .nothing (outputs step ⟨[], ∅⟩ actions) = none :=
  ⟨rfl, rfl, rfl⟩

end Requests

end LiveKit.RtcEngine
