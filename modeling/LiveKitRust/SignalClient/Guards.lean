import LiveKitRust.SignalClient.Moves

/-!
# What the guards of the signal client protect

A call that holds the stream knows which one is in place (`sees`): nobody puts another one there
while it is read, and only the call that has it for writing does at all. A flush that holds the
queue knows that it is empty from when it has taken what was in it.

So the signals that are to be sent by flushes stand in one line: what the flush under way has still
to send, and behind it what is in the queue. A move adds a signal at the end of it, if any
(`line_move`), and an answer to a flush takes the first one away (`line_drain`).
-/

open Locks List

namespace LiveKit.SignalClient.SignalInner

/-- What a call knows of the stream in place. -/
def sees : Stage → Option (Option ℕ)
  | .draining n _ | .awaiting n _ _ | .sending n => some (some n)
  | .closing _ | .connecting => some none
  | _ => none

def hasTaken : Stage → Bool
  | .draining .. | .awaiting .. => true
  | _ => false

/-- The calls hold locks as the locks allow, and what they know of the data is so. -/
structure Guarded (stream : Option ℕ) (queue : List Outgoing) (calls : List Call) : Prop where
  compatible : Compatible (fun call : Call => call.stage.holds) calls
  sees : ∀ call ∈ calls, ∀ slot ∈ sees call.stage, stream = slot
  taken : ∀ call ∈ calls, hasTaken call.stage = true → queue = []

section Guards

variable {s : SignalInner} {c : ℕ} {connects : Bool} {task : Task} {stage st' : Stage}
  {shared : Shared} {evs : List Event}

/-! ### Locks -/

lemma Undelivered.holds (h : s.Undelivered stage) : stage.holds .stream = some .shared := by
  cases h with
  | noStream | sendError => rfl

lemma acquired_holds {purpose ticket lock} (h : lock ≠ purpose.lock) :
    Stage.holds (.acquired purpose) lock = Stage.holds (.acquiring purpose (some ticket)) lock :=
  if_neg h

lemma acquired_holds_lock (purpose) :
    Stage.holds (.acquired purpose) purpose.lock = some purpose.mode :=
  if_pos rfl

/-! ### The stream in place, and the queue -/

lemma sees_eq_none (h : stage.holds .stream = none) : sees stage = none := by
  cases stage with
  | draining | awaiting | sending | closing | connecting => cases h
  | _ => rfl

lemma hasTaken_eq_false (h : stage.holds .queue = none) : hasTaken stage = false := by
  cases stage with
  | draining | awaiting => cases h
  | _ => rfl

lemma holds_of_hasTaken (h : hasTaken stage = true) : stage.holds .queue = some .exclusive := by
  cases stage with
  | draining | awaiting => rfl
  | _ => cases h

section

variable (h : Move s c connects task stage shared st' evs)
include h

lemma Move.holds : (∀ lock, st'.holds lock = none ∨ st'.holds lock = stage.holds lock) ∨
      ∃ purpose ticket, stage = .acquiring purpose (some ticket) ∧ st' = .acquired purpose ∧
        admits (fun other : Call => other.stage.holds) (fun other => other.stage.asks) s.calls
          ⟨purpose.lock, purpose.mode, ticket⟩ = true := by
  cases h with
  | @acquire _ purpose ticket h => exact .inr ⟨purpose, ticket, rfl, rfl, h⟩
  | ask => exact .inl fun lock => .inr rfl
  | kept _ h =>
    refine .inl fun lock => ?_
    cases lock with
    | queue => exact .inl rfl
    | stream => exact .inr h.holds.symm
  | takeOld hpurpose =>
    refine .inl fun lock => ?_
    rcases hpurpose with rfl | rfl
    · cases lock with
      | queue => exact .inl rfl
      | stream => exact .inr rfl
    · cases lock with
      | queue => exact .inl rfl
      | stream => exact .inr rfl
  | _ =>
    refine .inl fun lock => ?_
    cases lock <;> first | exact .inl rfl | exact .inr rfl

lemma Move.stream : shared.stream = s.stream ∨ stage.holds .stream = some .exclusive := by
  cases h with
  | takeOld hpurpose h => rcases hpurpose with rfl | rfl <;> exact .inr rfl
  | install => exact .inr rfl
  | _ => exact .inl rfl

lemma Move.sees
    (hsees : ∀ slot ∈ sees stage, s.stream = slot) : ∀ slot ∈ sees st', shared.stream = slot := by
  intro slot hslot
  cases h with
  | take h | transmit h | noOld h =>
    cases hslot
    exact h
  | next | oldClosed => exact hsees slot hslot
  | takeOld =>
    cases hslot
    rfl
  | _ => cases hslot

lemma Move.queue : shared.queue = s.queue ∨ stage.holds .queue = some .exclusive := by
  cases h with
  | push | take => exact .inr rfl
  | _ => exact .inl rfl

lemma Move.hasTaken (htk : hasTaken stage = true → s.queue = []) (hs : hasTaken st' = true) :
    shared.queue = [] := by
  cases h with
  | take => rfl
  | next => exact htk rfl
  | _ => cases hs

end

lemma compatible_move (h : Compatible (fun call : Call => call.stage.holds) s.calls)
    (hc : s.calls[c]? = some ⟨task, stage⟩) (hmv : Move s c connects task stage shared st' evs) :
    Compatible (fun call : Call => call.stage.holds) (s.calls.set c ⟨task, st'⟩) := by
  rcases hmv.holds with hwithin | ⟨purpose, _, rfl, rfl, hadmits⟩
  · exact h.set_of_within hc hwithin
  · exact h.set_of_admits hc hadmits (fun lock => acquired_holds) (acquired_holds_lock purpose)

section

variable {res : SendResult} (h : Answer task res stage st' evs)
include h

lemma Answer.holds (lock : Lock) : st'.holds lock = stage.holds lock := by
  cases h with
  | send | drain => cases lock <;> rfl

lemma Answer.sees {slot} (hslot : slot ∈ SignalInner.sees st') : slot ∈ SignalInner.sees stage := by
  cases h with
  | send => cases hslot
  | drain => exact hslot

lemma Answer.hasTaken
    (hs : SignalInner.hasTaken st' = true) : SignalInner.hasTaken stage = true := by
  cases h with
  | send => cases hs
  | drain => rfl

end

/-! ### Steps -/

lemma guarded_steps (h : Guarded s.stream s.queue s.calls) {i calls}
    (hsteps : Steps s i shared calls evs) : Guarded shared.stream shared.queue calls := by
  cases hsteps with
  | call =>
    refine ⟨h.compatible.append fun lock => by cases lock <;> rfl, ?_, ?_⟩
    · exact forall_mem_append.mpr ⟨h.sees, forall_mem_singleton.mpr nofun⟩
    · exact forall_mem_append.mpr ⟨h.taken, forall_mem_singleton.mpr nofun⟩
  | idle => exact h
  | @move _ _ _ _ _ _ _ hc hmv =>
    have hm := mem_of_getElem? hc
    refine ⟨compatible_move h.compatible hc hmv, ?_, ?_⟩
    · refine h.compatible.known_set (fun call stream => ∀ slot ∈ sees call.stage, stream = slot)
        .stream hc hmv.stream ?_ h.sees (hmv.sees (h.sees _ hm))
      intro _ hn _ hslot
      rw [sees_eq_none hn] at hslot
      cases hslot
    · refine h.compatible.known_set (fun call queue => hasTaken call.stage = true → queue = [])
        .queue hc hmv.queue ?_ h.taken (hmv.hasTaken (h.taken _ hm))
      intro _ hn htk
      rw [hasTaken_eq_false hn] at htk
      cases htk
  | @answer _ _ _ _ _ _ _ hc _ han =>
    have hm := mem_of_getElem? hc
    refine ⟨h.compatible.set_of_within hc fun lock => .inr (han.holds lock), ?_, ?_⟩
    · exact Tables.forall_mem_set h.sees fun slot hslot => h.sees _ hm slot (han.sees hslot)
    · exact Tables.forall_mem_set h.taken fun htk => h.taken _ hm (han.hasTaken htk)

end Guards

/-! ### The line of signals that are to be flushed -/

def line (calls : List Call) (queue : List Outgoing) : List Outgoing :=
  calls.flatMap (fun call => taken call.stage) ++ queue

section Line

variable {s : SignalInner} {c : ℕ} {task : Task} {stage st' : Stage} {calls : List Call}
  {queue : List Outgoing}

lemma taken_eq_nil (h : hasTaken stage = false) : taken stage = [] := by
  cases stage with
  | draining | awaiting => cases h
  | _ => rfl

lemma flatMap_taken (h : Compatible (fun call : Call => call.stage.holds) calls)
    (hc : calls[c]? = some ⟨task, stage⟩) (hholds : stage.holds .queue = some .exclusive) :
    calls.flatMap (fun call => taken call.stage) = taken stage := by
  refine Tables.flatMap_eq_of_only hc fun j other hot hne => ?_
  cases htk : hasTaken other.stage with
  | false => exact taken_eq_nil htk
  | true =>
    have hholds' := holds_of_hasTaken htk
    exact absurd (h.eq_of_exclusive hc hot hholds hholds') hne

lemma line_set (hc : calls[c]? = some ⟨task, stage⟩) (htk : taken st' = taken stage) :
    line (calls.set c ⟨task, st'⟩) queue = line calls queue :=
  congrArg (· ++ queue) (Tables.flatMap_set_of_eq hc htk)

lemma line_call (calls task) : line (calls ++ [⟨task, .called⟩]) queue = line calls queue := by
  unfold line
  rw [flatMap_append]
  exact congrArg (· ++ queue) (append_nil _)

variable {item : Outgoing} {n : ℕ}

lemma line_sent (hc : calls[c]? = some ⟨.send item, .sending n⟩) (res) :
    line (calls.set c ⟨.send item, .answered res⟩) queue = line calls queue :=
  line_set hc rfl

variable (h : Guarded s.stream s.queue s.calls)
include h

lemma line_move {connects shared evs} (hc : s.calls[c]? = some ⟨task, stage⟩)
    (hmv : Move s c connects task stage shared st' evs) :
    line (s.calls.set c ⟨task, st'⟩) shared.queue = line s.calls s.queue ∨
      ∃ item guarded, task = .send item ∧ stage = .acquired (.push guarded) ∧
        line (s.calls.set c ⟨task, st'⟩) shared.queue = line s.calls s.queue ++ [item] := by
  have hcompatible := compatible_move h.compatible hc hmv
  cases hmv with
  | @push item guarded =>
    refine .inr ⟨item, guarded, rfl, rfl, ?_⟩
    have hsm : line (s.calls.set c ⟨.send item, .returned⟩) (s.queue ++ [item]) =
        line s.calls (s.queue ++ [item]) := line_set hc rfl
    exact hsm.trans (append_assoc ..).symm
  | @take =>
    have hlt : c < s.calls.length := (List.getElem?_eq_some_iff.mp hc).1
    refine .inl ?_
    unfold line
    rw [flatMap_taken hcompatible (getElem?_set_self hlt) rfl, flatMap_taken h.compatible hc rfl]
    exact List.append_nil _
  | flushed hmv | flushedOnly _ hmv | dropped _ hmv | kept _ hmv =>
    exact .inl (line_set hc hmv.taken_eq_nil.symm)
  | takeOld hpurpose h => rcases hpurpose with rfl | rfl <;> exact .inl (line_set hc rfl)
  | _ => exact .inl (line_set hc rfl)

lemma line_drain {rest} (hc : s.calls[c]? = some ⟨task, .awaiting n item rest⟩) :
    line s.calls s.queue = item :: line (s.calls.set c ⟨task, .draining n rest⟩) s.queue := by
  have hlt : c < s.calls.length := (List.getElem?_eq_some_iff.mp hc).1
  have hcompatible : Compatible (fun call : Call => call.stage.holds)
      (s.calls.set c ⟨task, .draining n rest⟩) := by
    refine h.compatible.set_of_within hc fun lock => .inr ?_
    cases lock <;> rfl
  unfold line
  rw [flatMap_taken hcompatible (getElem?_set_self hlt) rfl, flatMap_taken h.compatible hc rfl]
  rfl

lemma line_flushed (hc : s.calls[c]? = some ⟨task, stage⟩) (hflushed : s.Flushed stage) :
    s.stream = none ∨ line s.calls s.queue = [] := by
  cases hflushed with
  | empty hq =>
    refine .inr ?_
    unfold line
    rw [flatMap_taken h.compatible hc rfl, hq]
    rfl
  | noStream hs => exact .inl hs
  | drained n =>
    refine .inr ?_
    unfold line
    rw [flatMap_taken h.compatible hc rfl, h.taken _ (mem_of_getElem? hc) rfl]
    rfl

end Line

end LiveKit.SignalClient.SignalInner
