import LiveKitRust.Base.Machine
import LiveKitRust.SignalClient.Moves

/-!
# Waiting for the locks of the signal client

A flush takes the queue and then the stream; a `send` whose signal could not be sent takes the queue
while it has the stream. Between readers of the stream this does no harm. But a `restart` or a
`close` that comes in between waits for the `send`, and keeps the flush from the stream: then each
of the three waits for the next one (`circularWait_reached`). As long as this does not happen there
is no circular wait (`not_circularWait_state`), since what is held while another call waits for it
is held in order.
-/

open Locks Machine

namespace LiveKit.SignalClient.SignalInner

def holds (self : SignalInner) (c : ℕ) (lock : Lock) : Option Mode :=
  self.calls[c]?.bind fun call => call.stage.holds lock

def asks (self : SignalInner) (c : ℕ) : Option (Request Lock) :=
  self.calls[c]?.bind fun call => call.stage.asks

def CircularWait (self : SignalInner) : Prop := Locks.CircularWait self.holds self.asks

/-! ### Keeping apart what cannot wait at the same time -/

def waitsToWrite : Stage → Bool
  | .acquiring .restart (some _) | .acquiring .close (some _) => true
  | _ => false

/-- A `send` waits for the queue, with the guard of the stream. -/
def waitsGuarded : Stage → Bool
  | .acquiring (.push true) (some _) => true
  | _ => false

def NoneWaits (waits : Stage → Bool) (calls : List Call) : Prop :=
  ∀ call ∈ calls, waits call.stage = false
  deriving Decidable

def isAboutToAsk : Stage → Option Purpose
  | .acquiring purpose none => some purpose
  | _ => none

/-- A call that begins to wait at this stage does not meet one of the other kind. -/
def MayAsk (calls : List Call) (stage : Stage) : Prop :=
  ∀ purpose ∈ isAboutToAsk stage, (purpose = .push true → NoneWaits waitsToWrite calls) ∧
      (purpose = .restart ∨ purpose = .close → NoneWaits waitsGuarded calls)
  deriving Decidable

/-- The step does not make a `send` wait for the queue, with the guard of the stream, together
with a `restart` or `close` that waits for the stream. -/
def KeepsApart (self : SignalInner) : Input → Prop
  | .advance c _ => ∀ call ∈ self.calls[c]?, MayAsk self.calls call.stage
  | _ => True

instance (self : SignalInner) (input : Input) : Decidable (self.KeepsApart input) := by
  unfold KeepsApart
  split <;> infer_instance

def Apart (calls : List Call) : Prop := NoneWaits waitsToWrite calls ∨ NoneWaits waitsGuarded calls

section Steps

variable {s : SignalInner} {calls : List Call} {c : ℕ} {task : Task} {stage st' : Stage}

lemma Move.waits {connects shared evs} (h : Move s c connects task stage shared st' evs) :
    (waitsToWrite st' = false ∧ waitsGuarded st' = false) ∨ ∃ purpose ticket,
        stage = .acquiring purpose none ∧ st' = .acquiring purpose (some ticket) := by
  cases h with
  | @ask _ purpose ticket => exact .inr ⟨purpose, ticket, rfl, rfl⟩
  | _ => exact .inl ⟨rfl, rfl⟩

lemma Answer.waits {res evs} (h : Answer task res stage st' evs) :
    waitsToWrite st' = false ∧ waitsGuarded st' = false := by
  cases h with
  | send | drain => exact ⟨rfl, rfl⟩

lemma noneWaits_set {waits} (h : NoneWaits waits calls) (hs : waits stage = false) :
    NoneWaits waits (calls.set c ⟨task, stage⟩) :=
  Tables.forall_mem_set h hs

lemma apart_set (h : Apart calls) (hs : waitsToWrite stage = false ∧ waitsGuarded stage = false) :
    Apart (calls.set c ⟨task, stage⟩) :=
  h.imp (fun h => noneWaits_set h hs.1) fun h => noneWaits_set h hs.2

lemma apart_ask (h : Apart calls) {purpose ticket} (hmay : MayAsk calls (.acquiring purpose none)) :
    Apart (calls.set c ⟨task, .acquiring purpose (some ticket)⟩) := by
  cases purpose with
  | push guarded =>
    cases guarded with
    | true => exact .inl (noneWaits_set ((hmay _ rfl).1 rfl) rfl)
    | false => exact apart_set h ⟨rfl, rfl⟩
  | flush | drain | send => exact apart_set h ⟨rfl, rfl⟩
  | restart => exact .inr (noneWaits_set ((hmay _ rfl).2 (.inl rfl)) rfl)
  | close => exact .inr (noneWaits_set ((hmay _ rfl).2 (.inr rfl)) rfl)

lemma noneWaits_called {waits} (h : NoneWaits waits calls) (hcalled : waits .called = false) :
    NoneWaits waits (calls ++ [⟨task, .called⟩]) := by
  exact List.forall_mem_append.mpr ⟨h, List.forall_mem_singleton.mpr hcalled⟩

lemma apart_steps (h : Apart s.calls) {i} (hkp : s.KeepsApart i) {shared evs}
    (hsteps : Steps s i shared calls evs) : Apart calls := by
  cases hsteps with
  | call => exact h.imp (noneWaits_called · rfl) (noneWaits_called · rfl)
  | idle => exact h
  | move hc hmv =>
    rcases hmv.waits with hs | ⟨_, _, rfl, rfl⟩
    · exact apart_set h hs
    · exact apart_ask h (hkp _ hc)
  | answer _ _ han => exact apart_set h han.waits

end Steps

/-! ### No circular wait -/

def rank : Lock → ℕ
  | .queue => 0
  | .stream => 1

lemma exists_acquiring {s : SignalInner} {c : ℕ} {req : Request Lock} (h : s.asks c = some req) :
    ∃ task purpose ticket, s.calls[c]? = some ⟨task, .acquiring purpose (some ticket)⟩ ∧
      req = ⟨purpose.lock, purpose.mode, ticket⟩ := by
  obtain ⟨⟨task, stage⟩, hc, hasks⟩ := Option.bind_eq_some_iff.mp h
  cases stage with
  | acquiring purpose ticket =>
    cases ticket with
    | some ticket => exact ⟨task, purpose, ticket, hc, (Option.some.inj hasks).symm⟩
    | none => cases hasks
  | _ => cases hasks

lemma held_eq_some {purpose : Purpose} {lock : Lock} {mode : Mode}
    (h : purpose.held lock = some mode) : (purpose = .push true ∧ lock = .stream ∧ mode = .shared) ∨
      (purpose = .drain ∧ lock = .queue) := by
  cases purpose with
  | push guarded =>
    cases guarded with
    | false => cases lock <;> cases h
    | true =>
      cases lock with
      | queue => cases h
      | stream =>
        cases h
        exact .inl ⟨rfl, rfl, rfl⟩
  | drain =>
    cases lock with
    | queue => exact .inr ⟨rfl, rfl⟩
    | stream => cases h
  | _ => cases lock <;> cases h

lemma waitsToWrite_of_conflicts {purpose} (ticket : ℕ) (hlock : purpose.lock = .stream)
    (hmode : purpose.mode.conflicts .shared = true) :
    waitsToWrite (.acquiring purpose (some ticket)) = true := by
  cases purpose with
  | push | flush => cases hlock
  | drain | send => cases hmode
  | restart | close => rfl

lemma ordered_of_apart {s : SignalInner} (h : Apart s.calls) : Ordered s.holds s.asks rank := by
  intro c _ hasks other hexcludes _ hnext
  obtain ⟨_, purpose, ticket, hc, rfl⟩ := exists_acquiring hasks
  obtain ⟨_, purpose', _, hc', rfl⟩ := exists_acquiring hnext
  have hholds : s.holds other purpose.lock = purpose'.held purpose.lock := by
    unfold holds
    rw [hc']
    rfl
  unfold excludes at hexcludes
  rw [hholds] at hexcludes
  split at hexcludes
  next hheld =>
    rcases held_eq_some hheld with ⟨rfl, hlock, rfl⟩ | ⟨rfl, hlock⟩
    · -- the two kinds of waiting that are kept apart
      have hwrites := waitsToWrite_of_conflicts ticket hlock hexcludes
      rcases h with hn | hn
      · rw [hn _ (List.mem_of_getElem? hc)] at hwrites
        cases hwrites
      · cases hn _ (List.mem_of_getElem? hc')
    · rw [hlock]
      exact Nat.zero_lt_one
  · cases hexcludes

/-- No state that is reached is a circular wait, as long as the two kinds are kept apart. -/
theorem not_circularWait_state {inputs : List Input} (h : Along step KeepsApart connected inputs) :
    ¬ (Machine.state step connected inputs).CircularWait := by
  have hapart : Apart (state step connected inputs).calls := by
    refine h.state_of_step (P := fun self => Apart self.calls) (.inl nofun) ?_
    intro self i hapart hkeeps
    exact apart_steps hapart hkeeps (steps_step self i)
  exact not_circularWait (ordered_of_apart hapart)

/-! ### A circular wait -/

def mute (body : UInt8) : Method := .send ⟨.mute, [body]⟩

/-- Two signals are on their way when the stream ends, and come back. The first one is queued; then
the client is closed while the second one is still held, and a third one is to be sent. -/
def closedWhileQueueing : List Input :=
  [.call (mute 0), .call (mute 1)] ++ List.replicate 7 (.advance 0 false) ++
    List.replicate 7 (.advance 1 false) ++ [.endStream 0, .discard 0, .discard 0] ++
    List.replicate 4 (.advance 0 false) ++
      [.call (.close true), .advance 2 false, .advance 2 false] ++
    [.call (mute 2)] ++ List.replicate 5 (.advance 3 false) ++ [.advance 1 false]

theorem not_circularWait_closedWhileQueueing : Along step KeepsApart connected closedWhileQueueing ∧
      ¬ (Machine.state step connected closedWhileQueueing).CircularWait := by
  have hapart : Along step KeepsApart connected closedWhileQueueing := by decide +kernel
  exact ⟨hapart, not_circularWait_state hapart⟩

/-- The second `send` comes to wait for the third one, which has the queue and waits for `close`,
which waits for the second one, which has the guard of the stream. -/
theorem circularWait_reached :
    (Machine.state step connected (closedWhileQueueing ++ [.advance 1 false])).CircularWait := by
  generalize hst : state step connected (closedWhileQueueing ++ [.advance 1 false]) = reached
  have hsecond : reached.asks 1 = some ⟨.queue, .exclusive, 8⟩ ∧
      excludes reached.holds ⟨.queue, .exclusive, 8⟩ 3 = true := by
    rw [← hst]
    decide +kernel
  have hthird : reached.asks 3 = some ⟨.stream, .shared, 7⟩ := by
    rw [← hst]
    decide +kernel
  have hclose : reached.asks 2 = some ⟨.stream, .exclusive, 5⟩ ∧
      excludes reached.holds ⟨.stream, .exclusive, 5⟩ 1 = true := by
    rw [← hst]
    decide +kernel
  have hsecondWaits : Waits reached.holds reached.asks 1 3 := .holder hsecond.1 hsecond.2
  have hthirdWaits : Waits reached.holds reached.asks 3 2 :=
    .ahead hthird hclose.1 rfl (by decide) rfl
  have hcloseWaits : Waits reached.holds reached.asks 2 1 := .holder hclose.1 hclose.2
  exact ⟨1, .tail (.tail (.single hsecondWaits) hthirdWaits) hcloseWaits⟩

end LiveKit.SignalClient.SignalInner
