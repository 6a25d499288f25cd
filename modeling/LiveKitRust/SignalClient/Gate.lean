import LiveKitRust.Base.Machine
import LiveKitRust.SignalClient.Ordering

/-!
# The gate of a reconnect

While a client is reconnecting, signals that may be queued go to the queue, since `send` looks at
the flag first. It looks once: a `send` that has seen the flag down is open until it is done with
the stream, and would write to a stream that is put in place meanwhile.

`writes_sequenced`: as long as streams are put in place when there is no such call, nothing is
written from then to `set_reconnected` that may be queued, and the order of the calls is kept.
-/

open Machine List

namespace LiveKit.SignalClient

def gate (gated : Bool) : Event → Bool
  | .installed => true
  | .reconnected => false
  | _ => gated

/-- A new stream has been put in place, and `set_reconnected` has not been called since. -/
def isGated (log : List Event) : Bool := log.foldl gate false

lemma isGated_append (log evs) : isGated (log ++ evs) = evs.foldl gate (isGated log) :=
  foldl_append ..

namespace SignalInner

/-! ### Keeping the gate -/

/-- From when a stream is put in place to `set_reconnected` there is no stream again, or the flag is
up and no call is under way that would not look at it. -/
structure Closed (log : List Event) (shared : Shared) (calls : List Call) : Prop where
  noFlush : ∀ call ∈ calls, call.task ≠ .flushQueue
  failed : ∀ call ∈ calls, call.stage = .failed → shared.stream = none
  gated : isGated log = true →
    shared.stream = none ∨ (shared.reconnecting = true ∧ ∀ call ∈ calls, isOpen call = false)

section Closed

variable {s : SignalInner} {c : ℕ} {connects : Bool} {task : Task} {stage st' : Stage}
  {shared : Shared} {log evs : List Event} {calls : List Call}

lemma Flushed.isOpen (h : s.Flushed stage) : isOpen ⟨task, stage⟩ = true := by
  cases h with
  | empty | noStream | drained => rfl

section

variable (h : Move s c connects task stage shared st' evs)
include h

lemma Move.opens (ho : isOpen ⟨task, st'⟩ = true) (ht : task ≠ .flushQueue) :
    isOpen ⟨task, stage⟩ = true ∨ s.reconnecting = false ∨ evs = [.reconnected] := by
  cases h with
  | normal h => exact .inr (.inl h)
  | @bypass _ _ hitem =>
    unfold isOpen isQueueable at ho
    dsimp only at ho
    rw [hitem] at ho
    cases ho
  | flushQueue => exact absurd rfl ht
  | setReconnected => exact .inr (.inr rfl)
  | @ask _ purpose | @acquire _ purpose => cases purpose <;> exact .inl ho
  | nonempty | take | next => exact .inl rfl
  | flushed h => exact .inl h.isOpen
  | transmit => exact .inl ho
  | _ => cases ho

lemma Move.failed
    (hsees : ∀ slot ∈ SignalInner.sees stage, s.stream = slot) (hfailed : st' = .failed) :
    shared.stream = none := by
  cases h with
  | fail => exact hsees none rfl
  | _ => cases hfailed

lemma Move.not_written (item) : .written item ∉ evs := by
  intro hm
  cases h <;> simp at hm

end

section

variable (h : Closed log s.shared s.calls) (hc : s.calls[c]? = some ⟨task, stage⟩)
  (halone : s.InstallsAlone (.advance c connects))
  (hmv : Move s c connects task stage shared st' evs)
include h hc halone hmv

lemma failed_move (hguarded : Guarded s.stream s.queue s.calls) :
    ∀ call ∈ s.calls.set c ⟨task, st'⟩, call.stage = .failed → shared.stream = none := by
  intro call hm hfailed
  rcases mem_or_eq_of_mem_set hm with hc' | rfl
  · have hold : s.stream = none := h.failed call hc' hfailed
    rcases hmv.slot with hsm | hn | ⟨rfl, rfl, rfl⟩
    · exact hsm.trans hold
    · exact hn
    · exact absurd hfailed ((halone _ hc rfl).2 call hc').2
  · exact hmv.failed (hguarded.sees _ (mem_of_getElem? hc)) hfailed

lemma gated_move (hgated : isGated (log ++ evs) = true) :
    shared.stream = none ∨ (shared.reconnecting = true ∧
        ∀ call ∈ s.calls.set c ⟨task, st'⟩, isOpen call = false) := by
  have hm := mem_of_getElem? hc
  have hopens := fun ho => hmv.opens ho (h.noFlush _ hm)
  rw [isGated_append] at hgated
  -- most moves leave the flag and the stream as they are
  have hsm (hevs : evs.foldl gate (isGated log) = isGated log)
      (hne : evs ≠ [.reconnected]) (hs : shared.stream = s.stream)
      (hflag : shared.reconnecting = s.reconnecting) :
      shared.stream = none ∨ (shared.reconnecting = true ∧
        ∀ call ∈ s.calls.set c ⟨task, st'⟩, isOpen call = false) := by
    rw [hevs] at hgated
    refine (h.gated hgated).imp hs.trans fun ⟨hup, hn⟩ => ⟨hflag.trans hup, ?_⟩
    refine Tables.forall_mem_set hn (eq_false_of_ne_true fun ho => ?_)
    rcases hopens ho with ho | hdown | hreconnected
    · rw [hn _ hm] at ho
      cases ho
    · cases hup.symm.trans hdown
    · exact hne hreconnected
  cases hmv with
  | restart =>
    refine (h.gated hgated).imp id fun ⟨_, hn⟩ => ⟨rfl, Tables.forall_mem_set hn rfl⟩
  | setReconnected => cases hgated
  | takeOld => exact .inl rfl
  | install hconnects =>
    subst hconnects
    have hinstalls := halone _ hc rfl
    exact .inr ⟨hinstalls.1, Tables.forall_mem_set (fun call hm => (hinstalls.2 call hm).1) rfl⟩
  | reset => exact .inl (h.failed _ hm rfl)
  | _ => exact hsm rfl nofun rfl rfl

end

lemma isGated_written (item : Outgoing) (res : SendResult) :
    isGated (log ++ if res = .ok then [.written item] else []) = isGated log := by
  rw [isGated_append]
  split <;> rfl

variable {res : SendResult} {i : Input} {item : Outgoing} {emitted rest : List Event}

lemma eq_of_written {sent}
    (h : (if res = .ok then [Event.written sent] else []) = emitted ++ .written item :: rest) :
    emitted = [] ∧ sent = item := by
  split at h
  · cases emitted with
    | nil =>
      cases h
      exact ⟨rfl, rfl⟩
    | cons => simp at h
  · cases emitted <;> cases h

section

variable (h : Answer task res stage st' evs)
include h

lemma Answer.gated : isGated (log ++ evs) = isGated log := by
  cases h with
  | send | drain => exact isGated_written ..

lemma Answer.opens (ho : isOpen ⟨task, st'⟩ = true) : isOpen ⟨task, stage⟩ = true := by
  cases h with
  | send => cases ho
  | drain => rfl

lemma Answer.not_failed : st' ≠ .failed := by
  rintro rfl
  cases h

lemma Answer.written
    (hevs : evs = emitted ++ .written item :: rest) (hitem : isPassThrough item.signal = false) :
    emitted = [] ∧ isOpen ⟨task, stage⟩ = true ∧ ∃ n, SignalInner.sees stage = some (some n) := by
  cases h with
  | @send _ n =>
    obtain ⟨hemitted, rfl⟩ := eq_of_written hevs
    exact ⟨hemitted, isOpen_of_pastFlush rfl (isQueueable_send hitem), n, rfl⟩
  | @drain _ n =>
    obtain ⟨hemitted, -⟩ := eq_of_written hevs
    exact ⟨hemitted, rfl, n, rfl⟩

end

lemma closed_steps (h : Closed log s.shared s.calls)
    (hguarded : Guarded s.stream s.queue s.calls) (halone : s.InstallsAlone i)
    (hsteps : Steps s i shared calls evs) : Closed (log ++ evs) shared calls := by
  have hnoFlush {c : ℕ} {task : Task} {stage st' : Stage}
      (hc : s.calls[c]? = some ⟨task, stage⟩) :
      ∀ call ∈ s.calls.set c ⟨task, st'⟩, call.task ≠ .flushQueue := by
    exact Tables.forall_mem_set h.noFlush (h.noFlush ⟨task, stage⟩ (mem_of_getElem? hc))
  cases hsteps with
  | call method =>
    refine ⟨?_, ?_, ?_⟩
    · refine forall_mem_append.mpr ⟨h.noFlush, forall_mem_singleton.mpr ?_⟩
      cases method with
      | flushQueue => exact absurd halone id
      | _ => exact nofun
    · exact forall_mem_append.mpr ⟨h.failed, forall_mem_singleton.mpr nofun⟩
    · intro hgated
      rw [isGated_append] at hgated
      refine (h.gated hgated).imp id fun ⟨hup, hn⟩ => ⟨hup, ?_⟩
      exact forall_mem_append.mpr ⟨hn, forall_mem_singleton.mpr rfl⟩
  | idle =>
    rw [append_nil]
    exact h
  | move hc hmv =>
    exact ⟨hnoFlush hc, failed_move h hc halone hmv hguarded, gated_move h hc halone hmv⟩
  | @answer _ _ _ _ _ _ _ hc _ han =>
    refine ⟨hnoFlush hc, ?_, ?_⟩
    · exact Tables.forall_mem_set h.failed fun hfailed => absurd hfailed han.not_failed
    · intro hgated
      rw [han.gated] at hgated
      refine (h.gated hgated).imp id fun ⟨hup, hn⟩ => ⟨hup, Tables.forall_mem_set hn ?_⟩
      refine eq_false_of_ne_true fun ho => ?_
      have hcl := hn _ (mem_of_getElem? hc)
      rw [han.opens ho] at hcl
      cases hcl

lemma not_gated_of_written (h : Closed log s.shared s.calls)
    (hguarded : Guarded s.stream s.queue s.calls) (hsteps : Steps s i shared calls evs)
    (hevs : evs = emitted ++ .written item :: rest)
    (hitem : isPassThrough item.signal = false) : isGated (log ++ emitted) = false := by
  have hm : .written item ∈ evs := by
    rw [hevs]
    exact mem_append_right _ (.head _)
  cases hsteps with
  | call => cases mem_singleton.mp hm
  | idle => cases hm
  | move _ hmv => exact absurd hm (hmv.not_written item)
  | answer hc _ han =>
    obtain ⟨rfl, ho, n, hsees⟩ := han.written hevs hitem
    rw [append_nil]
    refine eq_false_of_ne_true fun hgated => ?_
    rcases h.gated hgated with hn | ⟨-, hcl⟩
    · have hs := hguarded.sees _ (mem_of_getElem? hc) (some n) hsees
      cases hn.symm.trans hs
    · rw [hcl _ (mem_of_getElem? hc)] at ho
      cases ho

end Closed

/-! ### Runs -/

structure Sequenced (log : List Event) (inner : SignalInner) : Prop where
  guarded : Guarded inner.stream inner.queue inner.calls
  inOrder : InOrder log inner.stream inner.queue inner.calls
  closed : Closed log inner.shared inner.calls

lemma sequenced_connected : Sequenced [] connected := by
  refine ⟨⟨?_, nofun, nofun⟩, ⟨nofun, nofun, nofun, .nil, nofun⟩, nofun, nofun, nofun⟩
  exact fun i j task other ht => by cases ht

lemma sequenced_step {log s} (h : Sequenced log s) {i} (halone : s.InstallsAlone i) :
    Sequenced (log ++ (s.step i).2) (s.step i).1 := by
  have hsteps := steps_step s i
  exact ⟨guarded_steps h.guarded hsteps, inOrder_steps h.inOrder h.guarded halone hsteps,
    closed_steps h.closed h.guarded halone hsteps⟩

lemma sequenced_run {is} (h : Along step InstallsAlone connected is) :
    Sequenced (outputs step connected is) (Machine.state step connected is) := by
  exact h.run_of_step (P := Sequenced) sequenced_connected
    fun _ _ _ hsequenced halone => sequenced_step hsequenced halone

/-- **Order and gate.** Signals that may be queued are written in the order in which their calls
were made, if these do not overlap; and none is written from when a stream is put in place to
`set_reconnected`. -/
theorem writes_sequenced {inputs : List Input} (h : Along step InstallsAlone connected inputs) :
    let log := outputs step connected inputs
    ((writes log).Pairwise fun item later => ¬ Before log later.call item.call) ∧
      ∀ earlier item rest, log = earlier ++ .written item :: rest →
        isPassThrough item.signal = false → isGated earlier = false := by
  intro _
  constructor
  · exact (pairwise_append.mp (sequenced_run h).inOrder.ordered).1
  · intro _ _ _ hlog hitem
    obtain ⟨pre, i, _, _, _, rfl, hevs, rfl⟩ := outputs_eq_append_cons hlog
    have hsequenced := sequenced_run h.append_left
    have hsteps := steps_step (state step connected pre) i
    exact not_gated_of_written hsequenced.closed hsequenced.guarded hsteps hevs hitem

/-- Two signals are queued during a reconnect, one after the other. -/
def queuedMeanwhile : List Input :=
  .call .restart :: List.replicate 4 (.advance 0 true) ++
    .call (.send ⟨.mute, [0]⟩) :: List.replicate 4 (.advance 1 false) ++
    .call (.send ⟨.mute, [1]⟩) :: List.replicate 4 (.advance 2 false) ++
    [.endStream 0, .advance 0 true, .advance 0 true] ++
    .call .setReconnected :: List.replicate 8 (.advance 3 false) ++
    [.write 1 true, .advance 3 false, .write 1 true, .advance 3 false]

theorem writes_sequenced_queuedMeanwhile : let log := outputs step connected queuedMeanwhile
    writes log = [⟨1, ⟨.mute, [0]⟩⟩, ⟨2, ⟨.mute, [1]⟩⟩] ∧
      ((writes log).Pairwise fun item later => ¬ Before log later.call item.call) ∧
      ∀ earlier item rest, log = earlier ++ .written item :: rest →
        isPassThrough item.signal = false → isGated earlier = false :=
  ⟨by decide +kernel, writes_sequenced (by decide +kernel)⟩

/-- The second `send` goes ahead of the first one. -/
def overtaking : List Input :=
  [.call (.send ⟨.mute, [0]⟩), .call (.send ⟨.mute, [1]⟩)] ++ List.replicate 7 (.advance 1 false) ++
    [.write 0 true] ++ List.replicate 7 (.advance 0 false) ++ [.write 0 true]

/-- A `send` sees the flag down, and comes to the stream when there is a new one. -/
def flagSeenBefore : List Input :=
  [.call (.send ⟨.mute, [0]⟩), .advance 0 false] ++
    .call .restart :: List.replicate 4 (.advance 1 true) ++
    [.endStream 0, .advance 1 true, .advance 1 true] ++ List.replicate 6 (.advance 0 false) ++
    [.write 1 true]

/-- Signals are written in another order than that of the calls, and during a reconnect. -/
theorem writes_unsequenced : let overtaken := outputs step connected overtaking
    let reconnecting := outputs step connected flagSeenBefore
    ([.made 0, .made 1].Sublist overtaken ∧
      writes overtaken = [⟨1, ⟨.mute, [1]⟩⟩, ⟨0, ⟨.mute, [0]⟩⟩]) ∧
    [.installed, .written ⟨0, ⟨.mute, [0]⟩⟩].Sublist reconnecting ∧
      .reconnected ∉ reconnecting := by
  decide +kernel

end SignalInner
end LiveKit.SignalClient
