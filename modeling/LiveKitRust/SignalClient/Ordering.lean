import LiveKitRust.SignalClient.Guards

/-!
# The order in which signals are written

Sends that overlap may overtake each other: each of them takes the locks by itself. But if one has
returned before the other one is made, its signal is written first, or stands in the line when the
other one comes to flush it. So the signals that were written, with the line behind them, are in
order (`InOrder.ordered`), and a call that goes on puts its own signal in its place (`Inserts`).

A `send` that finds no stream leaves the line as it is, and goes for the stream again. It must not
find one then: `InstallsAlone` says that a new stream is put in place only when no call is under way
that has looked at the flag before (`isOpen`), and the flag is up to stay.
-/

open List

namespace LiveKit.SignalClient

/-! ### What the log tells -/

def Before (log : List Event) (c c' : ℕ) : Prop := [.returned c, .made c'].Sublist log

def queueableWrite : Event → Option Outgoing
  | .written item => if isPassThrough item.signal then none else some item
  | _ => none

/-- The signals that may be queued, in the order in which they were written. -/
def writes (log : List Event) : List Outgoing := log.filterMap queueableWrite

section Log

variable {log evs : List Event} {c c' : ℕ}

lemma before_append (h : Before (log ++ evs) c c') : Before log c c' ∨ .made c' ∈ evs := by
  obtain ⟨l, l', heq, hlog, hevs⟩ := sublist_append_iff.mp h
  rcases eq_nil_or_concat l' with rfl | ⟨init, last, rfl⟩
  · rw [append_nil] at heq
    rw [← heq] at hlog
    exact .inl hlog
  · rw [concat_eq_append] at heq hevs
    have hlast : [Event.returned c] ++ [.made c'] = (l ++ init) ++ [last] := by
      rw [append_assoc]
      exact heq
    have hmade : [Event.made c'] = [last] := (append_inj' hlast rfl).2
    refine .inr (hevs.subset ?_)
    rw [← hmade]
    exact mem_append_right _ (mem_singleton_self _)

lemma Before.returned_mem (h : Before log c c') : .returned c ∈ log := h.subset (.head _)

lemma writes_append (log evs) : writes (log ++ evs) = writes log ++ writes evs :=
  filterMap_append ..

end Log

namespace SignalInner

/-! ### Calls that do not look at the flag any more -/

/-- From the point where the call goes for the queue to the end of the flush. -/
def isFlushing : Stage → Bool
  | .acquiring .flush _ | .acquired .flush | .acquiring .drain _ | .acquired .drain => true
  | .draining .. | .awaiting .. => true
  | _ => false

/-- From the end of the flush to the answer. -/
def isPastFlush : Stage → Bool
  | .acquiring .send _ | .acquired .send | .sending _ => true
  | _ => false

def isQueueable : Task → Bool
  | .send item => !isPassThrough item.signal
  | _ => false

lemma isQueueable_send {item} (h : isPassThrough item.signal = false) :
    isQueueable (.send item) = true := by
  unfold isQueueable
  dsimp only
  rw [h]
  rfl

/-- The call may come to write signals that may be queued. -/
def isOpen (call : Call) : Bool :=
  isFlushing call.stage || (isPastFlush call.stage && isQueueable call.task)

/-- Nobody would write to a stream put in place now, and the flag is up. -/
def IsAlone (self : SignalInner) : Prop :=
  self.reconnecting = true ∧ ∀ call ∈ self.calls, isOpen call = false ∧ call.stage ≠ .failed
  deriving Decidable

/-- A new stream is put in place in such a state only; and the queue is flushed by `send` and
`set_reconnected` alone. -/
def InstallsAlone (self : SignalInner) : Input → Prop
  | .call .flushQueue => False
  | .advance c true => ∀ call ∈ self.calls[c]?, call.stage = .connecting → self.IsAlone
  | _ => True

instance (self : SignalInner) (input : Input) : Decidable (self.InstallsAlone input) := by
  unfold InstallsAlone
  split <;> infer_instance

/-! ### The order of writes -/

def history (log : List Event) (queue : List Outgoing) (calls : List Call) : List Outgoing :=
  writes log ++ line calls queue

/-- Nothing stands in the history before a signal whose call had returned when its own call was
made. A `send` that has flushed the queue and goes for the stream left nothing behind that comes
before its signal, unless there was no stream. -/
structure InOrder (log : List Event) (stream : Option ℕ) (queue : List Outgoing)
    (calls : List Call) : Prop where
  indexed : ∀ (c : ℕ) (item : Outgoing) (stage : Stage),
    calls[c]? = some ⟨.send item, stage⟩ → item.call = c
  returned : ∀ c, .returned c ∈ log → ∃ task, calls[c]? = some ⟨task, .returned⟩
  lt : ∀ item ∈ history log queue calls, item.call < calls.length
  ordered : (history log queue calls).Pairwise fun item later => ¬ Before log later.call item.call
  pastFlush : ∀ (c : ℕ) (task : Task) (stage : Stage), calls[c]? = some ⟨task, stage⟩ →
    isPastFlush stage = true → isQueueable task = true →
    ∀ item ∈ line calls queue, Before log item.call c → stream = none

/-- What the log tells of a call that goes on. -/
structure UnderWay (c : ℕ) (stage stage' : Stage) (events : List Event) : Prop where
  made : ∀ n, .made n ∉ events
  returned : ∀ n, .returned n ∈ events → n = c ∧ stage' = .returned
  ne : stage ≠ .returned

section InOrder

variable {s : SignalInner} {c : ℕ} {connects : Bool} {task : Task} {stage st' : Stage}
  {shared : Shared} {log evs : List Event} {stream : Option ℕ} {queue : List Outgoing}
  {calls : List Call}

section

variable (h : Move s c connects task stage shared st' evs)
include h

lemma Move.underWay : UnderWay c stage st' evs := by
  refine ⟨?_, ?_, ?_⟩
  · intro n hm
    cases h <;> simp at hm
  · intro n hm
    cases h <;> simp at hm
    all_goals exact ⟨hm, rfl⟩
  · rintro rfl
    cases h with
    | flushed h => cases h
    | flushedOnly _ h => cases h
    | dropped _ h => cases h
    | kept _ h => cases h

lemma Move.writes_eq_nil : writes evs = [] := by
  cases h <;> rfl

lemma Move.pastFlush (hpast : isPastFlush st' = true) (hq : isQueueable task = true) :
    isPastFlush stage = true ∨ s.Flushed stage := by
  cases h with
  | @bypass _ _ hitem =>
    unfold isQueueable at hq
    dsimp only at hq
    rw [hitem] at hq
    cases hq
  | @ask _ purpose | @acquire _ purpose =>
    cases purpose with
    | send => exact .inl rfl
    | _ => cases hpast
  | flushed h => exact .inr h
  | transmit => exact .inl rfl
  | _ => cases hpast

lemma Move.slot : shared.stream = s.stream ∨ shared.stream = none ∨
      (stage = .connecting ∧ st' = .returned ∧ connects = true) := by
  cases h with
  | takeOld => exact .inr (.inl rfl)
  | install h => exact .inr (.inr ⟨rfl, rfl, h⟩)
  | _ => exact .inl rfl

end

variable {res : SendResult}

section

variable (h : Answer task res stage st' evs)
include h

lemma Answer.underWay : UnderWay c stage st' evs := by
  refine ⟨?_, ?_, ?_⟩
  · intro n hm
    cases h <;> cases res <;> simp at hm
  · intro n hm
    cases h <;> cases res <;> simp at hm
  · rintro rfl
    cases h

lemma Answer.not_pastFlush : isPastFlush st' = false := by
  cases h with
  | send | drain => rfl

end

lemma UnderWay.before (h : UnderWay c stage st' evs) {a b} (hbef : Before (log ++ evs) a b) :
    Before log a b :=
  (before_append hbef).resolve_right (h.made b)

lemma InOrder.not_before (h : InOrder log stream queue calls)
    (hc : calls[c]? = some ⟨task, stage⟩) (hne : stage ≠ .returned) (other : ℕ) :
    ¬ Before log c other := by
  intro hbef
  obtain ⟨_, hc'⟩ := h.returned c hbef.returned_mem
  cases hc.symm.trans hc'
  exact hne rfl

/-- The history stays as it is or gets shorter, or the call puts its own signal into it. -/
def Inserts (log : List Event) (c : ℕ) (task : Task) (old new : List Outgoing) : Prop :=
  new.Sublist old ∨ ∃ item front back, task = .send item ∧ old = front ++ back ∧
    new = front ++ item :: back ∧ ∀ later ∈ back, ¬ Before log later.call c

lemma inOrder_set (h : InOrder log s.stream s.queue s.calls)
    (hc : s.calls[c]? = some ⟨task, stage⟩) (hunder : UnderWay c stage st' evs)
    (hinserts : Inserts log c task (history log s.queue s.calls)
      (history (log ++ evs) queue (s.calls.set c ⟨task, st'⟩)))
    (hpastFlush : ∀ (c' : ℕ) (task' : Task) (next : Stage),
      (s.calls.set c ⟨task, st'⟩)[c']? = some ⟨task', next⟩ → isPastFlush next = true →
      isQueueable task' = true →
      ∀ item ∈ line (s.calls.set c ⟨task, st'⟩) queue, Before log item.call c' → stream = none) :
    InOrder (log ++ evs) stream queue (s.calls.set c ⟨task, st'⟩) := by
  have hlt : c < s.calls.length := (List.getElem?_eq_some_iff.mp hc).1
  refine ⟨?_, ?_, ?_, ?_, ?_⟩
  · intro c' item next hc'
    rcases Tables.getElem?_set_cases hc' with ⟨rfl, heq⟩ | ⟨-, hc'⟩
    · cases heq
      exact h.indexed c' item stage hc
    · exact h.indexed c' item next hc'
  · intro n hm
    rcases mem_append.mp hm with hm | hm
    · obtain ⟨task', hret⟩ := h.returned n hm
      have hne : c ≠ n := by
        rintro rfl
        cases hc.symm.trans hret
        exact hunder.ne rfl
      exact ⟨task', by rwa [getElem?_set_ne hne]⟩
    · obtain ⟨rfl, rfl⟩ := hunder.returned n hm
      exact ⟨task, List.getElem?_set_self hlt⟩
  · intro item hm
    rw [List.length_set]
    rcases hinserts with hsublist | ⟨_, _, _, rfl, hold, hnew, -⟩
    · exact h.lt item (hsublist.subset hm)
    · rw [hnew, List.mem_append, List.mem_cons, or_left_comm, ← List.mem_append, ← hold] at hm
      rcases hm with rfl | hm
      · rwa [h.indexed c item stage hc]
      · exact h.lt item hm
  · have hordered := h.ordered
    rcases hinserts with hsublist | ⟨own, front, back, rfl, hold, hnew, hback⟩
    · exact (hordered.sublist hsublist).imp fun hnot hbef => hnot (hunder.before hbef)
    · have hown := h.indexed c own stage hc
      rw [hold] at hordered
      obtain ⟨hfront, hr, hbetween⟩ := List.pairwise_append.mp hordered
      rw [hnew]
      have hinserted : (front ++ own :: back).Pairwise
          fun item later => ¬ Before log later.call item.call := by
        refine List.pairwise_append.mpr ⟨hfront, List.pairwise_cons.mpr ⟨?_, hr⟩, ?_⟩
        · intro later hm
          rw [hown]
          exact hback later hm
        · intro item hm later hm'
          rcases List.mem_cons.mp hm' with rfl | hm'
          · rw [hown]
            exact h.not_before hc hunder.ne item.call
          · exact hbetween item hm later hm'
      exact hinserted.imp fun hnot hbef => hnot (hunder.before hbef)
  · intro c' task' next hc' hpast hq item hm hbef
    exact hpastFlush c' task' next hc' hpast hq item hm (hunder.before hbef)

lemma isOpen_of_pastFlush (hpast : isPastFlush stage = true)
    (hq : isQueueable task = true) : isOpen ⟨task, stage⟩ = true := by
  unfold isOpen
  rw [hpast, hq]
  exact Bool.or_true _

lemma writes_written (item : Outgoing) (res : SendResult) :
    writes (if res = .ok then [.written item] else []) = [] ∨
      (writes (if res = .ok then [.written item] else []) = [item] ∧
        isPassThrough item.signal = false) := by
  split
  · cases hitem : isPassThrough item.signal with
    | false =>
      refine .inr ⟨?_, rfl⟩
      simp [writes, queueableWrite, hitem]
    | true =>
      refine .inl ?_
      simp [writes, queueableWrite, hitem]
  · exact .inl rfl

section

variable (hguarded : Guarded s.stream s.queue s.calls) (hc : s.calls[c]? = some ⟨task, stage⟩)
include hguarded hc

lemma inserts_move (hmv : Move s c connects task stage shared st' evs) :
    Inserts log c task (history log s.queue s.calls)
      (history (log ++ evs) shared.queue (s.calls.set c ⟨task, st'⟩)) := by
  unfold history
  rw [writes_append, hmv.writes_eq_nil, append_nil]
  rcases line_move hguarded hc hmv with hsm | ⟨item, _, rfl, rfl, hline⟩
  · rw [hsm]
    exact .inl (List.Sublist.refl _)
  · -- the signal goes to the end
    rw [hline, ← append_assoc]
    refine .inr ⟨item, _, [], rfl, (append_nil _).symm, rfl, fun _ hm => ?_⟩
    cases hm

lemma line_answer (han : Answer task res stage st' evs) :
    line (s.calls.set c ⟨task, st'⟩) s.queue ⊆ line s.calls s.queue := by
  cases han with
  | send =>
    rw [line_sent hc]
    exact List.Subset.refl _
  | drain =>
    rw [line_drain hguarded hc]
    exact subset_cons_self ..

variable (h : InOrder log s.stream s.queue s.calls)
include h

lemma pastFlush_move (halone : s.InstallsAlone (.advance c connects))
    (hmv : Move s c connects task stage shared st' evs) {c' task' next}
    (hc' : (s.calls.set c ⟨task, st'⟩)[c']? = some ⟨task', next⟩) (hpast : isPastFlush next = true)
    (hq : isQueueable task' = true) {item}
    (hm : item ∈ line (s.calls.set c ⟨task, st'⟩) shared.queue) (hbef : Before log item.call c') :
    shared.stream = none := by
  have hline : item ∈ line s.calls s.queue := by
    rcases line_move hguarded hc hmv with hsm | ⟨own, _, rfl, rfl, hline⟩
    · rwa [hsm] at hm
    · rw [hline] at hm
      refine (mem_append.mp hm).resolve_right fun hown => ?_
      rw [mem_singleton.mp hown, h.indexed c own _ hc] at hbef
      exact h.not_before hc hmv.underWay.ne c' hbef
  have hold : s.stream = none := by
    rcases Tables.getElem?_set_cases hc' with ⟨rfl, heq⟩ | ⟨-, hc'⟩
    · cases heq
      rcases hmv.pastFlush hpast hq with hpast | hflushed
      · exact h.pastFlush c' task stage hc hpast hq item hline hbef
      · rcases line_flushed hguarded hc hflushed with hn | hnil
        · exact hn
        · rw [hnil] at hline
          cases hline
    · exact h.pastFlush c' task' next hc' hpast hq item hline hbef
  rcases hmv.slot with hsm | hn | ⟨rfl, rfl, rfl⟩
  · exact hsm.trans hold
  · exact hn
  · -- a new stream is put in place only when there is no such call
    have hcl : isOpen ⟨task', next⟩ = false := by
      rcases Tables.getElem?_set_cases hc' with ⟨rfl, heq⟩ | ⟨-, hc'⟩
      · cases heq
        cases hpast
      · exact ((halone _ hc rfl).2 _ (mem_of_getElem? hc')).1
    rw [isOpen_of_pastFlush hpast hq] at hcl
    cases hcl

lemma inserts_answer
    (han : Answer task res stage st' evs) : Inserts log c task (history log s.queue s.calls)
      (history (log ++ evs) s.queue (s.calls.set c ⟨task, st'⟩)) := by
  unfold history
  rw [writes_append, append_assoc]
  cases han with
  | @send item n =>
    rw [line_sent hc]
    rcases writes_written item res with hnil | ⟨hwritten, hitem⟩
    · rw [hnil]
      exact .inl (List.Sublist.refl _)
    · -- it overtakes the line, where nothing comes before it
      rw [hwritten]
      refine .inr ⟨item, _, _, rfl, rfl, rfl, fun later hla hbef => ?_⟩
      have hn := h.pastFlush c _ _ hc rfl (isQueueable_send hitem) later hla hbef
      have hs := hguarded.sees _ (mem_of_getElem? hc) (some n) rfl
      cases hn.symm.trans hs
  | @drain _ _ item =>
    rw [line_drain hguarded hc]
    rcases writes_written item res with hnil | ⟨hwritten, -⟩
    · rw [hnil]
      exact .inl (List.Sublist.append (List.Sublist.refl _) (sublist_cons_self ..))
    · rw [hwritten]
      exact .inl (List.Sublist.refl _)

end

lemma inOrder_call (h : InOrder log stream queue calls) (method : Method) :
    InOrder (log ++ [.made calls.length]) stream queue
      (calls ++ [⟨method.task calls.length, .called⟩]) := by
  have hhistory : history (log ++ [.made calls.length]) queue
      (calls ++ [⟨method.task calls.length, .called⟩]) = history log queue calls := by
    unfold history
    rw [writes_append, line_call]
    exact congrArg (· ++ line calls queue) (append_nil _)
  have hbef {c c' : ℕ} (hlt : c' < calls.length)
      (hbef : Before (log ++ [.made calls.length]) c c') : Before log c c' := by
    refine (before_append hbef).resolve_right fun hmade => ?_
    cases mem_singleton.mp hmade
    exact Nat.lt_irrefl _ hlt
  refine ⟨?_, ?_, ?_, ?_, ?_⟩
  · intro c item stage hc
    rcases Tables.getElem?_concat_cases hc with hc | ⟨rfl, heq⟩
    · exact h.indexed c item stage hc
    · cases method with
      | send =>
        cases heq
        rfl
      | _ => cases heq
  · intro c hm
    have hlog : .returned c ∈ log :=
      (mem_append.mp hm).resolve_right fun hmade => by cases List.mem_singleton.mp hmade
    obtain ⟨task, hc⟩ := h.returned c hlog
    have hlt : c < calls.length := (List.getElem?_eq_some_iff.mp hc).1
    exact ⟨task, by rwa [List.getElem?_append_left hlt]⟩
  · rw [hhistory, List.length_append]
    intro item hm
    exact Nat.lt_succ_of_lt (h.lt item hm)
  · rw [hhistory]
    refine h.ordered.imp_of_mem fun {item later} hitem _ hnot hnew => ?_
    exact hnot (hbef (h.lt item hitem) hnew)
  · intro c task stage hc hpast hq item hm hnew
    rw [line_call] at hm
    rcases Tables.getElem?_concat_cases hc with hc | ⟨rfl, heq⟩
    · have hlt : c < calls.length := (List.getElem?_eq_some_iff.mp hc).1
      exact h.pastFlush c task stage hc hpast hq item hm (hbef hlt hnew)
    · cases heq
      cases hpast

lemma inOrder_steps (h : InOrder log s.stream s.queue s.calls)
    (hguarded : Guarded s.stream s.queue s.calls) {i} (halone : s.InstallsAlone i)
    (hsteps : Steps s i shared calls evs) :
    InOrder (log ++ evs) shared.stream shared.queue calls := by
  cases hsteps with
  | call method => exact inOrder_call h method
  | idle =>
    rw [append_nil]
    exact h
  | move hc hmv =>
    refine inOrder_set h hc hmv.underWay (inserts_move hguarded hc hmv) ?_
    intro _ _ _ hc' hpast hq _ hm hbef
    exact pastFlush_move hguarded hc h halone hmv hc' hpast hq hm hbef
  | answer hc _ han =>
    refine inOrder_set h hc han.underWay (inserts_answer hguarded hc h han) ?_
    intro c' task' next hc' hpast hq item hm hbef
    rcases Tables.getElem?_set_cases hc' with ⟨rfl, heq⟩ | ⟨-, hc'⟩
    · cases heq
      rw [han.not_pastFlush] at hpast
      cases hpast
    · have hline := line_answer hguarded hc han hm
      exact h.pastFlush c' task' next hc' hpast hq item hline hbef

end InOrder

end SignalInner
end LiveKit.SignalClient
