import LiveKitRust.Base.Tables
import LiveKitRust.DataStream.Outgoing

/-!
# The order of an outgoing stream's packets

The packets that the writers of a stream hand to the transport are the header, the chunks numbered
from 0 on, and at most one trailer after them, in every run in which the calls come in turn
(`InTurn`):

* a write that has something to send does not get the lock after the stream was closed
  (`write_chunk` does not look at `is_closed`), nor after a call that was broken off: one whose
  packet was handed over without an answer that it was sent;
* a close does not get the lock after a close that was broken off, and the last writer is not
  dropped after one.

The invariant is `Ordered`. Its field `held` says what is known of the call that has the lock;
`count` and `unended` are about a free lock.
-/

open Machine List

namespace LiveKit.DataStream

def chunkPackets (id : StreamId) (contents : List Bytes) : List DataPacket :=
  contents.mapIdx fun chunkIndex content => RawStream.createChunkPacket id chunkIndex content

lemma chunkPackets_concat (id cs content) :
    chunkPackets id (cs ++ [content]) =
      chunkPackets id cs ++ [RawStream.createChunkPacket id cs.length content] := by
  simp [chunkPackets, mapIdx_append]

/-- The call ended with a packet handed over of which it is not known that it was sent. -/
def Status.isBroken : Status → Bool
  | .returned (.error .sendFailed) => true
  | .returned (.error .internal) => true
  | .abandoned => true
  | _ => false

def Request.isClose : Request → Bool
  | .close _ => true
  | .write _ => false

namespace Writers

variable {id : StreamId} {s : Writers} {n : ℕ} {log : List DataPacket}

/-! ### Calls in turn -/

def Unbroken (self : Writers) (p : Request → Bool) : Prop :=
  ∀ call ∈ self.calls, p call.request = true → call.status.isBroken = false
  deriving Decidable

def Allows (self : Writers) : Request → Prop
  | .write input => input.chunks ≠ [] →
      self.stream.isClosed = false ∧ self.Unbroken fun _ => true
  | .close _ => self.Unbroken Request.isClose

instance (self : Writers) (request : Request) : Decidable (self.Allows request) := by
  cases request <;> unfold Allows <;> infer_instance

/-- While the transport receives requests, calls come in turn. -/
def InTurn (self : Writers) : Action → Prop
  | .run n => self.connected = true → ∀ request ∈ self.next n, self.Allows request
  | .drop _ => self.connected = true → self.Unbroken Request.isClose
  | _ => True

instance (self : Writers) (action : Action) : Decidable (self.InTurn action) := by
  cases action <;> unfold InTurn <;> infer_instance

/-! ### The calls after a step -/

variable {status : Status} {p : Request → Bool}

lemma getElem?_setStatus {m call} (h : (s.setStatus n status).calls[m]? = some call) :
    m ≠ n ∧ s.calls[m]? = some call ∨
      ∃ req pre, s.calls[n]? = some ⟨req, pre⟩ ∧ call = ⟨req, status⟩ := by
  by_cases heq : m = n
  · obtain rfl := heq
    rw [setStatus, getElem?_modify_eq] at h
    obtain ⟨⟨req, pre⟩, hbef, hc⟩ := Option.map_eq_some_iff.mp h
    exact .inr ⟨req, pre, hbef, hc.symm⟩
  · rw [setStatus, getElem?_modify_ne _ _ (Ne.symm heq)] at h
    exact .inl ⟨heq, h⟩

lemma mem_setStatus {call} (h : call ∈ (s.setStatus n status).calls) :
    (∃ m, m ≠ n ∧ s.calls[m]? = some call) ∨
      ∃ req pre, s.calls[n]? = some ⟨req, pre⟩ ∧ call = ⟨req, status⟩ := by
  obtain ⟨m, hm⟩ := mem_iff_getElem?.mp h
  rcases getElem?_setStatus hm with ⟨hne, hsm⟩ | hset
  · exact .inl ⟨m, hne, hsm⟩
  · exact .inr hset

lemma mem_of_setStatus {call} (h : s.calls[n]? = some call) :
    ⟨call.request, status⟩ ∈ (s.setStatus n status).calls := by
  apply mem_of_getElem? (i := n)
  rw [setStatus, getElem?_modify_eq, h]
  rfl

lemma Unbroken.of_setStatus (h : (s.setStatus n status).Unbroken p) {call}
    (hc : s.calls[n]? = some call) (hgoing : call.status.isBroken = false) : s.Unbroken p := by
  intro other hot hp
  obtain ⟨m, hm⟩ := mem_iff_getElem?.mp hot
  by_cases heq : m = n
  · obtain rfl := heq
    rwa [← Option.mem_unique hc hm]
  · apply h other _ hp
    apply mem_of_getElem? (i := m)
    rwa [setStatus, getElem?_modify_ne _ _ (Ne.symm heq)]

lemma not_unbroken_setStatus {call} (hc : s.calls[n]? = some call)
    (hbroken : status.isBroken = true) (hp : p call.request = true) :
    ¬ (s.setStatus n status).Unbroken p := by
  intro h
  have hnot : status.isBroken = false := h _ (mem_of_setStatus hc) hp
  cases hbroken.symm.trans hnot

lemma Unbroken.setStatus (h : s.Unbroken p)
    (hstatus : status.isBroken = false) : (s.setStatus n status).Unbroken p := by
  intro call hc hp
  rcases mem_setStatus hc with ⟨m, -, hm⟩ | ⟨_, _, -, rfl⟩
  · exact h call (mem_of_getElem? hm) hp
  · exact hstatus

/-! ### The invariant -/

structure HasLock (system : Writers) (n : ℕ) (request : Request) : Prop where
  call : system.calls[n]? = some ⟨request, .running⟩
  alone : ∀ m call, m ≠ n → system.calls[m]? = some call → call.status ≠ .running
  kept : system.dropped = false

/-- The packets handed over are chunks and then trailers, and a write that has returned
has its chunks among them. -/
structure Sent (id : StreamId) (log : List DataPacket) (contents : List Bytes)
    (trailers : List (Option String)) (system : Writers) : Prop where
  log_eq : log = chunkPackets id contents ++ trailers.map (RawStream.createTrailerPacket id)
  trailers_le : trailers.length ≤ 1
  id_eq : system.stream.id = id
  returned : ∀ call ∈ system.calls, ∀ input, call = ⟨.write input, .returned (.ok ())⟩ →
    input.chunks <:+: contents

structure Writing (contents : List Bytes) (input : Input) (sent rest : List Bytes)
    (n : ℕ) (system : Writers) : Prop where
  lock : system.HasLock n (.write input)
  unclosed : system.stream.isClosed = false
  unbroken : system.Unbroken fun _ => true
  input : input.chunks = sent ++ rest
  sent : sent <:+ contents
  count : contents.length = system.stream.progress.chunkIndex

def Held (contents : List Bytes) (trailers : List (Option String)) (system : Writers) : Prop :=
  match system.lock with
  | none => ∀ call ∈ system.calls, call.status ≠ .running
  | some (n, .chunk chunk rest) => trailers = [] ∧ ∃ before input sent,
      contents = before ++ [chunk] ∧ system.Writing before input sent (chunk :: rest) n
  | some (n, .trailer) => system.stream.isClosed = false ∧
    ∃ reason, system.HasLock n (.close reason)

structure Ordered (id : StreamId) (log : List DataPacket) (contents : List Bytes)
    (trailers : List (Option String)) (system : Writers) : Prop extends
    Sent id log contents trailers system where
  count : system.lock = none → system.stream.isClosed = false → (system.Unbroken fun _ => true) →
    contents.length = system.stream.progress.chunkIndex
  unended : system.lock = none → system.stream.isClosed = false → system.dropped = false →
    system.Unbroken Request.isClose → trailers = []
  idle : system.dropped = true → system.isIdle = true
  held : system.Held contents trailers

lemma ordered_opened (header : Header) : (opened header).Ordered header.streamId [] [] [] where
  log_eq := rfl
  trailers_le := Nat.zero_le _
  id_eq := rfl
  returned := by simp [opened]
  count _ _ _ := rfl
  unended _ _ _ _ := rfl
  idle h := absurd h (by simp [opened])
  held := by simp [Held, opened]

/-! ### Calls that wait -/

structure Alike (before after : Writers) : Prop where
  stream : after.stream = before.stream
  lock : after.lock = before.lock
  dropped : after.dropped = before.dropped
  new : ∀ (m : ℕ) (call : Call), after.calls[m]? = some call → before.calls[m]? = some call ∨
    before.dropped = false ∧ (call.status = .waiting ∨ call.status = .withdrawn)
  old : ∀ (m : ℕ) (call : Call), before.calls[m]? = some call → call.status ≠ .waiting →
    after.calls[m]? = some call

namespace Alike

variable {pre after : Writers}

section

variable (h : Alike pre after)
include h

lemma unbroken_iff {p} : after.Unbroken p ↔ pre.Unbroken p := by
  constructor
  · intro ha call hmem hp
    obtain ⟨m, hm⟩ := mem_iff_getElem?.mp hmem
    by_cases hwaiting : call.status = .waiting
    · rw [hwaiting]
      rfl
    · exact ha call (mem_of_getElem? (h.old m call hm hwaiting)) hp
  · intro hbef call hmem hp
    obtain ⟨m, hm⟩ := mem_iff_getElem?.mp hmem
    rcases h.new m call hm with hsm | ⟨-, hstatus | hstatus⟩
    · exact hbef call (mem_of_getElem? hsm) hp
    · rw [hstatus]
      rfl
    · rw [hstatus]
      rfl

lemma running {m : ℕ} {call : Call}
    (hm : after.calls[m]? = some call) (hrun : call.status = .running) :
    pre.calls[m]? = some call := by
  rcases h.new m call hm with hsm | ⟨-, hstatus | hstatus⟩
  · exact hsm
  · cases hstatus.symm.trans hrun
  · cases hstatus.symm.trans hrun

lemma hasLock {req : Request} (hlock : pre.HasLock n req) : after.HasLock n req where
  call := h.old n _ hlock.call (by simp)
  alone := fun m call hne hm hrun =>
    hlock.alone m call hne (h.running hm hrun) hrun
  kept := h.dropped.trans hlock.kept

lemma held {cs : List Bytes} {trailers : List (Option String)}
    (hheld : pre.Held cs trailers) : after.Held cs trailers := by
  unfold Held at hheld ⊢
  rw [h.lock]
  split at hheld
  next =>
    intro call hmem hrun
    obtain ⟨m, hm⟩ := mem_iff_getElem?.mp hmem
    exact hheld call (mem_of_getElem? (h.running hm hrun)) hrun
  next =>
    obtain ⟨ho, sofar, i, sent, hcontents, hwriting⟩ := hheld
    exact ⟨ho, sofar, i, sent, hcontents, h.hasLock hwriting.lock,
      by rw [h.stream, hwriting.unclosed], h.unbroken_iff.mpr hwriting.unbroken, hwriting.input,
      hwriting.sent, by rw [h.stream, hwriting.count]⟩
  next =>
    obtain ⟨ho, reason, hlock⟩ := hheld
    exact ⟨by rw [h.stream, ho], reason, h.hasLock hlock⟩

end

lemma call {s : Writers} (hkept : s.dropped = false) (req : Request) :
    Alike s { s with calls := s.calls ++ [⟨req, .waiting⟩] } where
  stream := rfl
  lock := rfl
  dropped := rfl
  new := by
    intro m _ hm
    rcases Tables.getElem?_concat_cases hm with hm | ⟨-, rfl⟩
    · exact .inl hm
    · exact .inr ⟨hkept, .inl rfl⟩
  old := by
    intro m _ hm _
    exact (List.getElem?_append_left (List.getElem?_eq_some_iff.mp hm).1).trans hm

lemma withdraw {s : Writers} (hkept : s.dropped = false) {req : Request}
    (hc : s.calls[n]? = some ⟨req, .waiting⟩) :
    Alike s (s.setStatus n .withdrawn) where
  stream := rfl
  lock := rfl
  dropped := rfl
  new := by
    intro m _ hm
    rcases getElem?_setStatus hm with ⟨-, hsm⟩ | ⟨_, _, -, rfl⟩
    · exact .inl hsm
    · exact .inr ⟨hkept, .inr rfl⟩
  old := by
    intro m _ hm hstatus
    have hne : n ≠ m := by
      rintro rfl
      exact hstatus (by rw [← Option.mem_unique hc hm])
    exact (getElem?_modify_ne _ _ hne).trans hm

end Alike

section Steps

variable {cs : List Bytes} {trailers : List (Option String)} {req : Request} {status : Status}

lemma Sent.append_chunk (h : s.Sent id log cs []) (c : Bytes)
    (hcount : cs.length = s.stream.progress.chunkIndex) :
    s.Sent id (log ++ [s.stream.chunkPacket c]) (cs ++ [c]) [] where
  log_eq := by
    rw [chunkPackets_concat, h.log_eq, RawStream.chunkPacket, h.id_eq, hcount]
    simp
  trailers_le := h.trailers_le
  id_eq := h.id_eq
  returned := fun call hc i heq =>
    (h.returned call hc i heq).trans (prefix_append _ _).isInfix

lemma Sent.setStatus (h : s.Sent id log cs trailers)
    (hret : ∀ i pre, s.calls[n]? = some ⟨.write i, pre⟩ →
      status = .returned (.ok ()) → i.chunks <:+: cs) :
    (s.setStatus n status).Sent id log cs trailers where
  log_eq := h.log_eq
  trailers_le := h.trailers_le
  id_eq := h.id_eq
  returned := by
    intro call hc i heq
    rcases mem_setStatus hc with ⟨m, -, hm⟩ | ⟨_, pre, hn, rfl⟩
    · exact h.returned call (mem_of_getElem? hm) i heq
    · cases heq
      exact hret i pre hn rfl

lemma HasLock.ordered_release (hlock : s.HasLock n req)
    (h : s.Sent id log cs trailers) (he : status ≠ .running)
    (hret : ∀ i, req = .write i → status = .returned (.ok ()) → i.chunks <:+: cs)
    (hcount : ((s.setStatus n status).Unbroken fun _ => true) →
      s.stream.isClosed = false → cs.length = s.stream.progress.chunkIndex)
    (hunended : (s.setStatus n status).Unbroken Request.isClose →
      s.stream.isClosed = false → trailers = []) :
    (s.release n status).Ordered id log cs trailers := by
  have hsent : (s.setStatus n status).Sent id log cs trailers := by
    refine h.setStatus fun i pre hn => ?_
    obtain ⟨rfl, -⟩ := Call.mk.inj (Option.mem_unique hlock.call hn)
    exact hret i rfl
  exact {
    toSent := ⟨hsent.log_eq, hsent.trailers_le, hsent.id_eq, hsent.returned⟩
    count := fun _ hunclosed hun => hcount hun hunclosed
    unended := fun _ hunclosed _ hun => hunended hun hunclosed
    idle := fun hdropped => nomatch hdropped.symm.trans hlock.kept
    held := by
      intro call hc
      rcases mem_setStatus hc with ⟨m, hm, hat⟩ | ⟨-, -, -, rfl⟩
      · exact hlock.alone m call hm hat
      · exact he }

lemma HasLock.ordered_broken (hlock : s.HasLock n req) (h : s.Sent id log cs trailers)
    (hbroken : status.isBroken = true) (ho : req.isClose = true ∨ trailers = []) :
    (s.release n status).Ordered id log cs trailers := by
  have hnot : ∀ p : Request → Bool, p req = true → ¬ (s.setStatus n status).Unbroken p :=
    fun _ => not_unbroken_setStatus hlock.call hbroken
  apply hlock.ordered_release h
  · rintro rfl
    cases hbroken
  · rintro _ _ rfl
    cases hbroken
  · exact fun hun => absurd hun (hnot _ rfl)
  · exact fun hun _ => ho.resolve_left fun hcl => hnot _ hcl hun

lemma HasLock.unique {m other} (hlock : s.HasLock n req)
    (hc : s.calls[m]? = some ⟨other, .running⟩) : m = n ∧ other = req := by
  obtain rfl : m = n := by
    by_contra hne
    exact hlock.alone m _ hne hc rfl
  exact ⟨rfl, (Call.mk.inj (Option.mem_unique hc hlock.call)).1⟩

lemma Writing.ordered_writeChunks {i sent rest} (h : s.Writing cs i sent rest n)
    (hsent : s.Sent id log cs []) :
    ∃ contents', (s.writeChunks n rest).1.Ordered id (log ++ (s.writeChunks n rest).2)
      contents' [] := by
  cases rest with
  | nil =>
    refine ⟨cs, ?_⟩
    rw [writeChunks, append_nil]
    refine h.lock.ordered_release hsent (by simp) ?_ (fun _ _ => h.count) fun _ _ => rfl
    rintro _ ⟨⟩ -
    have hall := h.sent.isInfix
    rwa [← append_nil sent, ← h.input] at hall
  | cons c =>
    rw [writeChunks, send]
    split
    next =>
      refine ⟨cs ++ [c], ?_⟩
      have hmore := hsent.append_chunk c h.count
      exact {
        toSent := ⟨hmore.log_eq, hmore.trailers_le, hmore.id_eq, hmore.returned⟩
        count := nofun
        unended := fun _ _ _ _ => rfl
        idle := fun hdropped => nomatch hdropped.symm.trans h.lock.kept
        held := ⟨rfl, cs, i, sent, rfl,
          ⟨h.lock.call, h.lock.alone, h.lock.kept⟩, h.unclosed, h.unbroken, h.input, h.sent,
          h.count⟩ }
    next =>
      refine ⟨cs, ?_⟩
      rw [append_nil]
      exact h.lock.ordered_broken hsent rfl (.inr rfl)

lemma HasLock.ordered_send_trailer {reason} (hlock : s.HasLock n (.close reason))
    (hsent : s.Sent id log cs []) (hunclosed : s.stream.isClosed = false) :
    ∃ trailers, (s.send n .trailer (RawStream.createTrailerPacket s.stream.id reason)).1.Ordered
      id (log ++ (s.send n .trailer (RawStream.createTrailerPacket s.stream.id reason)).2)
      cs trailers := by
  rw [send]
  split
  next =>
    refine ⟨[reason], ?_⟩
    exact {
      log_eq := by rw [hsent.log_eq, hsent.id_eq]; simp
      trailers_le := Nat.le_refl _
      id_eq := hsent.id_eq
      returned := hsent.returned
      count := nofun
      unended := nofun
      idle := fun hdropped => nomatch hdropped.symm.trans hlock.kept
      held := ⟨hunclosed, reason, hlock.call, hlock.alone, hlock.kept⟩ }
  next =>
    refine ⟨[], ?_⟩
    rw [append_nil]
    exact hlock.ordered_broken hsent rfl (.inr rfl)

lemma isIdle_iff : s.isIdle = true ↔ s.lock = none ∧ ∀ call ∈ s.calls, call.status ≠ .waiting := by
  simp [isIdle]

lemma next_eq_some (h : s.next n = some req) :
    s.lock = none ∧ s.calls[n]? = some ⟨req, .waiting⟩ := by
  unfold next at h
  split at h
  next hlock hc =>
    cases h
    exact ⟨hlock, hc⟩
  next => cases h

lemma release_setStatus (status' : Status) :
    (s.setStatus n status').release n status = s.release n status := by
  simp [release, setStatus, modify_modify_eq, Function.comp_def]

lemma send_of_not_connected (hconn : s.connected = false) (pending pkt) :
    (s.setStatus n .running).send n pending pkt =
      (s.release n (.returned (sendPacket .closed)), []) := by
  rw [send, if_neg (by simp [setStatus, hconn]), release_setStatus]

namespace Ordered

section

variable (h : s.Ordered id log cs trailers)
include h

lemma kept (hc : s.calls[n]? = some ⟨req, .waiting⟩) : s.dropped = false := by
  cases hdropped : s.dropped with
  | false => rfl
  | true => exact absurd rfl ((isIdle_iff.mp (h.idle hdropped)).2 _ (mem_of_getElem? hc))

section

variable (hfree : s.lock = none)
include hfree

lemma hasLock (hc : s.calls[n]? = some ⟨req, .waiting⟩) :
    (s.setStatus n .running).HasLock n req where
  call := by
    rw [setStatus, getElem?_modify_eq, hc]
    rfl
  alone := by
    intro m call hne hm
    rw [setStatus, getElem?_modify_ne _ _ (Ne.symm hne)] at hm
    have hheld := h.held
    rw [Held, hfree] at hheld
    exact hheld call (mem_of_getElem? hm)
  kept := h.kept hc

lemma release_waiting (hc : s.calls[n]? = some ⟨req, .waiting⟩) (he : status ≠ .running)
    (hret : ∀ i, req = .write i → status = .returned (.ok ()) → i.chunks = []) :
    (s.release n status).Ordered id log cs trailers := by
  have hsent : (s.setStatus n .running).Sent id log cs trailers := h.toSent.setStatus nofun
  have hbef : ∀ p, ((s.setStatus n .running).setStatus n status).Unbroken p →
      s.Unbroken p := fun p hun =>
    (hun.of_setStatus (h.hasLock hfree hc).call rfl).of_setStatus hc rfl
  rw [← release_setStatus .running]
  apply (h.hasLock hfree hc).ordered_release hsent he
  · intro i hwrite hok
    rw [hret i hwrite hok]
    exact nil_infix
  · intro hun hunclosed
    exact h.count hfree hunclosed (hbef _ hun)
  · intro hun hunclosed
    exact h.unended hfree hunclosed (h.kept hc) (hbef _ hun)

/-- A write gets the lock. It hands over its first chunk, if it has one and the transport
receives requests, and is over at once otherwise. -/
lemma run_write {i} (hc : s.calls[n]? = some ⟨.write i, .waiting⟩)
    (hturn : s.connected = true → s.Allows (.write i)) :
    ∃ cs trailers, (s.run n (.write i)).1.Ordered id
      (log ++ (s.run n (.write i)).2) cs trailers := by
  rw [run]
  cases hchunks : i.chunks with
  | nil =>
    refine ⟨cs, trailers, ?_⟩
    rw [writeChunks, append_nil, release_setStatus]
    apply h.release_waiting hfree hc (by simp)
    rintro _ ⟨⟩ -
    exact hchunks
  | cons c rest =>
    cases hconn : s.connected with
    | false =>
      refine ⟨cs, trailers, ?_⟩
      rw [writeChunks, send_of_not_connected hconn, append_nil]
      exact h.release_waiting hfree hc (by simp) fun _ _ hok =>
        absurd hok (by simp [sendPacket])
    | true =>
      -- no trailer was sent before
      obtain ⟨hunclosed, hun⟩ := hturn hconn (by simp [hchunks])
      obtain rfl := h.unended hfree hunclosed (h.kept hc) fun call hm _ =>
        hun call hm rfl
      have hsent : (s.setStatus n .running).Sent id log cs [] := h.toSent.setStatus nofun
      have hwriting : (s.setStatus n .running).Writing cs i [] (c :: rest) n :=
        ⟨h.hasLock hfree hc, hunclosed, hun.setStatus rfl, hchunks, nil_suffix,
          h.count hfree hunclosed hun⟩
      obtain ⟨contents', hordered⟩ := hwriting.ordered_writeChunks hsent
      exact ⟨contents', [], hordered⟩

lemma run_close {reason} (hc : s.calls[n]? = some ⟨.close reason, .waiting⟩)
    (hturn : s.connected = true → s.Allows (.close reason)) :
    ∃ cs trailers, (s.run n (.close reason)).1.Ordered id
      (log ++ (s.run n (.close reason)).2) cs trailers := by
  have hover : ∀ res, (s.release n (.returned res)).Ordered id log cs trailers :=
    fun _ => h.release_waiting hfree hc (by simp) nofun
  rw [run, RawStream.trailerPacket]
  cases hcl : s.stream.isClosed with
  | true =>
    refine ⟨cs, trailers, ?_⟩
    rw [if_pos rfl, append_nil]
    exact hover _
  | false =>
    rw [if_neg (by simp)]
    dsimp only
    cases hconn : s.connected with
    | false =>
      refine ⟨cs, trailers, ?_⟩
      rw [send_of_not_connected hconn, append_nil]
      exact hover _
    | true =>
      obtain rfl := h.unended hfree hcl (h.kept hc) (hturn hconn)
      have hsent : (s.setStatus n .running).Sent id log cs [] := h.toSent.setStatus nofun
      exact ⟨cs, (h.hasLock hfree hc).ordered_send_trailer hsent hcl⟩

end

lemma run (hn : s.next n = some req) (hturn : s.connected = true → s.Allows req) :
    ∃ cs trailers, (s.run n req).1.Ordered id (log ++ (s.run n req).2) cs trailers := by
  obtain ⟨hfree, hc⟩ := next_eq_some hn
  cases req with
  | write => exact h.run_write hfree hc hturn
  | close => exact h.run_close hfree hc hturn

lemma respond_chunk {c rest} (hlock : s.lock = some (n, .chunk c rest)) (resp) :
    ∃ cs trailers, (s.respond resp).1.Ordered id (log ++ (s.respond resp).2) cs trailers := by
  have hheld := h.held
  simp only [Held, hlock] at hheld
  obtain ⟨rfl, pre, i, sent, rfl, hwriting⟩ := hheld
  simp only [respond, hlock]
  cases resp with
  | ok =>
    obtain ⟨earlier, rfl⟩ := hwriting.sent
    have hn : Writing (earlier ++ sent ++ [c]) i (sent ++ [c]) rest n
        { s with stream := (s.stream.writeChunk c .ok).2 } :=
      ⟨⟨hwriting.lock.call, hwriting.lock.alone, hwriting.lock.kept⟩, hwriting.unclosed,
        hwriting.unbroken, by simp [hwriting.input], ⟨earlier, by simp⟩,
        by rw [length_append, hwriting.count]; rfl⟩
    obtain ⟨contents', hordered⟩ := hn.ordered_writeChunks
      ⟨h.log_eq, h.trailers_le, h.id_eq, h.returned⟩
    exact ⟨contents', [], hordered⟩
  | failed | closed =>
    -- a chunk that was not sent breaks the write off
    rw [← append_nil log] at h
    exact ⟨_, [], hwriting.lock.ordered_broken h.toSent rfl (.inr rfl)⟩

lemma respond_trailer (hlock : s.lock = some (n, .trailer)) (resp) :
    (s.respond resp).1.Ordered id (log ++ (s.respond resp).2) cs trailers := by
  have hheld := h.held
  simp only [Held, hlock] at hheld
  obtain ⟨_, reason, hhas⟩ := hheld
  simp only [respond, hlock, append_nil]
  cases resp with
  | ok =>
    have hcl : HasLock { s with stream := (s.stream.close .ok).2 } n (.close reason) :=
      ⟨hhas.call, hhas.alone, hhas.kept⟩
    exact hcl.ordered_release ⟨h.log_eq, h.trailers_le, h.id_eq, h.returned⟩ (by simp) (nofun)
      nofun
      nofun
  | failed | closed => exact hhas.ordered_broken h.toSent rfl (.inl rfl)

lemma respond (resp) :
    ∃ cs trailers, (s.respond resp).1.Ordered id (log ++ (s.respond resp).2) cs trailers := by
  match hlock : s.lock with
  | none =>
    refine ⟨cs, trailers, ?_⟩
    simpa only [Writers.respond, hlock, append_nil] using h
  | some (n, .chunk c rest) => exact h.respond_chunk hlock resp
  | some (n, .trailer) => exact ⟨cs, trailers, h.respond_trailer hlock resp⟩

lemma alike {after : Writers} (halike : Alike s after) : after.Ordered id log cs trailers where
  log_eq := h.log_eq
  trailers_le := h.trailers_le
  id_eq := by rw [halike.stream, h.id_eq]
  returned := by
    intro call hmem i heq
    obtain ⟨m, hm⟩ := mem_iff_getElem?.mp hmem
    rcases halike.new m call hm with hsm | ⟨-, hstatus⟩
    · exact h.returned call (mem_of_getElem? hsm) i heq
    · exact absurd hstatus (by simp [heq])
  count := by
    rw [halike.lock, halike.stream]
    intro hfree hun ha
    exact h.count hfree hun (halike.unbroken_iff.mp ha)
  unended := by
    rw [halike.lock, halike.stream, halike.dropped]
    intro hfree hun hkept ha
    exact h.unended hfree hun hkept (halike.unbroken_iff.mp ha)
  idle := by
    rw [halike.dropped, isIdle_iff, halike.lock]
    intro hgone
    obtain ⟨hfree, hn⟩ := isIdle_iff.mp (h.idle hgone)
    refine ⟨hfree, fun call hmem => ?_⟩
    obtain ⟨m, hm⟩ := mem_iff_getElem?.mp hmem
    rcases halike.new m call hm with hsm | ⟨hkept, -⟩
    · exact hn call (mem_of_getElem? hsm)
    · cases hgone.symm.trans hkept
  held := halike.held h.held

lemma lock_of_running (hc : s.calls[n]? = some ⟨req, .running⟩) :
    s.HasLock n req ∧ (req.isClose = true ∨ trailers = []) := by
  have hheld := h.held
  unfold Held at hheld
  split at hheld
  next => exact absurd rfl (hheld _ (mem_of_getElem? hc))
  next =>
    obtain ⟨ho, _, _, _, -, hwriting⟩ := hheld
    obtain ⟨rfl, rfl⟩ := hwriting.lock.unique hc
    exact ⟨hwriting.lock, .inr ho⟩
  next =>
    obtain ⟨-, _, hhas⟩ := hheld
    obtain ⟨rfl, rfl⟩ := hhas.unique hc
    exact ⟨hhas, .inl rfl⟩

lemma cancel (n : ℕ) : (s.cancel n).Ordered id log cs trailers := by
  unfold Writers.cancel
  split
  next hc => exact h.alike (.withdraw (h.kept hc) hc)
  next _ hc =>
    obtain ⟨hlock, ho⟩ := h.lock_of_running hc
    exact hlock.ordered_broken h.toSent rfl ho
  next => exact h

lemma drop (hturn : s.connected = true → s.Unbroken Request.isClose) (hasRuntime : Bool) :
    ∃ trailers, (s.drop hasRuntime).1.Ordered id (log ++ (s.drop hasRuntime).2) cs trailers := by
  rw [Writers.drop]
  split
  case isFalse => exact ⟨trailers, by rwa [append_nil]⟩
  case isTrue hidle =>
  obtain ⟨hidle, hkept⟩ := hidle
  obtain ⟨hfree, -⟩ := isIdle_iff.mp hidle
  have hheld := h.held
  rw [Held, hfree] at hheld
  -- whatever is sent, the dropped stream is in order with it
  have hdropped : ∀ pkts trailers', log ++ pkts = chunkPackets id cs ++
        trailers'.map (RawStream.createTrailerPacket id) → trailers'.length ≤ 1 →
      Ordered id (log ++ pkts) cs trailers' { s with dropped := true } :=
    fun pkts trailers' hlog hle => {
      log_eq := hlog
      trailers_le := hle
      id_eq := h.id_eq
      returned := h.returned
      count := h.count
      unended := nofun
      idle := fun _ => hidle
      held := by
        simp only [Held, hfree]
        exact hheld }
  by_cases hsends : (s.connected ∧ hasRuntime) ∧ s.stream.isClosed = false
  · obtain ⟨⟨hconn, hruntime⟩, hun⟩ := hsends
    obtain rfl := h.unended hfree hun (by simpa using hkept) (hturn hconn)
    refine ⟨[none], hdropped _ _ ?_ (Nat.le_refl _)⟩
    rw [if_pos ⟨hconn, hruntime⟩, RawStream.drop, if_neg (by simp [hun]), h.log_eq, h.id_eq]
    simp
  · have hnothing : (if s.connected ∧ hasRuntime then s.stream.drop.toList else []) = [] := by
      split
      next hconn =>
        rw [RawStream.drop, if_pos (by simpa [hconn] using hsends)]
        rfl
      next => rfl
    refine ⟨trailers, hdropped _ _ ?_ h.trailers_le⟩
    rw [hnothing, append_nil, h.log_eq]

lemma step {a} (hturn : s.InTurn a) :
    ∃ cs trailers, (s.step a).1.Ordered id (log ++ (s.step a).2) cs trailers := by
  cases a with
  | call req =>
    refine ⟨cs, trailers, ?_⟩
    rw [Writers.step, append_nil]
    split
    next => exact h
    next hkept => exact h.alike (.call (Bool.eq_false_iff.mpr hkept) req)
  | run =>
    rw [Writers.step]
    split
    next req hn =>
      exact h.run hn fun hconn => hturn hconn req hn
    next => exact ⟨cs, trailers, by rwa [append_nil]⟩
  | respond resp => exact h.respond resp
  | cancel n =>
    refine ⟨cs, trailers, ?_⟩
    rw [Writers.step, append_nil]
    exact h.cancel n
  | disconnect =>
    refine ⟨cs, trailers, ?_⟩
    rw [Writers.step, append_nil]
    exact h.alike ⟨rfl, rfl, rfl, fun _ _ hm => .inl hm, fun _ _ hm _ => hm⟩
  | drop hasRuntime => exact ⟨cs, h.drop hturn hasRuntime⟩

end

end Ordered

end Steps

/-! ### Whole runs -/

def packets (header : Header) (actions : List Action) : List DataPacket :=
  RawStream.createHeaderPacket header :: outputs step (opened header) actions

/-- The packets are the header, then chunks numbered 0, 1, 2 and so on, then at most one
trailer; and a write that has returned `Ok` has all its chunks among them, one after the
other. -/
def InOrder (header : Header) (packets : List DataPacket) (calls : List Call) : Prop :=
  ∃ (contents : List Bytes) (trailers : List (Option String)),
    packets = RawStream.createHeaderPacket header :: (chunkPackets header.streamId contents ++
      trailers.map (RawStream.createTrailerPacket header.streamId)) ∧
    trailers.length ≤ 1 ∧
    ∀ call ∈ calls, ∀ input, call = ⟨.write input, .returned (.ok ())⟩ → input.chunks <:+: contents

/-- **Order.** In a run in which the calls come in turn, the packets are handed over in
order. -/
theorem packets_ordered (header : Header) (actions : List Action)
    (h_turn : Along step InTurn (opened header) actions) :
    InOrder header (packets header actions) (state step (opened header) actions).calls := by
  let P (log : List DataPacket) (self : Writers) : Prop :=
    ∃ cs trailers, self.Ordered header.streamId log cs trailers
  have hinit : P [] (opened header) := ⟨[], [], ordered_opened header⟩
  obtain ⟨cs, trailers, h⟩ := h_turn.run_of_step (P := P) hinit
    fun log self a ⟨cs, trailers, h⟩ haction => h.step haction
  exact ⟨cs, trailers, congrArg _ h.log_eq, h.trailers_le, h.returned⟩

/-- Two clones are written to at the same time. The first write hands over its chunk
before the second one gets the lock, and the first clone is closed after both. -/
def twoClones : List Action :=
  [.call (.write (.bytes [1, 2])), .call (.write (.bytes [3])), .run 0, .run 1, .respond .ok,
    .run 1, .respond .ok, .call (.close none), .run 2, .respond .ok, .drop true]

theorem packets_ordered_twoClones : InOrder ⟨"s", "t", none, some .byteHeader⟩
      (packets ⟨"s", "t", none, some .byteHeader⟩ twoClones)
      (state step (opened ⟨"s", "t", none, some .byteHeader⟩) twoClones).calls :=
  packets_ordered ⟨"s", "t", none, some .byteHeader⟩ twoClones (by decide +kernel)

def writtenAfterClose : List Action :=
  [.call (.close none), .run 0, .respond .ok, .call (.write (.bytes [1])), .run 1, .respond .ok]

/-- **A chunk after the trailer.** The write hands over its chunk behind the trailer, and
returns `Ok`. -/
theorem chunk_after_trailer : packets ⟨"s", "t", none, some .byteHeader⟩ writtenAfterClose =
        [.streamHeader ⟨"s", "t", none, some .byteHeader⟩, .streamTrailer ⟨"s", ""⟩,
          .streamChunk ⟨"s", 0, [1]⟩] ∧
      (state step (opened ⟨"s", "t", none, some .byteHeader⟩) writtenAfterClose).calls[1]? =
        some ⟨.write (.bytes [1]), .returned (.ok ())⟩ := by
  decide +kernel

end Writers

end LiveKit.DataStream
