import LiveKitRust.Base.Monitor

/-!
# Offers and candidates of a peer connection (`rtc_engine/peer_transport.rs`)

`PeerTransport` keeps back what the peer connection cannot take yet: candidates that come before the
remote description, and offers that are asked for while another one is out. Its methods hold one
lock, so they are steps; only `set_remote_description` releases it before it makes up for an offer
that was put off, which is a step of its own (`renegotiate`).

What the peer connection answers is part of the input. Candidates kept back are all handed over
unless one is refused too early (`applied_iff`), and a request for an ICE restart is honoured by the
next offer if it is not put off (`restart_honoured`).
-/

open Machine Monitor

namespace LiveKit.RtcEngine

inductive SignalingState where
  | stable
  | haveLocalOffer
  | haveLocalPrAnswer
  | haveRemoteOffer
  | haveRemotePrAnswer
  | closed
  deriving DecidableEq

structure OfferOptions where
  iceRestart : Bool := false

/-- What the peer connection is like and answers in the course of one call. Methods that the
call may use several times answer by the number of the use. -/
structure PeerConnection (ε : Type) where
  signalingState : SignalingState
  hasRemoteDescription : Bool
  createOffer : Except ε Unit
  setLocalDescription : ℕ → Except ε Unit
  setRemoteDescription : Except ε Unit
  addIceCandidate : ℕ → Except ε Unit

/-- `candidate` is a candidate that the peer connection is given, `asked` a call of
`create_and_send_offer`, and `sent` an offer that `on_offer_handler` is given. -/
inductive Transported (κ : Type) where
  | candidate (candidate : κ)
  | asked (options : OfferOptions)
  | sent (options : OfferOptions)

/-- `TransportInner`, and how many calls of `set_remote_description` are about to renegotiate. -/
structure PeerTransport (δ κ : Type) where
  pendingCandidates : List κ
  renegotiate : Bool
  restartingIce : Bool
  singlePcMode : Bool
  pendingInitialOffer : Option δ
  deferred : ℕ

namespace PeerTransport

variable {δ κ ε : Type} (self : PeerTransport δ κ)

def new (singlePcMode : Bool) : PeerTransport δ κ := ⟨[], false, false, singlePcMode, none, 0⟩

def addIceCandidate (candidate : κ) (pc : PeerConnection ε) :
    PeerTransport δ κ × List (Transported κ) :=
  if pc.hasRemoteDescription && !self.restartingIce then (self, [.candidate candidate])
  else ({ self with pendingCandidates := self.pendingCandidates ++ [candidate] }, [])

/-- The loop over the candidates, which ends at the first one that is refused. -/
def applyPending (answer : ℕ → Except ε Unit) : List κ → List κ × Except ε Unit
  | [] => ([], .ok ())
  | candidate :: rest =>
    match answer 0 with
    | .error err => ([candidate], .error err)
    | .ok () =>
      let (applied, result) := applyPending (fun n => answer (n + 1)) rest
      (candidate :: applied, result)

/-- `set_remote_description` up to where it releases the lock. The drained candidates are gone
also when the loop is left early. -/
def setRemoteDescription (pc : PeerConnection ε) : PeerTransport δ κ × List κ × Except ε Unit :=
  let taken := { self with pendingInitialOffer := none }
  match if self.pendingInitialOffer.isSome then pc.setLocalDescription 0 else .ok () with
  | .error err => (taken, [], .error err)
  | .ok () =>
    match pc.setRemoteDescription with
    | .error err => (taken, [], .error err)
    | .ok () =>
      let drained := { taken with pendingCandidates := [] }
      match applyPending pc.addIceCandidate self.pendingCandidates with
      | (applied, .error err) => (drained, applied, .error err)
      | (applied, .ok ()) =>
        ({ drained with
            restartingIce := false
            renegotiate := false
            deferred := if self.renegotiate then self.deferred + 1 else self.deferred },
          applied, .ok ())

/-- The end of `create_and_send_offer`. An offer that is refused as local description was
munged, and is tried once more as it was made. -/
def sendOffer (options : OfferOptions) (pc : PeerConnection ε) : List (Transported κ) :=
  match pc.createOffer, pc.setLocalDescription 0, pc.setLocalDescription 1 with
  | .ok (), .ok (), _ => [.sent options]
  | .ok (), .error _, .ok () => [.sent options]
  | _, _, _ => []

def createAndSendOffer (options : OfferOptions) (pc : PeerConnection ε) :
    PeerTransport δ κ × List (Transported κ) :=
  let self := { self with restartingIce := options.iceRestart || self.restartingIce }
  if self.pendingInitialOffer.isSome then ({ self with renegotiate := true }, [])
  else if pc.signalingState = .haveLocalOffer then
    if options.iceRestart && pc.hasRemoteDescription then
      match pc.setRemoteDescription with
      | .error _ => (self, [])
      | .ok () => (self, sendOffer options pc)
    else ({ self with renegotiate := true }, [])
  else if pc.signalingState = .closed then (self, [])
  else (self, sendOffer options pc)

inductive Action (δ κ ε : Type) where
  | addIceCandidate (candidate : κ) (pc : PeerConnection ε)
  | setRemoteDescription (pc : PeerConnection ε)
  | renegotiate (pc : PeerConnection ε)
  | createAndSendOffer (options : OfferOptions) (pc : PeerConnection ε)
  | createInitialOffer (offer : δ) (pc : PeerConnection ε)
  /-- `clear_pending_initial_offer`, and `close` if it gets the lock. -/
  | clearPendingInitialOffer

def step : Action δ κ ε → PeerTransport δ κ × List (Transported κ)
  | .addIceCandidate candidate pc => self.addIceCandidate candidate pc
  | .setRemoteDescription pc =>
    let (after, applied, _) := self.setRemoteDescription pc
    (after, applied.map .candidate)
  | .renegotiate pc =>
    match self.deferred with
    | 0 => (self, [])
    | deferred + 1 =>
      let (after, sent) := { self with deferred := deferred }.createAndSendOffer {} pc
      (after, .asked {} :: sent)
  | .createAndSendOffer options pc =>
    let (after, sent) := self.createAndSendOffer options pc
    (after, .asked options :: sent)
  | .createInitialOffer offer pc =>
    match self.singlePcMode, pc.createOffer with
    | true, .ok () => ({ self with pendingInitialOffer := some offer }, [])
    | _, _ => (self, [])
  | .clearPendingInitialOffer => ({ self with pendingInitialOffer := none }, [])

/-! ### Candidates -/

variable {self} {pc : PeerConnection ε}

lemma applyPending_fst_eq_iff (answer : ℕ → Except ε Unit) (candidates : List κ) :
    (applyPending answer candidates).1 = candidates ↔
      ∀ k, k + 1 < candidates.length → (answer k).isOk := by
  induction candidates generalizing answer with
  | nil => simp [applyPending]
  | cons candidate rest ih =>
    rw [applyPending]
    cases han : answer 0 with
    | error err =>
      -- the loop is left here, which is right if nothing comes after
      constructor
      · intro h k hk
        cases (List.cons.inj h).2
        simp at hk
      · intro h
        cases rest with
        | nil => rfl
        | cons _ rest => simpa [han, Except.isOk, Except.toBool] using h 0 (by simp)
    | ok =>
      simp only [List.cons.injEq, true_and, ih]
      constructor
      · rintro h (_ | k) hk
        · rw [han]
          rfl
        · exact h k (by simpa using hk)
      · intro h k hk
        exact h (k + 1) (by simpa using hk)

lemma applyPending_snd_isOk_iff (answer : ℕ → Except ε Unit) (candidates : List κ) :
    (applyPending answer candidates).2.isOk ↔ ∀ k < candidates.length, (answer k).isOk := by
  induction candidates generalizing answer with
  | nil => simp [applyPending, Except.isOk, Except.toBool]
  | cons candidate rest ih =>
    rw [applyPending]
    cases han : answer 0 with
    | error err =>
      refine iff_of_false Bool.false_ne_true fun h => ?_
      simpa [han, Except.isOk, Except.toBool] using h 0 (by simp)
    | ok =>
      rw [List.length_cons, Nat.forall_lt_succ_left, han]
      exact (ih _).trans (iff_and_self.mpr fun _ => rfl)

/-- The peer connection takes the description, and before it an initial offer that is pending. -/
def Applies (self : PeerTransport δ κ) (pc : PeerConnection ε) : Prop :=
  (self.pendingInitialOffer.isSome → (pc.setLocalDescription 0).isOk) ∧ pc.setRemoteDescription.isOk

lemma setRemoteDescription_candidates (h : self.Applies pc) :
    let applied := applyPending pc.addIceCandidate self.pendingCandidates
    let after := self.setRemoteDescription pc
    after.2.1 = applied.1 ∧ after.1.pendingCandidates = [] ∧
      after.1.restartingIce = (self.restartingIce && !applied.2.isOk) := by
  obtain ⟨hinitial, hremote⟩ := h
  have hok : ∀ result : Except ε Unit, result.isOk = true → result = .ok () := by
    rintro (_ | _) hres
    · cases hres
    · rfl
  have hf : (if self.pendingInitialOffer.isSome then pc.setLocalDescription 0 else .ok ()) =
      .ok () := by
    split
    · exact hok _ (hinitial ‹_›)
    · rfl
  rw [setRemoteDescription, hf, hok _ hremote]
  rcases applyPending pc.addIceCandidate self.pendingCandidates with ⟨applied, _ | _⟩
  · exact ⟨rfl, rfl, (Bool.and_true _).symm⟩
  · exact ⟨rfl, rfl, (Bool.and_false _).symm⟩

/-- **Pending candidates.** When the description has been applied, every pending candidate has
been offered once and in order, none is left and the flag is down, if and only if no candidate
was refused; the last one may be if the flag was down before. -/
theorem applied_iff (self : PeerTransport δ κ) (pc : PeerConnection ε) (h : self.Applies pc) :
    let after := self.setRemoteDescription pc
    (after.2.1 = self.pendingCandidates ∧ after.1.pendingCandidates = [] ∧
        after.1.restartingIce = false) ↔
      ∀ k < self.pendingCandidates.length, (pc.addIceCandidate k).isOk ∨
        k + 1 = self.pendingCandidates.length ∧ self.restartingIce = false := by
  obtain ⟨happlied, hpend, hflag⟩ := setRemoteDescription_candidates h
  intro after
  rw [happlied, hpend, hflag, applyPending_fst_eq_iff]
  have hall := applyPending_snd_isOk_iff pc.addIceCandidate self.pendingCandidates
  constructor
  · rintro ⟨hbef, -, hdown⟩ k hk
    rcases Nat.lt_or_eq_of_le (Nat.succ_le_of_lt hk) with hlt | hlast
    · exact .inl (hbef k hlt)
    · -- the last candidate: either the flag was down, or all of them were taken
      cases hrestarting : self.restartingIce with
      | false => exact .inr ⟨hlast, rfl⟩
      | true =>
        rw [hrestarting, Bool.true_and, Bool.not_eq_false'] at hdown
        exact .inl (hall.mp hdown k hk)
  · intro haccepted
    refine ⟨fun k hk => ?_, rfl, ?_⟩
    · rcases haccepted k (by omega) with hok | ⟨hlast, -⟩
      · exact hok
      · omega
    · cases hrestarting : self.restartingIce with
      | false => rfl
      | true =>
        rw [Bool.true_and, Bool.not_eq_false', hall]
        intro k hk
        refine (haccepted k hk).resolve_right fun hdown => ?_
        exact Bool.false_ne_true (hdown.2.symm.trans hrestarting)

/-- A peer connection with a remote description that takes everything but some candidates. -/
def refusing (signalingState : SignalingState) (refused : List ℕ) : PeerConnection Unit where
  signalingState := signalingState
  hasRemoteDescription := true
  createOffer := .ok ()
  setLocalDescription _ := .ok ()
  setRemoteDescription := .ok ()
  addIceCandidate k := if k ∈ refused then .error () else .ok ()

/-- Two candidates, of which the last is refused. -/
theorem applied_iff_last :
    let transport : PeerTransport Unit ℕ := ⟨[1, 2], false, false, false, none, 0⟩
    let after := transport.setRemoteDescription (refusing .haveLocalOffer [1])
    transport.Applies (refusing .haveLocalOffer [1]) ∧
      after.2.1 = [1, 2] ∧ after.1.pendingCandidates = [] ∧ after.1.restartingIce = false := by
  intro transport after
  have happlies : transport.Applies (refusing .haveLocalOffer [1]) := ⟨nofun, rfl⟩
  exact ⟨happlies, (applied_iff _ _ happlies).mpr (by decide)⟩

/-- The first of two candidates is refused: the second is dropped, and the flag stays up. -/
theorem applied_early_refusal :
    let transport : PeerTransport Unit ℕ := ⟨[1, 2], false, true, false, none, 0⟩
    let after := transport.setRemoteDescription (refusing .haveLocalOffer [0])
    transport.Applies (refusing .haveLocalOffer [0]) ∧ after.2.1 = [1] ∧
      after.1.pendingCandidates = [] ∧ after.1.restartingIce = true :=
  ⟨⟨nofun, rfl⟩, rfl, rfl, rfl⟩

/-! ### ICE restarts -/

/-- Whether an ICE restart has been asked for and not been offered since. No other offer may be
sent meanwhile. -/
def observe : Bool → Transported κ → Option Bool
  | owed, .candidate _ => some owed
  | owed, .asked options => some (owed || options.iceRestart)
  | owed, .sent options => if owed && !options.iceRestart then none else some false

/-- A request for an ICE restart is served at once: no initial offer is pending, an offer that
is out can be taken back, and the peer connection does what it is asked for. -/
def Direct (self : PeerTransport δ κ) : Action δ κ ε → Prop
  | .createAndSendOffer options pc => options.iceRestart = true →
    self.pendingInitialOffer = none ∧ pc.signalingState ≠ .closed ∧
      (pc.signalingState = .haveLocalOffer →
        pc.hasRemoteDescription ∧ pc.setRemoteDescription.isOk) ∧
      pc.createOffer.isOk ∧ ((pc.setLocalDescription 0).isOk ∨ (pc.setLocalDescription 1).isOk)
  | _ => True

variable {options : OfferOptions}

lemma sendOffer_cases :
    sendOffer (κ := κ) options pc = [] ∨ sendOffer (κ := κ) options pc = [.sent options] := by
  unfold sendOffer
  split
  · exact .inr rfl
  · exact .inr rfl
  · exact .inl rfl

lemma createAndSendOffer_cases : (self.createAndSendOffer options pc).2 = [] ∨
    (self.createAndSendOffer options pc).2 = [.sent options] := by
  unfold createAndSendOffer
  dsimp only
  split_ifs
  · exact .inl rfl
  · split
    · exact .inl rfl
    · exact sendOffer_cases
  · exact .inl rfl
  · exact .inl rfl
  · exact sendOffer_cases

lemma createAndSendOffer_of_direct (h : self.Direct (.createAndSendOffer options pc))
    (hrestart : options.iceRestart = true) :
    (self.createAndSendOffer options pc).2 = [.sent options] := by
  obtain ⟨hinitial, hcl, hout, hoffer, hlocal⟩ := h hrestart
  have hsend : sendOffer (κ := κ) options pc = [.sent options] := by
    unfold sendOffer
    cases hcreate : pc.createOffer with
    | error => rw [hcreate] at hoffer; cases hoffer
    | ok =>
      cases hzero : pc.setLocalDescription 0 with
      | ok => rfl
      | error =>
        cases hone : pc.setLocalDescription 1 with
        | ok => rfl
        | error => rw [hzero, hone] at hlocal; cases hlocal with | _ h => cases h
  rw [createAndSendOffer]
  simp only [hinitial, hrestart, hcl, Option.isSome_none, Bool.false_eq_true, if_false]
  split
  · obtain ⟨hremote, haccepted⟩ := hout ‹_›
    simp only [hremote, Bool.and_self, if_true]
    split
    next herror =>
      rw [herror] at haccepted
      cases haccepted
    · exact hsend
  · exact hsend

lemma passes_offer {sent : List (Transported κ)} (h : sent = [] ∨ sent = [.sent options])
    (hrestart : options.iceRestart = true → sent = [.sent options]) :
    Passes observe false (.asked options :: sent) (· = false) := by
  obtain ⟨restart⟩ := options
  cases restart with
  | false => rcases h with rfl | rfl <;> exact ⟨false, rfl, rfl⟩
  | true =>
    cases hrestart rfl
    exact ⟨false, rfl, rfl⟩

/-- **ICE restarts.** In a run where no request for an ICE restart is put off or fails, the
next offer after such a request is one with an ICE restart. -/
theorem restart_honoured (singlePcMode : Bool) (actions : List (Action δ κ ε))
    (h : Along step Direct (new singlePcMode) actions) :
    (watch observe false (outputs step (new singlePcMode) actions)).isSome := by
  have hpasses : Passes observe false (outputs step (new singlePcMode) actions) (· = false) := by
    refine Passes.along (I := fun _ owed => owed = false) h rfl ?_
    rintro s a _ hdirect rfl
    cases a with
    | addIceCandidate candidate pc =>
      change Passes _ _ (s.addIceCandidate candidate pc).2 _
      unfold addIceCandidate
      split
      · exact .single rfl rfl
      · exact .nil rfl
    | setRemoteDescription pc =>
      refine Passes.map (.of_ignored ?_ rfl)
      exact fun _ _ => rfl
    | renegotiate pc =>
      rw [step]
      split
      · exact .nil rfl
      · exact passes_offer createAndSendOffer_cases nofun
    | createAndSendOffer options pc =>
      exact passes_offer createAndSendOffer_cases (createAndSendOffer_of_direct hdirect)
    | createInitialOffer offer pc =>
      rw [step]
      split <;> exact .nil rfl
    | clearPendingInitialOffer => exact .nil rfl
  exact hpasses.isSome

/-- A restart while an offer is out that can be taken back. -/
theorem restart_honoured_takenBack :
    let actions : List (Action Unit Unit Unit) :=
      [.createAndSendOffer {} (refusing .stable []),
        .createAndSendOffer ⟨true⟩ (refusing .haveLocalOffer [])]
    Along step Direct (new false) actions ∧
      (watch observe false (outputs step (new false) actions)).isSome := by
  intro actions
  have hdirect : Along step Direct (new false) actions :=
    ⟨nofun, fun _ => ⟨rfl, nofun, fun _ => ⟨rfl, rfl⟩, rfl, .inl rfl⟩, trivial⟩
  exact ⟨hdirect, restart_honoured false actions hdirect⟩

/-- A restart while the first offer has not been answered: what is made up for is an offer
without ICE restart. -/
theorem restart_downgraded :
    let unanswered state : PeerConnection Unit :=
      { refusing state [] with hasRemoteDescription := false }
    let actions : List (Action Unit Unit Unit) :=
      [.createAndSendOffer {} (unanswered .stable),
        .createAndSendOffer ⟨true⟩ (unanswered .haveLocalOffer),
        .setRemoteDescription (unanswered .haveLocalOffer), .renegotiate (refusing .stable [])]
    outputs step (new false) actions = [.asked {}, .sent {}, .asked ⟨true⟩, .asked {}, .sent {}] ∧
      watch observe false (outputs step (new false) actions) = none :=
  ⟨rfl, rfl⟩

end PeerTransport

end LiveKit.RtcEngine
