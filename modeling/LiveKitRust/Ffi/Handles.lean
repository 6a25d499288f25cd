import LiveKitRust.Base.Machine
import LiveKitRust.Base.Maps

/-!
# The handles of the FFI server (`livekit-ffi/src/server/mod.rs`)

A receiver of `watch_handle_dropped` is completed when its sender is dropped, and only `drop_handle`
drops the senders of a handle. So a receiver tells whether its handle is in the table as long as
nobody takes a watched handle, watches one that is gone, or stores a dropped one again. A
`take_handle` with the wrong type gives an error, and has removed the handle (`watched_iff`).
-/

open Machine

namespace LiveKit.Ffi

def INVALID_HANDLE : ℕ := 0

/-- The table of handles, by the names of their types, and the senders for the receivers of
`watch_handle_dropped`. A receiver is known by its position in `receivers`, where its handle is. -/
structure FfiServer where
  ffiHandles : Map ℕ String := ∅
  handleDroppedTxs : Map ℕ (List ℕ) := ∅
  receivers : List ℕ := []

namespace FfiServer

variable (self : FfiServer)

inductive Action where
  | storeHandle (id : ℕ) (type : String)
  | retrieveHandle (id : ℕ) (type : String)
  | takeHandle (id : ℕ) (type : String)
  | dropHandle (id : ℕ)
  | watchHandleDropped (id : ℕ)

/-- What a call returns: `drop_handle`, whether there was a handle. -/
inductive Reply where
  | handle (result : Except String Unit)
  | dropped (existed : Bool)

/-- The checks of `retrieve_handle` and `take_handle`. -/
def check (id : ℕ) (type : String) : Except String Unit :=
  if id = INVALID_HANDLE then .error "handle is invalid"
  else match self.ffiHandles.lookup id with
    | none => .error "handle not found"
    | some stored => if stored = type then .ok () else .error ("handle is not a " ++ type)

def step : Action → FfiServer × List Reply
  | .storeHandle id type => ({ self with ffiHandles := self.ffiHandles.insert id type }, [])
  | .retrieveHandle id type => (self, [.handle (self.check id type)])
  | .takeHandle id type =>
    -- a handle that is found is removed before its type is looked at
    (if id = INVALID_HANDLE ∨ self.ffiHandles.lookup id = none then self
      else { self with ffiHandles := self.ffiHandles.erase id }, [.handle (self.check id type)])
  | .dropHandle id =>
    ({ self with
      ffiHandles := self.ffiHandles.erase id
      handleDroppedTxs := self.handleDroppedTxs.erase id },
      [.dropped (self.ffiHandles.lookup id).isSome])
  | .watchHandleDropped id =>
    let txs := (self.handleDroppedTxs.lookup id).getD []
    ({ self with
      handleDroppedTxs := self.handleDroppedTxs.insert id (txs ++ [self.receivers.length])
      receivers := self.receivers ++ [id] }, [])

/-- The sender for the receiver is gone. -/
def Completed (rx id : ℕ) : Prop := rx ∉ (self.handleDroppedTxs.lookup id).getD []

/-- A receiver is completed if and only if its handle is not in the table. -/
def Coherent (self : FfiServer) : Prop :=
  ∀ rx id, self.receivers[rx]? = some id → (self.Completed rx id ↔ self.ffiHandles.lookup id = none)

/-- A call that returns an error leaves the server as it is. -/
def Restrained (self : FfiServer) (a : Action) : Prop :=
  ∀ e, .handle (.error e) ∈ (self.step a).2 → (self.step a).1 = self

def Fair (self : FfiServer) : Action → Prop
  | .storeHandle id _ => self.ffiHandles.lookup id = none → id ∉ self.receivers
  | .takeHandle id type => id ≠ INVALID_HANDLE → ∀ stored, self.ffiHandles.lookup id = some stored →
      stored = type ∧ id ∉ self.receivers
  | .watchHandleDropped id => self.ffiHandles.lookup id ≠ none
  | .retrieveHandle .. | .dropHandle _ => True

variable {self}

lemma restrained_of_outputs_eq_nil {a} (h : (self.step a).2 = []) : self.Restrained a := by
  intro e he
  rw [h] at he
  cases he

lemma fair_takeHandle_iff (h : self.Coherent) (id : ℕ) (type : String) :
    (self.step (.takeHandle id type)).1.Coherent ∧ self.Restrained (.takeHandle id type) ↔
      self.Fair (.takeHandle id type) := by
  by_cases hfound : id = INVALID_HANDLE ∨ self.ffiHandles.lookup id = none
  · have hstep : (self.step (.takeHandle id type)).1 = self := if_pos hfound
    have hfair : self.Fair (.takeHandle id type) := by grind [Fair]
    exact ⟨fun _ => hfair, fun _ => ⟨by rwa [hstep], fun _ _ => hstep⟩⟩
  have hstep : (self.step (.takeHandle id type)).1 =
      { self with ffiHandles := self.ffiHandles.erase id } := if_neg hfound
  obtain ⟨hid, hne⟩ := not_or.mp hfound
  obtain ⟨stored, hstored⟩ := Option.ne_none_iff_exists'.mp hne
  have hcoherent : (self.step (.takeHandle id type)).1.Coherent ↔ id ∉ self.receivers := by
    simp only [hstep, Coherent, Completed, AList.lookup_erase_ite, List.mem_iff_getElem?] at h ⊢
    grind
  -- with the right type there is no error, and with a wrong one the handle is gone
  have hrestrained : self.Restrained (.takeHandle id type) ↔ stored = type := by
    have herase : ({ self with ffiHandles := self.ffiHandles.erase id } : FfiServer) ≠ self := by
      intro heq
      have hlookup := congrArg (·.ffiHandles.lookup id) heq
      simp [hstored] at hlookup
    rw [Restrained, hstep]
    simp only [step, check, hid, hstored]
    grind
  rw [hcoherent, hrestrained]
  simp only [Fair, hstored]
  grind

lemma fair_iff (h : self.Coherent) (a : Action) :
    (self.step a).1.Coherent ∧ self.Restrained a ↔ self.Fair a := by
  cases a with
  | storeHandle id type =>
    have hstep : (self.step (.storeHandle id type)).1.Coherent ↔
        self.Fair (.storeHandle id type) := by
      simp only [Coherent, Completed, step, Fair, AList.lookup_insert_ite,
        List.mem_iff_getElem?] at h ⊢
      grind
    rw [hstep]
    exact and_iff_left (restrained_of_outputs_eq_nil rfl)
  | retrieveHandle id type => exact ⟨fun _ => trivial, fun _ => ⟨h, fun _ _ => rfl⟩⟩
  | takeHandle id type => exact fair_takeHandle_iff h id type
  | dropHandle id =>
    have hstep : (self.step (.dropHandle id)).1.Coherent := by
      simp only [Coherent, Completed, step, AList.lookup_erase_ite] at h ⊢
      grind
    exact ⟨fun _ => trivial, fun _ => ⟨hstep, by simp [Restrained, step]⟩⟩
  | watchHandleDropped id =>
    have hstep : (self.step (.watchHandleDropped id)).1.Coherent ↔
        self.Fair (.watchHandleDropped id) := by
      simp only [Coherent, Completed, step, Fair, AList.lookup_insert_ite] at h ⊢
      constructor
      · intro hall
        have hnew := hall self.receivers.length id (by simp)
        simpa using hnew
      · intro hid rx id' hrx
        grind
    rw [hstep]
    exact and_iff_left (restrained_of_outputs_eq_nil rfl)

/-- **The watchers.** In a run, every receiver is completed exactly while its handle is not in the
table, and every call that fails changes nothing, if and only if the run is fair. -/
theorem watched_iff (actions : List Action) :
    ((∀ pre, pre <+: actions → (state step {} pre).Coherent) ∧
        ∀ pre a post, actions = pre ++ a :: post → (state step {} pre).Restrained a) ↔
      Along step Fair {} actions := by
  have hinit : Coherent {} := nofun
  rw [along_iff_forall]
  exact reachable_iff (P := Coherent) (Q := Restrained) (fun _ a h => fair_iff h a) hinit actions

/-- The receiver is left waiting for a handle that was taken. -/
theorem taken_unnoticed : ¬ (state step {} [.storeHandle 1 "FfiTrack", .watchHandleDropped 1,
    .takeHandle 1 "FfiTrack"]).Coherent := by
  intro h
  have hgone := (h 0 1 rfl).mpr (by decide)
  exact hgone (by decide)

end FfiServer

end LiveKit.Ffi
