import LiveKitRust.Base.Machine
import LiveKitRust.Base.Maps

/-!
# Whether a participant is encrypted (`room/participant/mod.rs`)

A participant counts as encrypted if it has publications, all of them are encrypted, and no data of
it have come unencrypted. `is_encrypted` is a copy of this, which `update_encryption_status` brings
up to date, telling the room of a change, when a publication is added or removed and when the status
of the data changes.

There are two ways for this to go wrong, and no others (`isEncrypted_truthful_iff`):

* `update_encryption_status` is not called when a publication is updated. An update may give a known
  track another encryption type, and then the copy is out of date (`encrypted_out_of_date`);
* the room is told by a handler, which `create_participant` sets for the remote participants. The
  local one has none, and its changes are not told.

What matters of a publication here is its encryption type, so the map has just that. `update_info`
of a remote participant updates the publications it knows, and adds and removes the others; these
calls are the steps here, so that a message may come between them.
-/

open Machine

namespace LiveKit.Room

/-- How the frames of a track are encrypted, as the server announces it. -/
inductive EncryptionType where
  | none
  | gcm
  | custom
  deriving DecidableEq

/-- What a participant, local or remote, knows of its encryption. -/
structure ParticipantInner where
  trackPublications : Map String EncryptionType
  /-- The copy of the status that the application reads. -/
  isEncrypted : Bool
  /-- Not known before the first message. -/
  isDataEncrypted : Option Bool
  /-- Whether this handler is set, as it is for remote participants only. -/
  encryptionStatusChanged : Bool

namespace ParticipantInner

/-- A participant before its first publication. -/
def new (encryptionStatusChanged : Bool) : ParticipantInner :=
  ⟨∅, false, none, encryptionStatusChanged⟩

variable (self : ParticipantInner)

/-- What `update_encryption_status` computes from the publications and the data. -/
def status : Bool :=
  let tracksEncrypted := !self.trackPublications.entries.isEmpty &&
    self.trackPublications.entries.all fun entry => entry.2 ≠ .none
  match self.isDataEncrypted with
  | some dataEncrypted => tracksEncrypted && dataEncrypted
  | none => tracksEncrypted

/-- Bring the copy up to date. The events are the calls of the handler. -/
def updateEncryptionStatus : ParticipantInner × List Bool :=
  if self.isEncrypted ≠ self.status then
    ({ self with isEncrypted := self.status },
      if self.encryptionStatusChanged then [self.status] else [])
  else (self, [])

/-- A message has come. Once there was one that was not encrypted, this is not forgotten. -/
def updateDataEncryptionStatus (isEncrypted : Bool) : ParticipantInner × List Bool :=
  match self.isDataEncrypted with
  | some current =>
    if current = isEncrypted then (self, [])
    else if current = true then
      updateEncryptionStatus { self with isDataEncrypted := some false }
    else (self, [])
  | none => updateEncryptionStatus { self with isDataEncrypted := some isEncrypted }

/-- A publication is removed, and the status brought up to date. -/
def removePublication (sid : String) : ParticipantInner × List Bool :=
  updateEncryptionStatus { self with trackPublications := self.trackPublications.erase sid }

/-- A publication is added, or takes the place of the one with its SID. -/
def addPublication (sid : String) (encryption : EncryptionType) : ParticipantInner × List Bool :=
  updateEncryptionStatus
    { self with trackPublications := self.trackPublications.insert sid encryption }

/-- `update_info` of a publication, if there is one. The participant is not told of it. -/
def updatePublication (sid : String) (encryption : EncryptionType) : ParticipantInner :=
  { self with trackPublications := self.trackPublications.replace sid encryption }

/-! ### Steps -/

/-- The calls that change the publications, and a message that has come. -/
inductive Input where
  | addPublication (sid : String) (encryption : EncryptionType)
  | removePublication (sid : String)
  | updatePublication (sid : String) (encryption : EncryptionType)
  | data (isEncrypted : Bool)

/-- One call, with the statuses that the handler is called with. -/
def step : Input → ParticipantInner × List Bool
  | .addPublication sid encryption => self.addPublication sid encryption
  | .removePublication sid => self.removePublication sid
  | .updatePublication sid encryption => (self.updatePublication sid encryption, [])
  | .data isEncrypted => self.updateDataEncryptionStatus isEncrypted

/-! ### What is told is true -/

/-- The participant has publications, all of them encrypted, and no data are known to have
come unencrypted. -/
def Encrypted : Prop :=
  (∃ sid encryption, self.trackPublications.lookup sid = some encryption) ∧
    (∀ sid encryption, self.trackPublications.lookup sid = some encryption → encryption ≠ .none) ∧
    self.isDataEncrypted ≠ some false

/-- The copy is up to date. -/
def Truthful : Prop := self.isEncrypted = true ↔ self.Encrypted

variable (sid : String) {enc : EncryptionType} {self : ParticipantInner}

lemma mem_entries_iff {sid} :
    ⟨sid, enc⟩ ∈ self.trackPublications.entries ↔ self.trackPublications.lookup sid = some enc :=
  AList.mem_lookup_iff.symm

lemma isEmpty_entries_eq_false : self.trackPublications.entries.isEmpty = false ↔
      ∃ sid enc, self.trackPublications.lookup sid = some enc := by
  rw [List.isEmpty_eq_false_iff_exists_mem]
  constructor
  · rintro ⟨⟨sid, enc⟩, hm⟩
    exact ⟨sid, enc, mem_entries_iff.mp hm⟩
  · rintro ⟨_, _, hl⟩
    exact ⟨_, mem_entries_iff.mpr hl⟩

lemma all_entries_iff : (self.trackPublications.entries.all fun entry => entry.2 ≠ .none) = true ↔
      ∀ sid enc, self.trackPublications.lookup sid = some enc → enc ≠ .none := by
  rw [List.all_eq_true]
  constructor
  · intro hall _ _ hl
    exact of_decide_eq_true (hall _ (mem_entries_iff.mpr hl))
  · rintro hall ⟨sid, enc⟩ hm
    exact decide_eq_true (hall sid enc (mem_entries_iff.mp hm))

lemma status_iff : self.status = true ↔ self.Encrypted := by
  have htrs : (!self.trackPublications.entries.isEmpty &&
      self.trackPublications.entries.all fun entry => entry.2 ≠ .none) = true ↔
      (∃ sid enc, self.trackPublications.lookup sid = some enc) ∧
        ∀ sid enc, self.trackPublications.lookup sid = some enc → enc ≠ .none := by
    rw [Bool.and_eq_true, Bool.not_eq_true', isEmpty_entries_eq_false, all_entries_iff]
  unfold status Encrypted
  rw [← and_assoc, ← htrs]
  cases self.isDataEncrypted with
  | none => simp
  | some dataEncrypted => cases dataEncrypted <;> simp

lemma truthful_iff : self.Truthful ↔ self.isEncrypted = self.status :=
  (iff_congr Iff.rfl status_iff.symm).trans Bool.eq_iff_iff.symm

lemma truthful_new (handler : Bool) : (new handler).Truthful := truthful_iff.mpr rfl

@[simp] lemma status_updateEncryptionStatus :
    self.updateEncryptionStatus.1.status = self.status := by
  unfold updateEncryptionStatus
  split <;> rfl

lemma truthful_updateEncryptionStatus : self.updateEncryptionStatus.1.Truthful := by
  rw [truthful_iff, status_updateEncryptionStatus]
  unfold updateEncryptionStatus
  split
  · rfl
  next h => exact not_not.mp h

lemma truthful_updateDataEncryptionStatus (h : self.Truthful) (isEncrypted : Bool) :
    (self.updateDataEncryptionStatus isEncrypted).1.Truthful := by
  unfold updateDataEncryptionStatus
  split
  · split
    · exact h
    · split
      · exact truthful_updateEncryptionStatus
      · exact h
  · exact truthful_updateEncryptionStatus

/-! ### Updates of publications -/

/-- Apart from the track `sid`, nothing speaks against the participant being encrypted. -/
def OthersEncrypted (self : ParticipantInner) (sid : String) : Prop :=
  (∀ other, other ≠ sid → self.trackPublications.lookup other ≠ some .none) ∧
    self.isDataEncrypted ≠ some false

lemma encrypted_iff_of_lookup {sid} (h : self.trackPublications.lookup sid = some enc) :
    self.Encrypted ↔ enc ≠ .none ∧ self.OthersEncrypted sid := by
  constructor
  · rintro ⟨-, hall, hdata⟩
    exact ⟨hall sid enc h, fun other _ hot => hall other _ hot rfl, hdata⟩
  · rintro ⟨hthis, hothers, hdata⟩
    refine ⟨⟨sid, enc, h⟩, ?_, hdata⟩
    rintro other _ hot rfl
    by_cases heq : other = sid
    · subst heq
      exact hthis (Option.mem_unique h hot)
    · exact hothers other heq hot

/-- An update of a publication leaves the status as it is: there is no such publication, it
stays encrypted or unencrypted, or the participant is not encrypted for another reason. -/
def KeepsStatus (self : ParticipantInner) : Input → Prop
  | .updatePublication sid encryption =>
    ∀ current, self.trackPublications.lookup sid = some current →
      (encryption = .none ↔ current = .none) ∨ ¬ self.OthersEncrypted sid
  | _ => True

lemma othersEncrypted_updatePublication (enc) :
    (self.updatePublication sid enc).OthersEncrypted sid ↔ self.OthersEncrypted sid := by
  refine and_congr (forall_congr' fun other => imp_congr_right fun hot => ?_) Iff.rfl
  show (self.trackPublications.replace sid enc).lookup other ≠ _ ↔ _
  rw [AList.lookup_replace_ite, if_neg fun h => hot h.1]

lemma status_updatePublication_iff (enc) :
    (self.updatePublication sid enc).status = self.status ↔
      self.KeepsStatus (.updatePublication sid enc) := by
  rw [Bool.eq_iff_iff, status_iff, status_iff]
  cases h : self.trackPublications.lookup sid with
  | none =>
    -- there is nothing to update
    have hl (other : String) : (self.updatePublication sid enc).trackPublications.lookup other =
          self.trackPublications.lookup other :=
      (AList.lookup_replace_ite ..).trans (if_neg fun hm => AList.lookup_eq_none.mp h hm.2)
    refine iff_of_true ?_ fun current hcur => ?_
    · unfold Encrypted
      simp only [hl]
      rfl
    · cases h.symm.trans hcur
  | some current =>
    have hupdated : (self.updatePublication sid enc).trackPublications.lookup sid = some enc :=
      (AList.lookup_replace_ite ..).trans (if_pos ⟨rfl, AList.lookup_isSome.mp (by rw [h]; rfl)⟩)
    rw [encrypted_iff_of_lookup h, encrypted_iff_of_lookup hupdated,
      othersEncrypted_updatePublication]
    constructor
    · intro hsm _ hcurrent'
      cases h.symm.trans hcurrent'
      by_cases hothers : self.OthersEncrypted sid
      · exact .inl (not_iff_not.mp (by simpa [hothers] using hsm))
      · exact .inr hothers
    · intro hkp
      rcases hkp current h with hn | hothers
      · rw [Ne, hn]
      · exact iff_of_false (fun h => hothers h.2) fun h => hothers h.2

lemma truthful_step_iff (h : self.Truthful) (input : Input) :
    (self.step input).1.Truthful ↔ self.KeepsStatus input := by
  cases input with
  | addPublication | removePublication => exact iff_of_true truthful_updateEncryptionStatus trivial
  | data isEncrypted =>
    exact iff_of_true (truthful_updateDataEncryptionStatus h isEncrypted) trivial
  | updatePublication sid enc =>
    -- the copy stays as it was, and it was right
    have hcopy : (self.updatePublication sid enc).isEncrypted = self.status :=
      truthful_iff.mp h
    show (self.updatePublication sid enc).Truthful ↔ _
    rw [truthful_iff, hcopy, ← status_updatePublication_iff]
    exact eq_comm

/-- The room is told of the new status if it has changed, and of nothing otherwise. -/
def Tells (self : ParticipantInner) (input : Input) : Prop :=
  (self.step input).2 = if (self.step input).1.isEncrypted = self.isEncrypted then []
    else [(self.step input).1.isEncrypted]

/-- There is a handler, or nothing for it: what the status should be is as it was. -/
def Heard (self : ParticipantInner) (input : Input) : Prop :=
  self.encryptionStatusChanged = true ∨ ((self.step input).1.Encrypted ↔ self.Encrypted)

/-- What is said of a call with this result if the handler is called as it should be. -/
def Calls (self : ParticipantInner) (result : ParticipantInner × List Bool) : Prop :=
  result.2 = if self.encryptionStatusChanged = true ∧ result.1.isEncrypted ≠ self.isEncrypted then
    [result.1.isEncrypted] else []

lemma calls_self : self.Calls (self, []) := by simp [Calls]

lemma calls_updateEncryptionStatus : self.Calls self.updateEncryptionStatus := by
  unfold Calls updateEncryptionStatus
  by_cases h : self.isEncrypted = self.status
  · simp [h]
  · simp [h, Ne.symm h]

lemma calls_step (s : ParticipantInner) (input : Input) : s.Calls (s.step input) := by
  cases input with
  | addPublication | removePublication => exact calls_updateEncryptionStatus
  | updatePublication => simp [Calls, step, updatePublication]
  | data isEncrypted =>
    rw [step, updateDataEncryptionStatus]
    split
    · split
      · exact calls_self
      · split
        · exact calls_updateEncryptionStatus
        · exact calls_self
    · exact calls_updateEncryptionStatus

lemma tells_iff (s : ParticipantInner) (input : Input) :
    s.Tells input ↔ s.encryptionStatusChanged = true ∨
      (s.step input).1.isEncrypted = s.isEncrypted := by
  rw [Tells, s.calls_step input]
  by_cases h : (s.step input).1.isEncrypted = s.isEncrypted <;> simp [h]

lemma truthful_and_tells_iff (h : self.Truthful) (input : Input) :
    (self.step input).1.Truthful ∧ self.Tells input ↔
      self.KeepsStatus input ∧ self.Heard input := by
  rw [← truthful_step_iff h, and_congr_right_iff]
  intro h'
  rw [tells_iff, Heard, truthful_iff.mp h, truthful_iff.mp h', ← status_iff, ← status_iff,
    ← Bool.eq_iff_iff]

/-- **The status is truthful.** For every run of a participant, `is_encrypted` is right in all its
states, and the room is told of it exactly where it changes, if and only if no update of a
publication changes what the status should be, and nothing changes it where no handler is set. -/
theorem isEncrypted_truthful_iff (handler : Bool) (inputs : List Input) :
    ((∀ before, before <+: inputs → (state step (new handler) before).Truthful) ∧
        ∀ before input after, inputs = before ++ input :: after →
          (state step (new handler) before).Tells input) ↔
      ∀ before input after, inputs = before ++ input :: after →
        (state step (new handler) before).KeepsStatus input ∧
          (state step (new handler) before).Heard input :=
  reachable_iff (P := Truthful) (Q := Tells) (C := fun self input =>
    self.KeepsStatus input ∧ self.Heard input) (fun _ input h => truthful_and_tells_iff h input)
    (truthful_new handler) inputs

/-- A track of a participant is published encrypted, and then no longer is. -/
def downgraded : List Input :=
  [.addPublication "TR_1" .gcm, .updatePublication "TR_1" .none]

/-- A remote participant still counts as encrypted. Of a local one, the room was not even told
that it was. -/
theorem encrypted_out_of_date :
    outputs step (new true) downgraded = [true] ∧
      (state step (new true) downgraded).isEncrypted = true ∧
      (state step (new true) downgraded).trackPublications.lookup "TR_1" = some .none ∧
      ¬ (state step (new true) downgraded).Truthful ∧ outputs step (new false) downgraded = [] := by
  have hstatus : (state step (new true) downgraded).isEncrypted ≠
      (state step (new true) downgraded).status := by
    decide +kernel
  exact ⟨by decide +kernel, by decide +kernel, by decide +kernel,
    fun h => hstatus (truthful_iff.mp h), by decide +kernel⟩

end ParticipantInner

end LiveKit.Room
