import LiveKitRust.Room.Updates

/-!
# The state of the connection

Events of the engine take the room from `Connected` to `Reconnecting` and back, or to `Disconnected`
for good. After a restart a task publishes the local tracks again, and at its end the room is
connected. That task is not looked after. It says that the room is reconnected whatever has happened
meanwhile, and so does the handler of `Resumed`.

`step_shift` reads off what a step does to the connection. If the engine's events come in order
(`Orderly`), the state is as the events say, a task that is still there will find the room
reconnecting, and so `Disconnected` is final and each `Reconnected` answers one `Reconnecting`
(`connection_wellBehaved`).
-/

open Machine List

namespace LiveKit.Room

open RtcEngine (DisconnectReason)

def Output.isConnection : Output → Bool
  | .event .reconnecting => true
  | .event .reconnected => true
  | .event (.disconnected _) => true
  | _ => false

lemma isConnection_of_about {ev ref} (h : ev.about = some ref) :
    (Output.event ev).isConnection = false := by
  cases ev <;> first | rfl | cases h

/-- Whether the room has told that it reconnects, and not how that has ended. -/
def unanswered (log : List Output) : Bool :=
  log.foldl (fun waiting output =>
    match output with
    | .event .reconnecting => true
    | .event .reconnected => false
    | .event (.disconnected _) => false
    | _ => waiting) false

lemma unanswered_append_filter (log outputs) :
    unanswered (log ++ outputs) = unanswered (log ++ outputs.filter Output.isConnection) := by
  unfold unanswered
  rw [foldl_append, foldl_append]
  generalize foldl _ false log = waiting
  induction outputs generalizing waiting with
  | nil => rfl
  | cons output _ ih =>
    cases h : output.isConnection with
    | true =>
      rw [filter_cons_of_pos h, foldl_cons, foldl_cons]
      exact ih _
    | false =>
      rw [filter_cons_of_neg (by simp [h]), foldl_cons]
      refine Eq.trans ?_ (ih waiting)
      cases output with
      | event event => cases event <;> first | rfl | cases h
      | _ => rfl

namespace RoomSession

variable {s : RoomSession} {ord : Orders}

/-! ### What a step does to the connection -/

lemma filter_events {evs : List RoomEvent}
    (h : ∀ ev ∈ evs, (Output.event ev).isConnection = false) :
    (evs.map Output.event).filter Output.isConnection = [] := by
  rw [filter_eq_nil_iff]
  intro _ hm
  obtain ⟨ev, hev, rfl⟩ := mem_map.mp hm
  simp [h ev hev]

lemma filter_handleParticipantUpdate (us) :
    ((s.handleParticipantUpdate ord us).2.map Output.event).filter Output.isConnection = [] := by
  refine filter_events fun ev hm => ?_
  rcases about_handleParticipantUpdate ev hm with ⟨_, habout⟩ | ⟨_, rfl⟩
  · exact isConnection_of_about habout
  · rfl

lemma filter_disconnectAll :
    ((s.disconnectAll ord).2.map Output.event).filter Output.isConnection = [] :=
  filter_events fun ev hm =>
    (about_disconnectAll ev hm).elim fun _ habout => isConnection_of_about habout

lemma filter_updateLocal (info) :
    ((s.updateLocal info).2.map Output.event).filter Output.isConnection = [] :=
  filter_events fun ev hm =>
    isConnection_of_about (s.localParticipant.tells_changes info ev hm).1

variable (state : ConnectionState) {i : Input}

lemma filter_updateConnectionState :
    ((s.updateConnectionState state).2.map Output.event).filter Output.isConnection = [] := by
  unfold updateConnectionState
  split <;> rfl

lemma filter_transition (ev) (h : (Output.event ev).isConnection = true) :
    ((s.transition state ev).2.map Output.event).filter Output.isConnection =
      if s.state = state then [] else [.event ev] := by
  unfold transition
  rw [map_append, filter_append, filter_updateConnectionState, nil_append]
  split
  · rfl
  · exact filter_cons_of_pos h

/-- How the state of the connection changes, with the tasks that are left of restarts and what
is told. -/
inductive Shift (room : RoomSession) : Input → ConnectionState → ℕ → List Output → Prop
  | still {input state tasks told} (h_state : state = room.state)
      (h_tasks : tasks = room.restartTasks) (h_told : told = []) : Shift room input state tasks told
  | reconnecting {input tasks told} (h_runs : room.roomTask = true)
      (h_input : input = .resuming ∨ ∃ orders, input = .restarting orders)
      (h_tasks : tasks = room.restartTasks)
      (h_told : told = if room.state = .reconnecting then [] else [.event .reconnecting]) :
      Shift room input .reconnecting tasks told
  | resumed (h_runs : room.roomTask = true) :
      Shift room .resumed .connected room.restartTasks [.event .reconnected]
  | restarted (h_runs : room.roomTask = true) :
      Shift room .restarted room.state (room.restartTasks + 1) []
  | restartTask (h_tasks : room.restartTasks ≠ 0) :
      Shift room .restartTask .connected (room.restartTasks - 1) [.event .reconnected]
  | disconnected (reason : DisconnectReason) {told} (h_runs : room.roomTask = true)
      (h_told : told = if room.state = .disconnected then [] else [.event (.disconnected reason)]) :
      Shift room (.disconnected reason) .disconnected room.restartTasks told

lemma Shift.length_told {state tasks told} (h : Shift s i state tasks told) : told.length ≤ 1 := by
  cases h with
  | still _ _ htold => simp [htold]
  | reconnecting _ _ _ htold | disconnected _ _ htold =>
    rw [htold]
    split <;> simp
  | _ => simp

lemma Shift.of_frame {after : RoomSession} {outputs : List Output}
    (h : Frame s after) (hquiet : outputs.filter Output.isConnection = []) :
    Shift s i after.state after.restartTasks (outputs.filter Output.isConnection) :=
  .still h.state h.restartTasks hquiet

lemma Shift.updated {room : RoomSession} {told told' : List Output}
    (h : Shift s i state room.restartTasks told') (htold : told = told') :
    Shift s i (room.updateConnectionState state).1.state
      (room.updateConnectionState state).1.restartTasks told := by
  rw [updateConnectionState_fst, htold]
  exact h

lemma filter_reconnected :
    (((s.updateConnectionState .connected).2 ++ [RoomEvent.reconnected]).map Output.event).filter
      Output.isConnection = [.event .reconnected] := by
  rw [map_append, filter_append, filter_updateConnectionState]
  rfl

lemma onEngineEvent_shift (h : s.roomTask = true) (i) :
    Shift s i (s.onEngineEvent i).1.state (s.onEngineEvent i).1.restartTasks
      ((s.onEngineEvent i).2.filter Output.isConnection) := by
  cases i with
  | participantUpdate ord us =>
    exact .of_frame (.handleParticipantUpdate s ord us) (filter_handleParticipantUpdate us)
  | roomMoved ord part others | signalRestarted ord part others =>
    cases part with
    | none =>
      have hf := Frame.handleParticipantUpdate s ord others
      refine .still hf.state hf.restartTasks ?_
      simp only [onEngineEvent, dispatch, map_append, filter_append, filter_handleParticipantUpdate]
      rfl
    | some info =>
      have hf := (Frame.updateLocal s info).trans (.handleParticipantUpdate _ ord others)
      refine .still hf.state hf.restartTasks ?_
      simp only [onEngineEvent, dispatch, map_append, filter_append,
        filter_handleParticipantUpdate, filter_updateLocal]
      rfl
  | restarting ord =>
    have hf := Frame.disconnectAll s ord
    have htold : ((s.onEngineEvent (.restarting ord)).2.filter Output.isConnection) =
        if s.state = .reconnecting then [] else [.event .reconnecting] := by
      simp only [onEngineEvent, map_append, filter_append, filter_disconnectAll,
        filter_transition .reconnecting .reconnecting rfl, hf.state,
        filter_cons_of_neg (p := Output.isConnection) (a := .restarting) Bool.false_ne_true]
      rfl
    exact .updated _ (.reconnecting h (.inr ⟨ord, rfl⟩) hf.restartTasks rfl) htold
  | resuming => exact .updated _ (.reconnecting h (.inl rfl) rfl rfl) (filter_transition _ _ rfl)
  | resumed => exact .updated _ (.resumed h) filter_reconnected
  | restarted => exact .restarted h
  | disconnected reason => exact .updated _ (.disconnected reason h rfl) (filter_transition _ _ rfl)
  | mediaTrack ord sid tr =>
    cases he : s.getParticipantBySid ord sid with
    | some entry =>
      simp only [onEngineEvent, he]
      exact .still rfl rfl (filter_events fun ev hm =>
        isConnection_of_about (entry.2.tells_addSubscribedMediaTrack tr ev hm).1)
    | none =>
      simp only [onEngineEvent, he]
      exact .still rfl rfl rfl
  | _ => exact .still rfl rfl rfl

lemma setSubscribed_shift (s ident tr subd) :
    Shift s (.setSubscribed ident tr subd) (s.setSubscribed ident tr subd).1.state
      (s.setSubscribed ident tr subd).1.restartTasks
      ((s.setSubscribed ident tr subd).2.filter Output.isConnection) := by
  cases hp : s.remoteParticipants.lookup ident with
  | none =>
    simp only [setSubscribed, hp]
    exact .still rfl rfl rfl
  | some p =>
    simp only [setSubscribed, hp, filter_append]
    refine .still rfl rfl ?_
    rw [filter_events fun ev hm =>
      isConnection_of_about (p.tells_setSubscribed tr subd ev hm).1]
    cases p.publications.lookup tr <;> rfl

lemma step_shift (s i) :
    Shift s i (s.step i).1.state (s.step i).1.restartTasks
      ((s.step i).2.filter Output.isConnection) := by
  have hmv := s.step_move i
  generalize s.step i = res at hmv
  cases hmv with
  | idle | close | closed => exact .still rfl rfl rfl
  | engine _ hruns => exact onEngineEvent_shift hruns i
  | syncTask _ _ descriptions =>
    refine .still rfl rfl ?_
    cases descriptions <;> rfl
  | restartTask hspawned => exact .updated _ (.restartTask hspawned) filter_reconnected
  | setSubscribed ident tr subd =>
    exact s.setSubscribed_shift ident tr subd

/-! ### Events in order -/

/-- While the room's task runs, a reconnection comes to its end only where there is one, and no task
is left of it; nothing is started after the end, and the end comes when no task is left. -/
def Orderly (room : RoomSession) (input : Input) : Prop :=
  room.roomTask = true → match input with
    | .resuming | .restarting _ => room.state ≠ .disconnected
    | .resumed | .restarted => room.state = .reconnecting ∧ room.restartTasks = 0
    | .disconnected _ => room.restartTasks = 0
    | _ => True

instance (room : RoomSession) (input : Input) : Decidable (Orderly room input) := by
  unfold Orderly
  split <;> infer_instance

/-- A task that is left of a restart is the only one, and will find the room reconnecting. -/
def TaskInTime (room : RoomSession) : Prop :=
  room.restartTasks ≠ 0 → room.restartTasks = 1 ∧ room.state = .reconnecting

section Step

variable {i : Input} (h_task : TaskInTime s) (hord : Orderly s i)

include h_task hord

lemma TaskInTime.step : TaskInTime (s.step i).1 := by
  have hshift := s.step_shift i
  unfold TaskInTime
  generalize (s.step i).1.state = state, (s.step i).1.restartTasks = tasks,
    (s.step i).2.filter Output.isConnection = told at hshift ⊢
  cases hshift with
  | still hst htasks =>
    rw [hst, htasks]
    exact h_task
  | reconnecting _ _ htasks =>
    rw [htasks]
    exact fun hleft => ⟨(h_task hleft).1, rfl⟩
  | resumed hruns => exact fun hleft => absurd (hord hruns).2 hleft
  | restarted hruns =>
    intro _
    exact ⟨by rw [(hord hruns).2], (hord hruns).1⟩
  | restartTask htasks =>
    rw [(h_task htasks).1]
    exact fun hleft => absurd rfl hleft
  | disconnected _ hruns => exact fun hleft => absurd (hord hruns) hleft

lemma reconnecting_of_reconnected (hm : .event .reconnected ∈ (s.step i).2) :
    s.state = .reconnecting := by
  have htold : Output.event .reconnected ∈ (s.step i).2.filter Output.isConnection :=
    mem_filter.mpr ⟨hm, rfl⟩
  have hshift := s.step_shift i
  generalize (s.step i).1.state = state, (s.step i).1.restartTasks = tasks,
    (s.step i).2.filter Output.isConnection = told at hshift htold
  cases hshift with
  | still _ _ hquiet => cases hquiet ▸ htold
  | reconnecting _ _ _ heq | disconnected _ _ heq =>
    rw [heq] at htold
    split at htold
    · cases htold
    · cases mem_singleton.mp htold
  | resumed hruns => exact (hord hruns).1
  | restarted => cases htold
  | restartTask htasks => exact (h_task htasks).2

lemma disconnected_step (hdisc : s.state = .disconnected) : (s.step i).1.state = .disconnected := by
  have hshift := s.step_shift i
  generalize (s.step i).1.state = state, (s.step i).1.restartTasks = tasks,
    (s.step i).2.filter Output.isConnection = told at hshift ⊢
  have hnot : s.state ≠ .reconnecting := by
    rw [hdisc]
    exact nofun
  cases hshift with
  | still hst => exact hst.trans hdisc
  | reconnecting hruns hinput =>
    -- nothing is started after the end
    rcases hinput with rfl | ⟨_, rfl⟩
    all_goals exact absurd hdisc (hord hruns)
  | resumed hruns => exact absurd (hord hruns).1 hnot
  | restarted => exact hdisc
  | restartTask htasks => exact absurd (h_task htasks).2 hnot
  | disconnected => rfl

omit h_task hord in
lemma unanswered_step {log} (hlog : unanswered log = decide (s.state = .reconnecting)) :
    unanswered (log ++ (s.step i).2) = decide ((s.step i).1.state = .reconnecting) := by
  have hshift := s.step_shift i
  rw [unanswered_append_filter]
  generalize (s.step i).1.state = state, (s.step i).1.restartTasks = tasks,
    (s.step i).2.filter Output.isConnection = told at hshift ⊢
  cases hshift with
  | still hst _ hquiet => rw [hquiet, append_nil, hst, hlog]
  | reconnecting _ _ _ heq | disconnected _ _ heq =>
    rw [heq]
    split
    · next hst => rw [append_nil, hlog, hst]
    · exact foldl_concat ..
  | resumed | restartTask => exact foldl_concat ..
  | restarted => rw [append_nil, hlog]

end Step

/-! ### Runs -/

section Run

variable {inputs : List Input} (hord : Along step Orderly s inputs)

include hord

section

variable (h_task : TaskInTime s)
include h_task

lemma taskInTime_state : TaskInTime (Machine.state step s inputs) :=
  hord.state_of_step h_task fun _ _ h_task hord => h_task.step hord

lemma disconnected_state (hdisc : s.state = .disconnected) :
    (Machine.state step s inputs).state = .disconnected := by
  refine (hord.state_of_step
    (P := fun room : RoomSession => TaskInTime room ∧ room.state = .disconnected)
    ⟨h_task, hdisc⟩ ?_).2
  rintro _ _ ⟨h_task, hdisc⟩ hord
  exact ⟨h_task.step hord, disconnected_step h_task hord hdisc⟩

lemma not_reconnected_of_disconnected (hdisc : s.state = .disconnected) :
    .event .reconnected ∉ outputs step s inputs := by
  intro hm
  obtain ⟨_, _, _, rfl, hemit⟩ := mem_outputs.mp hm
  have hpre := hord.append_left
  have hrec :=
    reconnecting_of_reconnected (taskInTime_state hpre h_task) hord.append_right.1 hemit
  rw [disconnected_state hpre h_task hdisc] at hrec
  cases hrec

lemma unanswered_of_reconnected (hst : s.state = .connected) {before after}
    (hlog : outputs step s inputs = before ++ .event .reconnected :: after) :
    unanswered before = true := by
  obtain ⟨pre, i, _, emitted, _, rfl, hemit, rfl⟩ := outputs_eq_append_cons hlog
  -- the room was reconnecting before the step, and that had been told
  have hrec : (Machine.state step s pre).state = .reconnecting :=
    reconnecting_of_reconnected (taskInTime_state hord.append_left h_task)
      hord.append_right.1 (hemit ▸ mem_append_right _ (.head _))
  have hunanswered : unanswered (outputs step s pre) =
      decide ((Machine.state step s pre).state = .reconnecting) := by
    refine run_induction (P := fun (log : List Output) (room : RoomSession) =>
      unanswered log = decide (room.state = .reconnecting))
      (show unanswered [] = decide (s.state = .reconnecting) from ?_)
      (fun _ _ _ => unanswered_step) pre
    rw [hst]
    rfl
  -- and the step has told nothing else of the connection
  have hquiet : emitted.filter Output.isConnection = [] := by
    have hlen := ((Machine.state step s pre).step_shift i).length_told
    rw [hemit, filter_append, filter_cons_of_pos rfl, length_append, length_cons] at hlen
    exact eq_nil_of_length_eq_zero (by omega)
  rw [unanswered_append_filter, hquiet, append_nil, hunanswered, hrec]
  rfl

end

end Run

lemma connect_restartTasks (ord auto lp others) : (connect ord auto lp others).1.restartTasks = 0 :=
  foldlRecOn (motive := fun room : RoomSession => room.restartTasks = 0) others _ rfl
    fun _ h _ _ => h

/-- **The state of the connection.** If the engine's events come in order, `Disconnected` is
final, and the room is not said to be reconnected after it. That it is reconnected is said only
where its state was `Reconnecting`, and once for each time it was said to be reconnecting. -/
theorem connection_wellBehaved (orders : Orders) (autoSubscribe : Bool)
    (localParticipant : ParticipantInfo) (others : List ParticipantUpdate) (inputs : List Input)
    (h_orderly :
      Along step Orderly (connect orders autoSubscribe localParticipant others).1 inputs) :
    let room := (connect orders autoSubscribe localParticipant others).1
    (∀ before after, inputs = before ++ after →
        (Machine.state step room before).state = .disconnected →
          (Machine.state step room inputs).state = .disconnected ∧
            .event .reconnected ∉ outputs step (Machine.state step room before) after) ∧
      (∀ before input after, inputs = before ++ input :: after →
        .event .reconnected ∈ ((Machine.state step room before).step input).2 →
          (Machine.state step room before).state = .reconnecting) ∧
      ∀ before after, outputs step room inputs = before ++ .event .reconnected :: after →
        unanswered before = true := by
  intro room
  have h_task : TaskInTime room := fun hleft => absurd (connect_restartTasks ..) hleft
  refine ⟨?_, ?_, ?_⟩
  · rintro _ _ rfl hdisc
    have hbef := taskInTime_state h_orderly.append_left h_task
    rw [state_append]
    exact ⟨disconnected_state h_orderly.append_right hbef hdisc,
      not_reconnected_of_disconnected h_orderly.append_right hbef hdisc⟩
  · rintro _ _ _ rfl hm
    exact reconnecting_of_reconnected (taskInTime_state h_orderly.append_left h_task)
      h_orderly.append_right.1 hm
  · intro _ _ hlog
    exact unanswered_of_reconnected h_orderly h_task rfl hlog

def alone : RoomSession :=
  (connect .asListed true ⟨"PA_local", "local", "", .active, "", ∅, .unknownReason, none⟩ []).1

def reconnections : List Input :=
  [.resuming, .signalResumed, .syncTask .asListed false true, .resumed, .restarting .asListed,
    .signalRestarted .asListed none [], .restarted, .restartTask, .close,
    .disconnected .clientInitiated, .closed]

theorem connection_wellBehaved_reconnections : Along step Orderly alone reconnections ∧
      (Machine.state step alone reconnections).state = .disconnected ∧
      ∀ before after, outputs step alone reconnections = before ++ .event .reconnected :: after →
        unanswered before = true := by
  have hord : Along step Orderly alone reconnections := by decide +kernel
  have hwellBehaved := connection_wellBehaved .asListed true _ [] reconnections hord
  exact ⟨hord, by decide +kernel, hwellBehaved.2.2⟩

/-- The room is disconnected while the local tracks are published again after a restart. When
that is done the room is connected. -/
theorem reconnected_after_disconnected :
    (Machine.state step alone [.restarting .asListed, .restarted,
        .disconnected .serverShutdown]).state = .disconnected ∧
      (Machine.state step alone [.restarting .asListed, .restarted,
        .disconnected .serverShutdown, .restartTask]).state = .connected ∧
      .event .reconnected ∈ outputs step (Machine.state step alone
        [.restarting .asListed, .restarted, .disconnected .serverShutdown]) [.restartTask] := by
  decide +kernel

end RoomSession

end LiveKit.Room
