import Zpc.TransportService.Effects
import Mathlib.Data.List.Chain

/-!
# Session ids

`send_first_frag` counts the session id up unless it is zero, and zero is the
value it has before the first transmission: every transmission of every run
carries session id zero.  The ids of a run tell its transmissions apart exactly
when there is at most one, and a restart after a Segment Wait is always taken
for the transmission that was aborted.
-/

namespace TransportService

open Foundation

namespace Wrapper

/-- Number of entries of `frag_compl_list`. -/
def fragComplListSize : Nat := 15

/-- Transmissions that follow each other have different session ids, every id is
an index of `frag_compl_list`, and no restart carries the id that is marked as
aborted. -/
structure TellsApart (transmissions : List Transmission) : Prop where
  differ : transmissions.IsChain fun earlier later => earlier.sessionId ≠ later.sessionId
  bounded : ∀ transmission ∈ transmissions, transmission.sessionId < fragComplListSize
  restarts : ∀ transmission ∈ transmissions, transmission.isRestart = true ->
    transmission.transmissionAborted ≠ transmission.sessionId

/-- The wrapper hands a request to the service, and the service accepts it. -/
structure AcceptsRequest
    (wrapper : Wrapper)
    (env : Surroundings)
    (request : SendRequest) : Prop where
  supported : isNotSupported env request = false
  free : wrapper.transportServiceBusy = false
  fits : request.data.length ≤ payloadSizeMax
  idle : wrapper.service.currentState = .idle

/-- A step starts a transmission only if it is the first one, and not after a
Segment Wait. -/
def StartsOnce (wrapper : Wrapper) : Action -> Prop
  | .sendData env request _ _ => wrapper.AcceptsRequest env request -> wrapper.transmissions = []
  | .timerExpiration .waitRestart _ _ _ => isArmed wrapper.service .waitRestart = false
  | _ => True

/-- The session id is zero, that of every transmission was, and a restart that
is pending before any transmission follows an abort. -/
structure CountsFromZero (wrapper : Wrapper) : Prop where
  sessionId : wrapper.service.scb.cmn.sessionId = 0
  transmissions : ∀ transmission ∈ wrapper.transmissions, transmission.sessionId = 0
  pending : wrapper.service.scb.waitRestartTimer.isSome = true ->
    wrapper.service.scb.transmissionAborted = 0 ∨ wrapper.transmissions ≠ []

theorem tellsApart_append {transmissions : List Transmission}
    (zero : ∀ transmission ∈ transmissions, transmission.sessionId = 0) {next : Transmission}
    (nextZero : next.sessionId = 0) :
    TellsApart (transmissions ++ [next]) ↔
      transmissions = [] ∧ (next.isRestart = true -> next.transmissionAborted ≠ 0) := by
  constructor
  · intro apart
    refine ⟨?_, fun isRestart => ?_⟩
    · by_contra nonempty
      have last := List.getLast?_eq_some_getLast nonempty
      have differ := (List.isChain_append.mp apart.differ).2.2 _ last next rfl
      exact differ ((zero _ (List.getLast_mem nonempty)).trans nextZero.symm)
    · rw [← nextZero]
      exact apart.restarts next (by simp) isRestart
  · rintro ⟨rfl, restart⟩
    refine ⟨List.isChain_singleton _, fun transmission mem => ?_,
      fun transmission mem isRestart => ?_⟩
    · rw [List.mem_singleton.mp mem, nextZero]
      decide
    · rw [List.mem_singleton.mp mem] at isRestart ⊢
      rw [nextZero]
      exact restart isRestart

variable {wrapper : Wrapper} {service : Service} {payload : List UInt8}

theorem CountsFromZero.settle {next : Service} (zero : wrapper.CountsFromZero)
    (proceeds : wrapper.service.Proceeds next) : (wrapper.settle next).CountsFromZero where
  sessionId := proceeds.sessionId.trans zero.sessionId
  transmissions := zero.transmissions
  pending armed := by
    rcases proceeds.aborted with ⟨sameAborted, sameTimer⟩ | isAborted
    · have wasArmed : wrapper.service.scb.waitRestartTimer.isSome = true :=
        (congrArg Option.isSome sameTimer).symm.trans armed
      rcases zero.pending wasArmed with aborted | started
      · exact .inl (sameAborted.trans aborted)
      · exact .inr started
    · exact .inl (isAborted.trans (proceeds.sessionId.trans zero.sessionId))

theorem CountsFromZero.begins (zero : wrapper.CountsFromZero) {ready : Service}
    (sessionId : ready.scb.cmn.sessionId = 0) (now : Nat) (accepted isRestart : Bool)
    {base : Wrapper} (transmissions : base.transmissions = wrapper.transmissions) :
    ((base.settle (ready.sendFirstFrag now accepted)).recordTransmission
      isRestart).CountsFromZero := by
  obtain ⟨begun, obligations, _, _, _, sends⟩ := ready.sendFirstFrag_keeps now accepted
  have isZero : (ready.sendFirstFrag now accepted).scb.cmn.sessionId = 0 := by
    have same := sends.proceeds.sessionId
    rw [obligations] at same
    refine same.trans ?_
    rw [sessionId]
    rfl
  refine ⟨isZero, fun transmission mem => ?_, fun _ => .inr ?_⟩
  · rcases List.mem_append.mp mem with old | new
    · rw [show (base.settle _).transmissions = _ from transmissions] at old
      exact zero.transmissions transmission old
    · rw [List.mem_singleton.mp new]
      exact isZero
  · exact List.append_ne_nil_of_right_ne_nil _ (List.cons_ne_nil _ _)

/-- The session id and what a restart depends on are the same. -/
structure SameMarks (before after : Service) : Prop where
  sessionId : after.scb.cmn.sessionId = before.scb.cmn.sessionId
  transmissionAborted : after.scb.transmissionAborted = before.scb.transmissionAborted
  waitRestartTimer : after.scb.waitRestartTimer = before.scb.waitRestartTimer

theorem takeRequest_sameMarks (service : Service) (payload : List UInt8)
    (maxFrameLen number : Nat) :
    SameMarks service (service.takeRequest payload maxFrameLen (some number)) ∧
      (service.takeRequest payload maxFrameLen (some number)).currentState =
        service.currentState := by
  unfold Service.takeRequest Service.armResetTimer
  split <;> exact ⟨⟨by dsimp only, by dsimp only, by dsimp only⟩, by dsimp only⟩

theorem transportServiceSendData_begins (fits : payload.length ≤ payloadSizeMax)
    (idle : service.currentState = .idle) (source dest maxFrameLen number now : Nat)
    (accepted : Bool) :
    ∃ ready : Service,
      ready.scb.cmn.sessionId = service.scb.cmn.sessionId ∧
      service.transportServiceSendData source dest payload maxFrameLen (some number) now
        accepted = (.sendSuccess, ready.sendFirstFrag now accepted) := by
  unfold Service.transportServiceSendData
  extract_lets taken begun
  obtain ⟨marks, sameState⟩ := takeRequest_sameMarks service payload maxFrameLen number
  have isIdle : taken.currentState = .idle := sameState.trans idle
  have begunIdle : begun.currentState = .idle := isIdle
  refine ⟨begun.postEvent .startSend, ?_, ?_⟩
  · rw [Service.scb_postEvent]
    exact marks.sessionId
  · rw [if_neg (Nat.not_lt.mpr fits), isIdle, begunIdle]
    rfl

theorem transportServiceSendData_refuses
    (refused : ¬ (payload.length ≤ payloadSizeMax ∧ service.currentState = .idle))
    (source dest maxFrameLen number now : Nat) (accepted : Bool) :
    ∃ code next, code ≠ .sendSuccess ∧ SameMarks service next ∧
      service.transportServiceSendData source dest payload maxFrameLen (some number) now
        accepted = (code, next) := by
  unfold Service.transportServiceSendData
  extract_lets taken begun
  obtain ⟨marks, sameState⟩ := takeRequest_sameMarks service payload maxFrameLen number
  split
  · exact ⟨.willOverflow, taken, nofun, marks, rfl⟩
  split
  · exact ⟨.busy, taken, nofun, marks, rfl⟩
  split
  · exact ⟨.busy, taken, nofun, marks, rfl⟩
  next fits notSending notReceiving =>
    rw [show taken.currentState = service.currentState from sameState] at notSending notReceiving
    cases state : service.currentState <;>
      simp_all [State.isSending, State.isReceiving]

/-- An accepted request adds a transmission that is no restart, a refused one
adds nothing. -/
structure AddsTransmission (before after : Wrapper) (accepts : Prop) : Prop where
  zero : after.CountsFromZero
  adds : accepts -> ∃ next, next.isRestart = false ∧
    after.transmissions = before.transmissions ++ [next]
  keeps : ¬ accepts -> after.transmissions = before.transmissions

theorem CountsFromZero.sendData (zero : wrapper.CountsFromZero) (env : Surroundings)
    (request : SendRequest) (now : Nat) (accepted : Bool) :
    AddsTransmission wrapper
      (wrapper.zwaveTransportServiceSendData env request now accepted).2
      (wrapper.AcceptsRequest env request) := by
  unfold zwaveTransportServiceSendData
  split
  next notSupported =>
    refine ⟨zero, fun accepts => ?_, fun _ => rfl⟩
    rw [accepts.supported] at notSupported
    cases notSupported
  split
  next busy =>
    refine ⟨zero, fun accepts => ?_, fun _ => rfl⟩
    rw [accepts.free] at busy
    cases busy
  next supported free =>
    rw [Bool.not_eq_true] at supported free
    extract_lets number taken answer settled recorded
    by_cases begins : request.data.length ≤ payloadSizeMax ∧ wrapper.service.currentState = .idle
    · obtain ⟨ready, sessionId, isAnswer⟩ :=
        transportServiceSendData_begins begins.1 begins.2 request.localNodeId
          request.remoteNodeId env.maximumPayload number now accepted
      have isAnswer : answer = (.sendSuccess, ready.sendFirstFrag now accepted) := isAnswer
      have counts := @CountsFromZero.begins wrapper zero ready
        (sessionId.trans zero.sessionId) now accepted false taken rfl
      dsimp only [recorded, settled]
      rw [isAnswer]
      refine ⟨⟨counts.sessionId, counts.transmissions, counts.pending⟩,
        fun _ => ⟨_, rfl, rfl⟩, fun refuses => ?_⟩
      exact absurd ⟨supported, free, begins.1, begins.2⟩ refuses
    · obtain ⟨code, next, notSuccess, marks, isAnswer⟩ :=
        transportServiceSendData_refuses begins request.localNodeId
          request.remoteNodeId env.maximumPayload number now accepted
      have isAnswer : answer = (code, next) := isAnswer
      have refused : (taken.settle next).CountsFromZero := by
        refine ⟨marks.sessionId.trans zero.sessionId, zero.transmissions, fun armed => ?_⟩
        rw [show (taken.settle next).service.scb.transmissionAborted = _ from
          marks.transmissionAborted]
        exact zero.pending ((congrArg Option.isSome marks.waitRestartTimer).symm.trans armed)
      have notAccepted : ¬ wrapper.AcceptsRequest env request :=
        fun accepts => begins ⟨accepts.fits, accepts.idle⟩
      dsimp only [recorded, settled]
      rw [isAnswer]
      cases code with
      | sendSuccess => exact absurd rfl notSuccess
      | busy | willOverflow =>
        exact ⟨refused, fun accepts => absurd accepts notAccepted, fun _ => rfl⟩

theorem CountsFromZero.restart_aborted (zero : wrapper.CountsFromZero)
    (armed : wrapper.service.scb.waitRestartTimer.isSome = true)
    (first : wrapper.transmissions = []) {stopped : Service}
    (sessionId : stopped.scb.cmn.sessionId = 0)
    (aborted : stopped.scb.transmissionAborted = wrapper.service.scb.transmissionAborted)
    (now : Nat) (accepted : Bool) :
    (stopped.sendFirstFrag now accepted).scb.transmissionAborted = 0 := by
  have wasAborted : wrapper.service.scb.transmissionAborted = 0 := by
    rcases zero.pending armed with wasAborted | started
    · exact wasAborted
    · exact absurd first started
  obtain ⟨begun, obligations, _, _, _, sends⟩ := stopped.sendFirstFrag_keeps now accepted
  have proceeds := sends.proceeds
  unfold Service.Proceeds at proceeds
  rw [obligations] at proceeds
  rcases proceeds.aborted with ⟨same, _⟩ | isAborted
  · exact same.trans (aborted.trans wasAborted)
  · refine isAborted.trans (proceeds.sessionId.trans ?_)
    rw [sessionId]
    rfl

/-- The id stays zero, and tells transmissions apart exactly while one starts. -/
theorem CountsFromZero.step (zero : wrapper.CountsFromZero) (action : Action) :
    (wrapper.step action).CountsFromZero ∧
      (TellsApart wrapper.transmissions ->
        (TellsApart (wrapper.step action).transmissions ↔ wrapper.StartsOnce action)) := by
  cases action with
  | sendData env request now accepted =>
    have sends := zero.sendData env request now accepted
    refine ⟨sends.zero, fun apart => ?_⟩
    by_cases accepts : wrapper.AcceptsRequest env request
    · obtain ⟨next, notRestart, added⟩ := sends.adds accepts
      have nextZero : next.sessionId = 0 := sends.zero.transmissions next (by
        rw [added]
        simp)
      unfold Wrapper.step
      rw [added, tellsApart_append zero.transmissions nextZero]
      refine ⟨fun once _ => once.1, fun once => ⟨once accepts, fun isRestart => ?_⟩⟩
      rw [notRestart] at isRestart
      cases isRestart
    · unfold Wrapper.step
      dsimp only
      rw [sends.keeps accepts]
      exact ⟨fun _ accepts' => absurd accepts' accepts, fun _ => apart⟩
  | lowerLayerCompletion status now accepted =>
    unfold Wrapper.step
    dsimp only
    split
    · have counted : ({ wrapper with
          calledBack := wrapper.calledBack + 1 } : Wrapper).CountsFromZero :=
        ⟨zero.sessionId, zero.transmissions, zero.pending⟩
      unfold onZwaveTxSendDataComplete
      extract_lets outcome
      split
      · exact ⟨counted, iff_true_intro⟩
      · exact ⟨counted.settle
          (Service.transportServiceSenddataCb_keeps _ now accepted).proceeds,
          iff_true_intro⟩
      · exact ⟨counted.settle
          (Service.tempCallbackLastFrag_keeps _ outcome accepted).proceeds,
          iff_true_intro⟩
      · exact ⟨counted.settle
          (Service.tempCallbackReplyFragReq_keeps _ outcome).proceeds,
          iff_true_intro⟩
    · exact ⟨zero, iff_true_intro⟩
  | frameReceived source dest rxType frame now accepted retried =>
    unfold Wrapper.step zwaveTransportServiceOnFrameReceived
    dsimp only
    split
    · exact ⟨zero, iff_true_intro⟩
    split
    · exact ⟨zero, iff_true_intro⟩
    · exact ⟨zero.settle
        (Service.transportServiceCommandHandler_proceeds _ _ _ _ _ _ _ _ _),
        iff_true_intro⟩
  | timerExpiration timer now accepted retried =>
    unfold Wrapper.step
    dsimp only
    split
    next armed =>
      cases timer with
      | reset => exact ⟨⟨zero.sessionId, zero.transmissions, zero.pending⟩, iff_true_intro⟩
      | waitRestart =>
        unfold timerExpired
        extract_lets _ _ stopped
        have begins := @CountsFromZero.begins wrapper zero stopped zero.sessionId now
          accepted true wrapper rfl
        refine ⟨begins, fun _ => ⟨fun apartAfter => ?_, fun notArmed => ?_⟩⟩
        · obtain ⟨first, differs⟩ := (tellsApart_append zero.transmissions
            (begins.transmissions _ (List.mem_append_right _ List.mem_cons_self))).mp
            apartAfter
          have isAborted := @CountsFromZero.restart_aborted wrapper zero armed first stopped
            zero.sessionId rfl now accepted
          exact absurd isAborted (differs rfl)
        · rw [show isArmed wrapper.service .waitRestart = false from notArmed] at armed
          cases armed
      | btwn2Frags =>
        refine ⟨zero.settle (Service.Proceeds.after
          (Service.sendSubseqFrag_keeps _ accepted).proceeds ?_), iff_true_intro⟩
        exact .of_eq rfl
      | fc =>
        refine ⟨zero.settle (Service.Proceeds.after
          (Service.fcTimerExpired_keeps _ accepted).proceeds ?_), iff_true_intro⟩
        exact .of_eq rfl
      | rx =>
        exact ⟨zero.settle (Service.rxTimerExpired_proceeds _ accepted retried), iff_true_intro⟩
    next notArmed =>
      refine ⟨zero, fun apart => ⟨fun _ => ?_, fun _ => apart⟩⟩
      rw [Bool.not_eq_true] at notArmed
      cases timer with
      | waitRestart => exact notArmed
      | _ => trivial

theorem initial_countsFromZero : initial.CountsFromZero := ⟨rfl, nofun, nofun⟩

/-- The session ids of a run tell its transmissions apart, are indices of
`frag_compl_list` and are never taken for aborted ones at a restart exactly when
the run starts at most one transmission, and none after a Segment Wait. -/
theorem sessionIds_tell_apart_iff (actions : List Action) :
    (∀ done, done <+: actions -> TellsApart (run step initial done).transmissions) ↔
      StepsMeet step StartsOnce initial actions := by
  have preservedIff (wrapper : Wrapper) (action : Action)
      (both : TellsApart wrapper.transmissions ∧ wrapper.CountsFromZero) :
      TellsApart (wrapper.step action).transmissions ∧ (wrapper.step action).CountsFromZero ↔
        wrapper.StartsOnce action := by
    have steps := both.2.step action
    rw [and_iff_left steps.1]
    exact steps.2 both.1
  have nothingYet : TellsApart initial.transmissions :=
    ⟨List.isChain_nil, fun _ => nofun, fun _ => nofun⟩
  have throughout := throughout_iff_stepsMeet
    (fun wrapper : Wrapper => TellsApart wrapper.transmissions ∧ wrapper.CountsFromZero)
    preservedIff ⟨nothingYet, initial_countsFromZero⟩ actions
  rw [← throughout]
  constructor
  · intro apart done before
    exact ⟨apart done before, run_invariant CountsFromZero
      (fun wrapper action zero => (zero.step action).1) initial_countsFromZero done⟩
  · intro both done before
    exact (both done before).1

/-- A Segment Wait stops the transmission of a datagram, which is then
restarted. -/
def restartRun : List Action :=
  [.sendData ⟨60, true, 2⟩ ⟨1, 5, false, List.replicate 100 0x20, some 7, 3⟩ 40 true,
    .frameReceived 5 1 .singlecast [0x55, 0xF0, 0x00] 50 true true,
    .timerExpiration .waitRestart 150 true true]

/-- Both transmissions carry session id zero, and the second one is taken for
the aborted first one. -/
theorem restart_is_taken_for_aborted :
    (run step initial restartRun).transmissions = [⟨0, 0x11, false⟩, ⟨0, 0, true⟩] ∧
      ¬ TellsApart (run step initial restartRun).transmissions := by
  have transmissions : (run step initial restartRun).transmissions =
      [⟨0, 0x11, false⟩, ⟨0, 0, true⟩] := by
    decide +kernel
  refine ⟨transmissions, fun apart => ?_⟩
  rw [transmissions] at apart
  exact apart.restarts ⟨0, 0, true⟩ (by simp) rfl rfl

end Wrapper

end TransportService
