import Zpc.TransportService.Effects
import Mathlib.Data.List.Basic

/-!
# Completions of accepted datagrams

A request the service accepts is owed one call of its callback.  The debt is
carried by the busy flag of the wrapper and by the timer that resets the
service, which is armed as long as the callback is stored: only its expiration,
which forgets the transmission without calling back, can leave a debt behind.
-/

namespace TransportService

open Foundation

namespace Wrapper

/-- Nothing more will happen by itself: the service is idle, no timer is armed
and the lower layer has called back for every frame. -/
structure Rests (wrapper : Wrapper) : Prop where
  idle : wrapper.service.currentState = .idle
  timers : ∀ timer, isArmed wrapper.service timer = false
  calledBack : wrapper.service.sent.length ≤ wrapper.calledBack

/-- How often the callback of a request was called. -/
def completionsOf (service : Service) (number : Nat) : Nat :=
  service.completions.countP fun completion => completion.1 == number

/-- Every accepted request was completed once, but for the one the wrapper is
busy with, whose callback is stored. -/
structure Balanced (wrapper : Wrapper) : Prop where
  numbered : ∀ number ∈ wrapper.acceptedRequests, number < wrapper.requests
  called : ∀ completion ∈ wrapper.service.completions, completion.1 < wrapper.requests
  stored : ∀ number, wrapper.service.onSendCompleteCb = some number ->
    number < wrapper.requests ∧ completionsOf wrapper.service number = 0
  settled : ∀ number ∈ wrapper.acceptedRequests,
    completionsOf wrapper.service number = 1 ∨
      (wrapper.transportServiceBusy = true ∧ wrapper.service.onSendCompleteCb = some number)
  owing : wrapper.transportServiceBusy = true -> wrapper.service.onSendCompleteCb.isSome = true
  armed : wrapper.transportServiceBusy = true -> wrapper.service.scb.resetTimer.isSome = true

variable {number : Nat} {service next : Service} {wrapper : Wrapper}

theorem completionsOf_append {before after : Service} {status : Nat}
    (completions : after.completions = before.completions ++ [(number, status)]) (other : Nat) :
    completionsOf after other = completionsOf before other + if number = other then 1 else 0 := by
  unfold completionsOf
  rw [completions]
  simp [List.countP_cons]

theorem completionsOf_of_fresh
    (called : ∀ completion ∈ service.completions, completion.1 < number) :
    completionsOf service number = 0 := by
  unfold completionsOf
  rw [List.countP_eq_zero]
  intro completion mem same
  have less := called completion mem
  rw [beq_iff_eq] at same
  omega

theorem settle_busy (reports : wrapper.service.obligations.Reports next.obligations) :
    ((wrapper.settle next).transportServiceBusy = wrapper.transportServiceBusy ∧
      next.onSendCompleteCb = wrapper.service.onSendCompleteCb ∧
      next.completions = wrapper.service.completions) ∨
    ∃ number status,
      (wrapper.settle next).transportServiceBusy = false ∧
      wrapper.service.onSendCompleteCb = some number ∧
      next.onSendCompleteCb = none ∧
      next.completions = wrapper.service.completions ++ [(number, status)] := by
  cases reports with
  | nothing callback completions =>
    refine .inl ⟨?_, callback, completions⟩
    unfold settle
    rw [show next.completions = wrapper.service.completions from completions]
    simp
  | @once number status stored cleared completions =>
    refine .inr ⟨number, status, ?_, stored, cleared, completions⟩
    unfold settle
    rw [show next.completions = wrapper.service.completions ++ _ from completions]
    simp

theorem settle_of_not_busy (free : wrapper.transportServiceBusy = false) (next : Service) :
    (wrapper.settle next).transportServiceBusy = false := by
  unfold settle
  rw [free]
  dsimp only
  exact Bool.false_and _

theorem Balanced.settle (balanced : wrapper.Balanced)
    (reports : wrapper.service.obligations.Reports next.obligations)
    (resetTimer : wrapper.transportServiceBusy = true ->
      wrapper.service.scb.resetTimer.isSome = true -> next.scb.resetTimer.isSome = true) :
    (wrapper.settle next).Balanced := by
  rcases settle_busy reports with ⟨busy, callback, completions⟩ |
    ⟨number, status, busy, stored, cleared, completions⟩
  · have sameCount (other : Nat) :
        completionsOf next other = completionsOf wrapper.service other := by
      unfold completionsOf
      rw [completions]
    constructor
    · exact balanced.numbered
    · intro completion mem
      rw [show (wrapper.settle next).service.completions = _ from completions] at mem
      exact balanced.called completion mem
    · intro other storedOther
      rw [show (wrapper.settle next).service.onSendCompleteCb = _ from callback] at storedOther
      rw [show completionsOf (wrapper.settle next).service other = _ from sameCount other]
      exact balanced.stored other storedOther
    · intro other accepted
      rw [busy, show (wrapper.settle next).service.onSendCompleteCb = _ from callback,
        show completionsOf (wrapper.settle next).service other = _ from sameCount other]
      exact balanced.settled other accepted
    · intro isBusy
      rw [busy] at isBusy
      rw [show (wrapper.settle next).service.onSendCompleteCb = _ from callback]
      exact balanced.owing isBusy
    · intro isBusy
      rw [busy] at isBusy
      exact resetTimer isBusy (balanced.armed isBusy)
  · have count := completionsOf_append completions
    constructor
    · exact balanced.numbered
    · intro completion mem
      rw [show (wrapper.settle next).service.completions = _ from completions] at mem
      rcases List.mem_append.mp mem with old | new
      · exact balanced.called completion old
      · rw [List.mem_singleton.mp new]
        exact (balanced.stored number stored).1
    · intro other storedOther
      rw [show (wrapper.settle next).service.onSendCompleteCb = _ from cleared] at storedOther
      cases storedOther
    · intro other accepted
      refine .inl ?_
      rw [show completionsOf (wrapper.settle next).service other = _ from count other]
      by_cases same : number = other
      · subst same
        rw [(balanced.stored number stored).2, if_pos rfl]
      · rw [if_neg same]
        rcases balanced.settled other accepted with once | ⟨_, storedOther⟩
        · exact once
        · rw [stored] at storedOther
          exact absurd (Option.some.inj storedOther) same
    all_goals
      intro isBusy
      rw [busy] at isBusy
      cases isBusy

theorem Balanced.proceeds (balanced : wrapper.Balanced) (proceeds : wrapper.service.Proceeds next) :
    (wrapper.settle next).Balanced :=
  balanced.settle proceeds.reports fun _ => proceeds.resetTimer

theorem sendLastFrag_silent (firstTime : service.scb.flagFcTimerExpiredOnce = 0) (accepted : Bool) :
    (service.sendLastFrag accepted).onSendCompleteCb = service.onSendCompleteCb ∧
      (service.sendLastFrag accepted).completions = service.completions := by
  unfold Service.sendLastFrag
  extract_lets _ _ _ started frame offered
  have same : offered.onSendCompleteCb = service.onSendCompleteCb ∧
      offered.completions = service.completions ∧
      offered.scb.flagFcTimerExpiredOnce = 0 := by
    dsimp only [offered, Service.lowerLayerSendData]
    split <;> exact ⟨rfl, rfl, firstTime⟩
  split
  · exact ⟨same.1, same.2.1⟩
  · rw [if_neg (by omega)]
    exact ⟨same.1, same.2.1⟩

theorem postEvent_silent (service : Service) (event : Event) :
    (service.postEvent event).onSendCompleteCb = service.onSendCompleteCb ∧
      (service.postEvent event).completions = service.completions := by
  unfold Service.postEvent
  split <;> exact ⟨rfl, rfl⟩

theorem sendFirstFrag_silent (firstTime : service.scb.flagFcTimerExpiredOnce = 0) (now : Nat)
    (accepted : Bool) :
    (service.sendFirstFrag now accepted).onSendCompleteCb = service.onSendCompleteCb ∧
      (service.sendFirstFrag now accepted).completions = service.completions := by
  unfold Service.sendFirstFrag
  extract_lets sessionId fitsInOne remaining length _ _ started built _ armed offered
  split
  · generalize marked :
      ({ built with scb := { built.scb with doesNotFitInFirstFrag := false } } : Service) = single
    have stillFirst : (single.postEvent .sendLastFrag).scb.flagFcTimerExpiredOnce = 0 := by
      rw [Service.scb_postEvent, ← marked]
      exact firstTime
    have posted := postEvent_silent single .sendLastFrag
    have sent := sendLastFrag_silent stillFirst accepted
    rw [sent.1, sent.2, posted.1, posted.2, ← marked]
    exact ⟨rfl, rfl⟩
  · have same : offered.onSendCompleteCb = service.onSendCompleteCb ∧
        offered.completions = service.completions := by
      dsimp only [offered, Service.lowerLayerSendData]
      split <;> exact ⟨rfl, rfl⟩
    split <;> exact same

/-- The callback of a request is stored, whatever the service answers, and the
timer that resets the service is armed when it accepts. -/
structure StoresRequest
    (service : Service)
    (number : Nat)
    (answer : SendDataReturnCode × Service) : Prop where
  stored : answer.2.onSendCompleteCb = some number
  completions : answer.2.completions = service.completions
  armed : answer.1 = .sendSuccess -> answer.2.scb.resetTimer.isSome = true

theorem takeRequest_stores (service : Service) (payload : List UInt8) (maxFrameLen number : Nat) :
    (service.takeRequest payload maxFrameLen (some number)).onSendCompleteCb = some number ∧
      (service.takeRequest payload maxFrameLen (some number)).completions =
        service.completions := by
  unfold Service.takeRequest Service.armResetTimer
  split <;> exact ⟨by dsimp only, by dsimp only⟩

theorem transportServiceSendData_stores (service : Service) (source dest : Nat)
    (payload : List UInt8) (maxFrameLen number now : Nat) (accepted : Bool) :
    StoresRequest service number
      (service.transportServiceSendData source dest payload maxFrameLen (some number) now
        accepted) := by
  unfold Service.transportServiceSendData
  extract_lets taken begun
  have stored := takeRequest_stores service payload maxFrameLen number
  split
  · exact ⟨stored.1, stored.2, nofun⟩
  next fits =>
    split
    · exact ⟨stored.1, stored.2, nofun⟩
    split
    · exact ⟨stored.1, stored.2, nofun⟩
    have armed : begun.scb.resetTimer.isSome = true := by
      have arms : taken.scb.resetTimer = some resetTime := by
        dsimp only [taken]
        unfold Service.takeRequest
        rw [if_neg fits]
        rfl
      exact congrArg Option.isSome arms
    have starts (event : Event) :
        ((begun.postEvent event).sendFirstFrag now accepted).onSendCompleteCb = some number ∧
        ((begun.postEvent event).sendFirstFrag now accepted).completions = service.completions ∧
        ((begun.postEvent event).sendFirstFrag now accepted).scb.resetTimer.isSome = true := by
      have posted := postEvent_silent begun event
      have firstTime : (begun.postEvent event).scb.flagFcTimerExpiredOnce = 0 := by
        rw [Service.scb_postEvent]
        rfl
      have silent := sendFirstFrag_silent firstTime now accepted
      obtain ⟨started, obligations, _, _, _, sends⟩ :=
        (begun.postEvent event).sendFirstFrag_keeps now accepted
      refine ⟨silent.1.trans (posted.1.trans stored.1),
        silent.2.trans (posted.2.trans stored.2), sends.proceeds.resetTimer ?_⟩
      rw [obligations]
      show (begun.postEvent event).scb.resetTimer.isSome = true
      rw [Service.scb_postEvent]
      exact armed
    split
    · exact ⟨(starts .startSend).1, (starts .startSend).2.1, fun _ => (starts .startSend).2.2⟩
    · exact ⟨(starts .sendNewFrag).1, (starts .sendNewFrag).2.1, fun _ => (starts .sendNewFrag).2.2⟩
    · exact ⟨stored.1, stored.2, nofun⟩

theorem Balanced.request (balanced : wrapper.Balanced) (free : wrapper.transportServiceBusy = false)
    (isAccepted : Bool) {after : Wrapper}
    (stored : after.service.onSendCompleteCb = some wrapper.requests)
    (completions : after.service.completions = wrapper.service.completions)
    (armed : isAccepted = true -> after.service.scb.resetTimer.isSome = true)
    (isBusy : after.transportServiceBusy = isAccepted)
    (requests : after.requests = wrapper.requests + 1)
    (accepted : after.acceptedRequests =
      wrapper.acceptedRequests ++ if isAccepted then [wrapper.requests] else []) :
    after.Balanced := by
  have sameCount (other : Nat) :
      completionsOf after.service other = completionsOf wrapper.service other := by
    unfold completionsOf
    rw [completions]
  have earlier {number : Nat} (mem : number ∈ wrapper.acceptedRequests) :
      completionsOf wrapper.service number = 1 := by
    rcases balanced.settled number mem with once | ⟨owes, _⟩
    · exact once
    · rw [free] at owes
      cases owes
  constructor
  · intro number mem
    rw [accepted] at mem
    rw [requests]
    rcases List.mem_append.mp mem with old | new
    · exact Nat.lt_succ_of_lt (balanced.numbered number old)
    · split at new
      · rw [List.mem_singleton.mp new]
        exact Nat.lt_succ_self _
      · cases new
  · intro completion mem
    rw [completions] at mem
    rw [requests]
    exact Nat.lt_succ_of_lt (balanced.called completion mem)
  · intro number storedNumber
    rw [stored] at storedNumber
    cases storedNumber
    rw [requests, sameCount]
    exact ⟨Nat.lt_succ_self _, completionsOf_of_fresh balanced.called⟩
  · intro number mem
    rw [accepted] at mem
    rw [sameCount, isBusy, stored]
    rcases List.mem_append.mp mem with old | new
    · exact .inl (earlier old)
    · split at new
      next owes =>
        rw [List.mem_singleton.mp new]
        exact .inr ⟨owes, rfl⟩
      next => cases new
  · intro _
    rw [stored]
    rfl
  · intro owes
    rw [isBusy] at owes
    exact armed owes

theorem Balanced.sendData (balanced : wrapper.Balanced) (env : Surroundings)
    (request : SendRequest) (now : Nat) (accepted : Bool) :
    (wrapper.zwaveTransportServiceSendData env request now accepted).2.Balanced := by
  unfold zwaveTransportServiceSendData
  extract_lets number taken answer settled
  split
  · exact balanced
  split
  · exact balanced
  next notBusy =>
    rw [Bool.not_eq_true] at notBusy
    have stores : StoresRequest wrapper.service number answer :=
      transportServiceSendData_stores _ _ _ _ _ _ _ _
    have refused : settled.Balanced :=
      balanced.request notBusy false stores.stored stores.completions nofun
        (settle_of_not_busy notBusy answer.2) rfl (List.append_nil _).symm
    split
    next isSuccess =>
      exact balanced.request notBusy true stores.stored stores.completions
        (fun _ => stores.armed isSuccess) rfl rfl rfl
    next => exact refused
    next => exact refused

/-- The service is not reset while the wrapper waits for a completion. -/
def ResetsWhenSettled (wrapper : Wrapper) : Action -> Prop
  | .timerExpiration .reset _ _ _ => wrapper.transportServiceBusy = false
  | _ => True

theorem Balanced.timerExpired (balanced : wrapper.Balanced) {timer : Timer} {now : Nat}
    {accepted retried : Bool}
    (settled : wrapper.ResetsWhenSettled (.timerExpiration timer now accepted retried)) :
    (wrapper.timerExpired timer now accepted retried).Balanced := by
  cases timer with
  | reset =>
    refine balanced.settle (.nothing rfl rfl) fun owes => ?_
    rw [show wrapper.transportServiceBusy = false from settled] at owes
    cases owes
  | waitRestart =>
    unfold Wrapper.timerExpired
    extract_lets _ _ stopped
    obtain ⟨begun, obligations, _, _, _, sends⟩ := stopped.sendFirstFrag_keeps now accepted
    have reports := sends.proceeds.reports
    have resetTimer := sends.proceeds.resetTimer
    rw [obligations] at reports resetTimer
    have settles := balanced.settle (reports.of_same rfl rfl) fun _ => resetTimer
    exact ⟨settles.numbered, settles.called, settles.stored, settles.settled,
      settles.owing, settles.armed⟩
  | btwn2Frags =>
    refine balanced.proceeds (Service.Proceeds.after
      (Service.sendSubseqFrag_keeps _ accepted).proceeds ?_)
    exact .of_eq rfl
  | fc =>
    refine balanced.proceeds (Service.Proceeds.after
      (Service.fcTimerExpired_keeps _ accepted).proceeds ?_)
    exact .of_eq rfl
  | rx => exact balanced.proceeds (Service.rxTimerExpired_proceeds _ accepted retried)

/-- Steps that reset when settled balance requests and callbacks. -/
theorem Balanced.step (balanced : wrapper.Balanced) {action : Action}
    (settled : wrapper.ResetsWhenSettled action) : (wrapper.step action).Balanced := by
  cases action with
  | sendData env request now accepted => exact balanced.sendData env request now accepted
  | lowerLayerCompletion status now accepted =>
    unfold Wrapper.step
    dsimp only
    split
    · have counted : ({ wrapper with
          calledBack := wrapper.calledBack + 1 } : Wrapper).Balanced :=
        ⟨balanced.numbered, balanced.called, balanced.stored, balanced.settled,
          balanced.owing, balanced.armed⟩
      unfold onZwaveTxSendDataComplete
      extract_lets outcome
      split
      · exact counted
      · exact counted.proceeds (Service.transportServiceSenddataCb_keeps _ now accepted).proceeds
      · exact counted.proceeds (Service.tempCallbackLastFrag_keeps _ outcome accepted).proceeds
      · exact counted.proceeds (Service.tempCallbackReplyFragReq_keeps _ outcome).proceeds
    · exact balanced
  | frameReceived source dest rxType frame now accepted retried =>
    unfold Wrapper.step zwaveTransportServiceOnFrameReceived
    dsimp only
    split
    · exact balanced
    split
    · exact balanced
    · exact balanced.proceeds (Service.transportServiceCommandHandler_proceeds _ _ _ _ _ _ _ _ _)
  | timerExpiration timer now accepted retried =>
    unfold Wrapper.step
    dsimp only
    split
    · exact balanced.timerExpired settled
    · exact balanced

theorem initial_balanced : initial.Balanced := ⟨nofun, nofun, nofun, nofun, nofun, nofun⟩

/-- In a run whose resets find the wrapper settled, every accepted request is
completed at most once, and exactly once when the service rests, with the
wrapper not busy any more. -/
theorem accepted_requests_are_completed (actions : List Action)
    (meets : StepsMeet step ResetsWhenSettled initial actions) {done : List Action}
    (before : done <+: actions) :
    (∀ number ∈ (run step initial done).acceptedRequests,
      completionsOf (run step initial done).service number ≤ 1) ∧
    ((run step initial done).Rests ->
      (run step initial done).transportServiceBusy = false ∧
      ∀ number ∈ (run step initial done).acceptedRequests,
        completionsOf (run step initial done).service number = 1) := by
  have balanced : (run step initial done).Balanced :=
    (meets.of_isPrefix before).invariant Balanced
      (fun _ _ balanced settled => balanced.step settled) initial_balanced
  generalize run step initial done = wrapper at balanced
  refine ⟨fun number accepted => ?_, fun rests => ?_⟩
  · rcases balanced.settled number accepted with once | ⟨_, stored⟩
    · exact Nat.le_of_eq once
    · rw [(balanced.stored number stored).2]
      exact Nat.zero_le 1
  · have free : wrapper.transportServiceBusy = false := by
      by_contra owes
      rw [Bool.not_eq_false] at owes
      have armed := balanced.armed owes
      rw [show wrapper.service.scb.resetTimer.isSome = false from rests.timers .reset] at armed
      cases armed
    refine ⟨free, fun number accepted => ?_⟩
    rcases balanced.settled number accepted with once | ⟨owes, _⟩
    · exact once
    · rw [free] at owes
      cases owes

/-- A hundred bytes towards a node. -/
def sampleRequest : SendRequest where
  localNodeId := 1
  remoteNodeId := 5
  isMulticast := false
  data := List.replicate 100 0x20
  onSendComplete := some 7
  parentSessionId := 3

/-- A node that supports the Transport Service. -/
def sampleSurroundings : Surroundings := ⟨60, true, 2⟩

/-- Two fragments are sent and completed, the datagram is acknowledged and the
timers expire. -/
def sampleCompletedRun : List Action :=
  [.sendData sampleSurroundings sampleRequest 40 true, .lowerLayerCompletion 0 50 true,
    .timerExpiration .btwn2Frags 60 true true, .lowerLayerCompletion 0 70 true,
    .frameReceived 5 1 .singlecast [0x55, 0xE8, 0x00] 80 true true,
    .timerExpiration .reset 90 true true]

theorem accepted_requests_are_completed_sample :
    StepsMeet step ResetsWhenSettled initial sampleCompletedRun ∧
      (run step initial sampleCompletedRun).Rests ∧
      (run step initial sampleCompletedRun).acceptedRequests = [0] ∧
      (run step initial sampleCompletedRun).transportServiceBusy = false ∧
      ∀ number ∈ (run step initial sampleCompletedRun).acceptedRequests,
        completionsOf (run step initial sampleCompletedRun).service number = 1 := by
  have settled : (run step initial (sampleCompletedRun.take 5)).transportServiceBusy = false := by
    decide +kernel
  have meets : StepsMeet step ResetsWhenSettled initial sampleCompletedRun :=
    ⟨trivial, trivial, trivial, trivial, trivial, settled, trivial⟩
  have rests : (run step initial sampleCompletedRun).Rests :=
    ⟨by decide +kernel, fun timer => by cases timer <;> decide +kernel, by decide +kernel⟩
  exact ⟨meets, rests, by decide +kernel,
    (accepted_requests_are_completed _ meets (List.prefix_refl _)).2 rests⟩

/-- The lower layer refuses the First Fragment, and the service is reset. -/
def forgottenRequestRun : List Action :=
  [.sendData sampleSurroundings sampleRequest 40 false, .timerExpiration .reset 5040 true true]

/-- The accepted request is never completed and the wrapper stays busy. -/
theorem forgotten_request :
    (run step initial forgottenRequestRun).Rests ∧
      (run step initial forgottenRequestRun).acceptedRequests = [0] ∧
      completionsOf (run step initial forgottenRequestRun).service 0 = 0 ∧
      (run step initial forgottenRequestRun).transportServiceBusy = true := by
  refine ⟨⟨by decide +kernel, fun timer => ?_, by decide +kernel⟩, by decide +kernel,
    by decide +kernel, by decide +kernel⟩
  cases timer <;> decide +kernel

end Wrapper

end TransportService
