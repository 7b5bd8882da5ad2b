import Mathlib.Data.List.Perm.Basic
import Zpc.AttributeTimeouts.Timeouts

/-!
# What the watch timer owes the pending timeouts

A pending timeout is called back by the handler of the watch timer only, so the timer has
to be armed for the earliest timeout of the list.  The restart of the timer looks at the
timestamps that are still to come: a timeout that has fallen due, and that the handler has
not reached yet, is passed over.  That does no harm when the timer is due already and
stays so, or while the handler is running, which looks again before it returns.
-/

namespace AttributeTimeouts

open Foundation

namespace Timeouts

/-- The timer is armed and is due at once, or not later than every pending timeout. -/
def TimerInTime (timeouts : Timeouts) : Prop :=
  ∃ due, timeouts.watchTimer = some due ∧
    (due ≤ timeouts.clockTime ∨ ∀ entry ∈ timeouts.attributeTimeouts, due ≤ entry.2.timestamp)

/-- The numbers of the requests that are pending, were called back, or were taken out. -/
def settlements (timeouts : Timeouts) : List Nat :=
  timeouts.attributeTimeouts.map (·.2.number) ++
    (timeouts.invocations.map (·.number) ++ timeouts.dismissals.map (·.number))

/-- Once its time has come, the timer expires and the handler, left alone, calls the
callback of a timeout. -/
def LeadsToInvocation (timeouts : Timeouts) (entry : Entry) : Prop :=
  ∀ elapsed, entry.2.timestamp ≤ timeouts.clockTime + elapsed ->
    ∃ rounds, ∃ invocation ∈
        (run step timeouts
          (.clockTick elapsed :: .timerExpires ::
            List.replicate rounds (.handlerRound 0))).invocations,
      invocation.number = entry.2.number

/-- What the component promises in a state: at most one timeout is pending for a node and a
callback, every accepted request is pending, was called back, or was taken out, and that
once, no callback comes before its deadline, and outside the handler the timer is armed in
time for the pending timeouts, so that each of them is called back. -/
structure Promised (timeouts : Timeouts) : Prop where
  onePending :
    (timeouts.attributeTimeouts.map fun entry => (entry.1, entry.2.callbackFunction)).Nodup
  settledOnce : timeouts.settlements.Perm (List.range timeouts.accepted.length)
  notEarly : ∀ invocation ∈ timeouts.invocations,
    ∃ request ∈ timeouts.accepted,
      request.number = invocation.number ∧ request.node = invocation.node ∧
        request.callbackFunction = invocation.callbackFunction ∧
        request.deadline ≤ invocation.time
  inTime : timeouts.isHandling = false -> timeouts.attributeTimeouts ≠ [] -> timeouts.TimerInTime
  called : timeouts.isHandling = false -> ∀ entry ∈ timeouts.attributeTimeouts,
    timeouts.LeadsToInvocation entry

/-- The timeouts that the restart of the timer in an action goes through, when the action
restarts it and the handler does not look at the list afterwards, and the time at which it
does so. -/
def restartedFor (timeouts : Timeouts) : Action -> Option (List Entry × Nat)
  | .setCallback node duration (some function) elapsed =>
      if node = attributeStoreInvalidNode ∨ duration = 0 ∨ timeouts.isHandling = true then none
      else
        some
          (insertInOrder
            (node, ⟨timeouts.clockTime + duration, function, timeouts.accepted.length⟩)
            (timeouts.attributeTimeouts.eraseP (isFor node function)),
            timeouts.clockTime + elapsed)
  | .nodeDeleted node =>
      if timeouts.contains node = true ∧ timeouts.isHandling = false then
        some (timeouts.attributeTimeouts.filter fun entry => !(entry.1 == node), timeouts.clockTime)
      else none
  | .handlerRound elapsed =>
      if timeouts.isHandling = true ∧
          timeouts.attributeTimeouts.find? (isDue timeouts.clockTime) = none then
        some (timeouts.attributeTimeouts, timeouts.clockTime + elapsed)
      else none
  | _ => none

/-- When the timer is restarted, no pending timeout has fallen due, or all of them have and
the timer itself is due. -/
def PassesOverNone (timeouts : Timeouts) (action : Action) : Prop :=
  ∀ entries now, timeouts.restartedFor action = some (entries, now) ->
    (∀ entry ∈ entries, now < entry.2.timestamp) ∨
      ((∀ entry ∈ entries, entry.2.timestamp ≤ now) ∧
        ∃ due, timeouts.watchTimer = some due ∧ due ≤ now)

variable {entries : List Entry} {entry : Entry} {timeouts other : Timeouts} {action : Action}

theorem perm_cons_eraseP {test : Entry -> Bool} (found : entries.find? test = some entry) :
    entries.Perm (entry :: entries.eraseP test) := by
  induction entries with
  | nil => cases found
  | cons head tail ih =>
    rw [List.find?_cons] at found
    rw [List.eraseP_cons]
    cases passes : test head with
    | true =>
      rw [passes] at found
      obtain rfl := Option.some.inj found
      exact .refl _
    | false =>
      rw [passes] at found
      exact ((ih found).cons head).trans (.swap entry head _)

theorem isFor_of_find? {node : Node} {callbackFunction : CallbackFunction}
    (found : entries.find? (isFor node callbackFunction) = some entry) :
    entry.1 = node ∧ entry.2.callbackFunction = callbackFunction := by
  have passes := List.find?_some found
  simpa [isFor] using passes

theorem foldl_nextTimeout (now next : Nat) (entries : List Entry) (later : next = 0 ∨ now < next) :
    let last := entries.foldl
      (fun next entry =>
        if now < entry.2.timestamp ∧ (next = 0 ∨ entry.2.timestamp < next) then
          entry.2.timestamp
        else next)
      next
    (last = 0 ∨ now < last) ∧ (last = 0 -> next = 0) ∧ (0 < next -> last ≤ next) ∧
      (last = next ∨ ∃ entry ∈ entries, entry.2.timestamp = last) ∧
      ∀ entry ∈ entries, now < entry.2.timestamp -> 0 < last ∧ last ≤ entry.2.timestamp := by
  induction entries generalizing next with
  | nil => simp [later]
  | cons head tail ih =>
    dsimp only [List.foldl_cons]
    split
    next earlier =>
      obtain ⟨isLater, kept, bound, origin, earliest⟩ := ih head.2.timestamp (.inr earlier.1)
      refine ⟨isLater, by omega, by omega, .inr ?_, ?_⟩
      · rcases origin with same | ⟨entry, mem, same⟩
        · exact ⟨head, List.mem_cons_self, same.symm⟩
        · exact ⟨entry, List.mem_cons_of_mem head mem, same⟩
      · clear origin
        intro entry mem future
        rcases List.mem_cons.mp mem with isHead | isTail
        · subst isHead
          omega
        · exact earliest entry isTail future
    next notEarlier =>
      obtain ⟨isLater, kept, bound, origin, earliest⟩ := ih next later
      refine ⟨isLater, kept, bound, ?_, ?_⟩
      · rcases origin with same | ⟨entry, mem, same⟩
        · exact .inl same
        · exact .inr ⟨entry, List.mem_cons_of_mem head mem, same⟩
      · clear origin
        intro entry mem future
        rcases List.mem_cons.mp mem with isHead | isTail
        · subst isHead
          omega
        · exact earliest entry isTail future

theorem restartWatchTimer_cases (timeouts : Timeouts) :
    ((∀ entry ∈ timeouts.attributeTimeouts, entry.2.timestamp ≤ timeouts.clockTime) ∧
        timeouts.restartWatchTimer = timeouts) ∨
      ∃ entry ∈ timeouts.attributeTimeouts,
        timeouts.clockTime < entry.2.timestamp ∧
          (∀ other ∈ timeouts.attributeTimeouts,
            timeouts.clockTime < other.2.timestamp -> entry.2.timestamp ≤ other.2.timestamp) ∧
          timeouts.restartWatchTimer = { timeouts with watchTimer := some entry.2.timestamp } := by
  obtain ⟨isLater, -, -, origin, earliest⟩ :=
    foldl_nextTimeout timeouts.clockTime 0 timeouts.attributeTimeouts (.inl rfl)
  unfold restartWatchTimer nextTimeout
  dsimp only
  split
  next nothing =>
    refine .inl ⟨?_, rfl⟩
    intro entry mem
    by_contra future
    have := (earliest entry mem (by omega)).1
    omega
  next something =>
    rcases origin with none | ⟨entry, mem, same⟩
    · exact absurd none something
    · rw [← same] at isLater earliest something ⊢
      have future : timeouts.clockTime < entry.2.timestamp := by omega
      refine .inr ⟨entry, mem, future, fun other isOther laterThan =>
        (earliest other isOther laterThan).2, ?_⟩
      rw [Nat.add_sub_cancel' (Nat.le_of_lt future)]

theorem timerInTime_restartWatchTimer_iff (pending : timeouts.attributeTimeouts ≠ []) :
    timeouts.restartWatchTimer.TimerInTime ↔
      (∀ entry ∈ timeouts.attributeTimeouts, timeouts.clockTime < entry.2.timestamp) ∨
        ((∀ entry ∈ timeouts.attributeTimeouts, entry.2.timestamp ≤ timeouts.clockTime) ∧
          ∃ due, timeouts.watchTimer = some due ∧ due ≤ timeouts.clockTime) := by
  obtain ⟨first, isFirst⟩ := List.exists_mem_of_ne_nil _ pending
  rcases timeouts.restartWatchTimer_cases with
    ⟨allDue, unchanged⟩ | ⟨earliest, mem, future, least, armed⟩
  · rw [unchanged]
    constructor
    · rintro ⟨due, isArmed, atOnce | before⟩
      · exact .inr ⟨allDue, due, isArmed, atOnce⟩
      · exact .inr ⟨allDue, due, isArmed,
          Nat.le_trans (before first isFirst) (allDue first isFirst)⟩
    · rintro (noneDue | ⟨-, due, isArmed, atOnce⟩)
      · exact absurd (noneDue first isFirst) (Nat.not_lt_of_le (allDue first isFirst))
      · exact ⟨due, isArmed, .inl atOnce⟩
  · rw [armed]
    constructor
    · rintro ⟨due, isArmed, atOnce | before⟩
      · obtain rfl := Option.some.inj isArmed
        exact absurd future (Nat.not_lt_of_le atOnce)
      · obtain rfl := Option.some.inj isArmed
        exact .inl fun entry isEntry => Nat.lt_of_lt_of_le future (before entry isEntry)
    · rintro (noneDue | ⟨allDue, -⟩)
      · exact ⟨_, rfl, .inr fun entry isEntry => least entry isEntry (noneDue entry isEntry)⟩
      · exact absurd future (Nat.not_lt_of_le (allDue earliest mem))

/-- The pending timeouts and the record tell of the same requests. -/
structure Recorded (timeouts : Timeouts) : Prop where
  onePending :
    (timeouts.attributeTimeouts.map fun entry => (entry.1, entry.2.callbackFunction)).Nodup
  settledOnce : timeouts.settlements.Perm (List.range timeouts.accepted.length)
  pendingAccepted : ∀ entry ∈ timeouts.attributeTimeouts,
    ⟨entry.1, entry.2.callbackFunction, entry.2.timestamp, entry.2.number⟩ ∈ timeouts.accepted
  notEarly : ∀ invocation ∈ timeouts.invocations,
    ∃ request ∈ timeouts.accepted,
      request.number = invocation.number ∧ request.node = invocation.node ∧
        request.callbackFunction = invocation.callbackFunction ∧
        request.deadline ≤ invocation.time

theorem recorded_initial : initial.Recorded where
  onePending := List.nodup_nil
  settledOnce := List.Perm.refl _
  pendingAccepted := fun _ mem => nomatch mem
  notEarly := fun _ mem => nomatch mem

section

variable (recorded : timeouts.Recorded)
include recorded

theorem Recorded.congr (entries : other.attributeTimeouts = timeouts.attributeTimeouts)
    (accepted : other.accepted = timeouts.accepted)
    (invocations : other.invocations = timeouts.invocations)
    (dismissals : other.dismissals = timeouts.dismissals) : other.Recorded := by
  obtain ⟨onePending, settledOnce, pendingAccepted, notEarly⟩ := recorded
  refine ⟨?_, ?_, ?_, ?_⟩
  · rwa [entries]
  · unfold settlements at settledOnce ⊢
    rwa [entries, accepted, invocations, dismissals]
  · rwa [entries, accepted]
  · rwa [invocations, accepted]

theorem Recorded.restartWatchTimer : timeouts.restartWatchTimer.Recorded := by
  rcases timeouts.restartWatchTimer_cases with
    ⟨-, unchanged⟩ | ⟨entry, -, -, -, armed⟩
  · rwa [unchanged]
  · rw [armed]
    exact { recorded with }

theorem Recorded.cancelCallbackSafe (reason : Reason) (node : Node)
    (callbackFunction : CallbackFunction) :
    (timeouts.cancelCallbackSafe reason node callbackFunction).2.Recorded := by
  unfold Timeouts.cancelCallbackSafe
  split
  next => exact recorded
  next entry found =>
    have taken := perm_cons_eraseP found
    have remaining := List.eraseP_sublist (p := isFor node callbackFunction)
      (l := timeouts.attributeTimeouts)
    obtain ⟨onePending, settledOnce, pendingAccepted, notEarly⟩ := recorded
    refine ⟨onePending.sublist (remaining.map _), ?_, ?_, notEarly⟩
    · refine List.Perm.trans ?_ settledOnce
      unfold settlements
      refine List.Perm.trans ?_ ((taken.map _).append_right _).symm
      simp only [List.map_cons, ← List.append_assoc]
      exact List.perm_middle
    · exact fun other mem => pendingAccepted other (remaining.subset mem)

theorem Recorded.insert {node : Node} {callbackFunction : CallbackFunction}
    (absent : ∀ entry ∈ timeouts.attributeTimeouts, isFor node callbackFunction entry = false)
    (timestamp : Nat) :
    ((timeouts.accept node callbackFunction timestamp).insert node
      ⟨timestamp, callbackFunction, timeouts.accepted.length⟩).Recorded := by
  have inserted := insertInOrder_perm
    (node, AttributeTimeout.mk timestamp callbackFunction timeouts.accepted.length)
    timeouts.attributeTimeouts
  obtain ⟨onePending, settledOnce, pendingAccepted, notEarly⟩ := recorded
  refine ⟨?_, ?_, ?_, ?_⟩
  · refine ((inserted.map _).nodup_iff).mpr ?_
    rw [List.map_cons, List.nodup_cons]
    refine ⟨?_, onePending⟩
    intro mem
    obtain ⟨entry, isEntry, same⟩ := List.mem_map.mp mem
    have differs := absent entry isEntry
    rw [Prod.mk.injEq] at same
    simp [isFor, same.1, same.2] at differs
  · unfold settlements
    refine ((inserted.map _).append_right _).trans ?_
    dsimp only [accept, Timeouts.insert]
    rw [List.length_cons, List.range_succ]
    exact (settledOnce.cons _).trans (List.perm_append_singleton _ _).symm
  · intro entry mem
    rcases List.mem_cons.mp (inserted.mem_iff.mp mem) with isNew | isOld
    · subst isNew
      exact List.mem_cons_self
    · exact List.mem_cons_of_mem _ (pendingAccepted entry isOld)
  · intro invocation mem
    obtain ⟨request, isRequest, matching⟩ := notEarly invocation mem
    exact ⟨request, List.mem_cons_of_mem _ isRequest, matching⟩

theorem cancelCallbackSafe_absent (reason : Reason) (node : Node)
    (callbackFunction : CallbackFunction) :
    ∀ entry ∈ (timeouts.cancelCallbackSafe reason node callbackFunction).2.attributeTimeouts,
      isFor node callbackFunction entry = false := by
  intro entry mem
  rw [← Bool.not_eq_true]
  unfold cancelCallbackSafe at mem
  split at mem
  next notFound => exact List.find?_eq_none.mp notFound entry mem
  next found isFound =>
    intro same
    have taken := ((perm_cons_eraseP isFound).map fun entry =>
      (entry.1, entry.2.callbackFunction)).nodup_iff.mp recorded.onePending
    rw [List.map_cons, List.nodup_cons] at taken
    refine taken.1 (List.mem_map.mpr ⟨entry, mem, ?_⟩)
    have foundFor := isFor_of_find? isFound
    have entryFor : entry.1 = node ∧ entry.2.callbackFunction = callbackFunction := by
      simpa [isFor] using same
    rw [foundFor.1, foundFor.2, entryFor.1, entryFor.2]

theorem Recorded.replaceTimeout (node : Node) (duration : Nat)
    (callbackFunction : CallbackFunction) (elapsed : Nat) :
    (timeouts.replaceTimeout node duration callbackFunction elapsed).Recorded := by
  have ticked : (timeouts.clockTick elapsed).Recorded := { recorded with }
  have cancelled := ticked.cancelCallbackSafe .replaced node callbackFunction
  have absent := cancelCallbackSafe_absent ticked .replaced node callbackFunction
  have inserted := cancelled.insert absent (timeouts.clockTime + duration)
  -- The request is recorded first in the model, and the old timeout taken out after it.
  refine inserted.congr ?_ ?_ ?_ ?_ <;>
    · unfold Timeouts.replaceTimeout Timeouts.cancelCallbackSafe
      dsimp only [accept, clockTick, Timeouts.insert]
      split <;> rfl

theorem Recorded.eraseNode (node : Node) : (timeouts.eraseNode node).Recorded := by
  have parts := List.filter_append_perm (fun entry : Entry => entry.1 == node)
    timeouts.attributeTimeouts
  have remaining := List.filter_sublist (p := fun entry : Entry => !(entry.1 == node))
    (l := timeouts.attributeTimeouts)
  obtain ⟨onePending, settledOnce, pendingAccepted, notEarly⟩ := recorded
  refine ⟨onePending.sublist (remaining.map _), ?_, ?_, notEarly⟩
  · refine List.Perm.trans ?_ settledOnce
    unfold settlements
    refine List.Perm.trans ?_ ((parts.map _).append_right _)
    simp only [Timeouts.eraseNode, List.map_append, List.map_map, Function.comp_def,
      List.append_assoc]
    exact ((List.perm_append_comm_assoc _ _ _).append_left _).trans
      (List.perm_append_comm_assoc _ _ _)
  · exact fun other mem => pendingAccepted other (remaining.subset mem)

theorem Recorded.invokeTimeoutFunctions (elapsed : Nat) :
    (timeouts.invokeTimeoutFunctions elapsed).Recorded := by
  unfold Timeouts.invokeTimeoutFunctions
  split
  next =>
    have ticked : (timeouts.clockTick elapsed).Recorded := { recorded with }
    exact { ticked.restartWatchTimer with }
  next entry found =>
    have taken := perm_cons_eraseP found
    have remaining := List.eraseP_sublist (p := isDue timeouts.clockTime)
      (l := timeouts.attributeTimeouts)
    have isDueNow : entry.2.timestamp ≤ timeouts.clockTime := by
      simpa [isDue] using List.find?_some found
    obtain ⟨onePending, settledOnce, pendingAccepted, notEarly⟩ := recorded
    refine ⟨onePending.sublist (remaining.map _), ?_, ?_, ?_⟩
    · refine List.Perm.trans ?_ settledOnce
      refine List.Perm.trans ?_ ((taken.map _).append_right _).symm
      exact List.perm_middle
    · exact fun other mem => pendingAccepted other (remaining.subset mem)
    · intro invocation mem
      rcases List.mem_cons.mp mem with isNew | isOld
      · subst isNew
        have request := pendingAccepted entry (List.mem_of_find?_eq_some found)
        exact ⟨_, request, rfl, rfl, rfl, isDueNow⟩
      · exact notEarly invocation isOld

theorem Recorded.invokeAtOnce (node : Node) (callbackFunction : CallbackFunction) :
    ((timeouts.accept node callbackFunction timeouts.clockTime).invoke node callbackFunction
      timeouts.accepted.length).Recorded := by
  obtain ⟨onePending, settledOnce, pendingAccepted, notEarly⟩ := recorded
  refine ⟨onePending, ?_, ?_, ?_⟩
  · unfold settlements
    dsimp only [accept, invoke]
    rw [List.length_cons, List.range_succ]
    refine List.perm_middle.trans ?_
    exact (settledOnce.cons _).trans (List.perm_append_singleton _ _).symm
  · exact fun entry mem => List.mem_cons_of_mem _ (pendingAccepted entry mem)
  · intro invocation mem
    rcases List.mem_cons.mp mem with isNew | isOld
    · subst isNew
      exact ⟨_, List.mem_cons_self, rfl, rfl, rfl, Nat.le_refl _⟩
    · obtain ⟨request, isRequest, matching⟩ := notEarly invocation isOld
      exact ⟨request, List.mem_cons_of_mem _ isRequest, matching⟩

/-- Every step keeps the record of requests, calls and dismissals. -/
theorem Recorded.step (action : Action) : (timeouts.step action).Recorded := by
  cases action with
  | setCallback node duration callbackFunction elapsed =>
    cases callbackFunction with
    | none => exact recorded
    | some function =>
      dsimp only [Timeouts.step, setCallback]
      split
      next => exact recorded
      next =>
        split
        next => exact recorded.invokeAtOnce node function
        next => exact (recorded.replaceTimeout node duration function elapsed).restartWatchTimer
  | cancelCallback node callbackFunction =>
    exact recorded.cancelCallbackSafe .cancelled node callbackFunction
  | nodeDeleted node =>
    dsimp only [Timeouts.step, onAttributeNodeDeleted]
    split
    next => exact (recorded.eraseNode node).restartWatchTimer
    next => exact recorded
  | timerExpires =>
    dsimp only [Timeouts.step, timerExpires]
    split
    next => exact recorded
    next =>
      split
      next => exact { recorded with }
      next => exact recorded
  | handlerRound elapsed =>
    dsimp only [Timeouts.step]
    split
    next => exact recorded.invokeTimeoutFunctions elapsed
    next => exact recorded
  | clockTick elapsed => exact { recorded with }

end

/-- Outside the handler the timer is armed in time for the pending timeouts. -/
def Watched (timeouts : Timeouts) : Prop :=
  timeouts.isHandling = false -> timeouts.attributeTimeouts ≠ [] -> timeouts.TimerInTime

@[simp] theorem restartWatchTimer_isHandling (timeouts : Timeouts) :
    timeouts.restartWatchTimer.isHandling = timeouts.isHandling := by
  unfold restartWatchTimer
  dsimp only
  split <;> rfl

@[simp] theorem restartWatchTimer_attributeTimeouts (timeouts : Timeouts) :
    timeouts.restartWatchTimer.attributeTimeouts = timeouts.attributeTimeouts := by
  unfold restartWatchTimer
  dsimp only
  split <;> rfl

theorem watched_restartWatchTimer_iff :
    timeouts.restartWatchTimer.Watched ↔
      (timeouts.isHandling = false ->
        (∀ entry ∈ timeouts.attributeTimeouts, timeouts.clockTime < entry.2.timestamp) ∨
          ((∀ entry ∈ timeouts.attributeTimeouts, entry.2.timestamp ≤ timeouts.clockTime) ∧
            ∃ due, timeouts.watchTimer = some due ∧ due ≤ timeouts.clockTime)) := by
  unfold Watched
  rw [restartWatchTimer_isHandling, restartWatchTimer_attributeTimeouts]
  constructor
  · intro watched outside
    by_cases pending : timeouts.attributeTimeouts = []
    · left
      simp [pending]
    · exact (timerInTime_restartWatchTimer_iff pending).mp (watched outside pending)
  · intro passesOverNone outside pending
    exact (timerInTime_restartWatchTimer_iff pending).mpr (passesOverNone outside)

theorem Watched.subset (watched : timeouts.Watched)
    (remaining : other.attributeTimeouts ⊆ timeouts.attributeTimeouts)
    (watchTimer : other.watchTimer = timeouts.watchTimer)
    (isHandling : other.isHandling = timeouts.isHandling)
    (clockTime : timeouts.clockTime ≤ other.clockTime) : other.Watched := by
  intro outside pending
  obtain ⟨first, isFirst⟩ := List.exists_mem_of_ne_nil _ pending
  have pendingBefore : timeouts.attributeTimeouts ≠ [] := List.ne_nil_of_mem (remaining isFirst)
  obtain ⟨due, isArmed, soon⟩ := watched (isHandling ▸ outside) pendingBefore
  refine ⟨due, watchTimer ▸ isArmed, ?_⟩
  rcases soon with atOnce | before
  · exact .inl (Nat.le_trans atOnce clockTime)
  · exact .inr fun entry mem => before entry (remaining mem)

theorem watched_of_isHandling (inside : timeouts.isHandling = true) : timeouts.Watched := by
  intro outside
  rw [inside] at outside
  cases outside

theorem cancelCallbackSafe_frame (timeouts : Timeouts) (reason : Reason) (node : Node)
    (callbackFunction : CallbackFunction) :
    let cancelled := (timeouts.cancelCallbackSafe reason node callbackFunction).2
    cancelled.attributeTimeouts = timeouts.attributeTimeouts.eraseP (isFor node callbackFunction) ∧
      cancelled.watchTimer = timeouts.watchTimer ∧
      cancelled.isHandling = timeouts.isHandling ∧
      cancelled.clockTime = timeouts.clockTime := by
  unfold cancelCallbackSafe
  split
  next notFound =>
    refine ⟨(List.eraseP_of_forall_not ?_).symm, rfl, rfl, rfl⟩
    exact List.find?_eq_none.mp notFound
  next => exact ⟨rfl, rfl, rfl, rfl⟩

theorem restartWatchTimer_endHandling (timeouts : Timeouts) :
    { timeouts.restartWatchTimer with isHandling := false } =
      { timeouts with isHandling := false }.restartWatchTimer := by
  unfold restartWatchTimer
  dsimp only
  split <;> rfl

theorem passesOverNone_of_none (none : timeouts.restartedFor action = none) :
    timeouts.PassesOverNone action := by
  intro entries now restarted
  rw [none] at restarted
  cases restarted

theorem passesOverNone_iff {now : Nat}
    (restarted : timeouts.restartedFor action = some (entries, now)) :
    timeouts.PassesOverNone action ↔
      (∀ entry ∈ entries, now < entry.2.timestamp) ∨
        ((∀ entry ∈ entries, entry.2.timestamp ≤ now) ∧
          ∃ due, timeouts.watchTimer = some due ∧ due ≤ now) := by
  constructor
  · exact fun passesOverNone => passesOverNone entries now restarted
  · intro holds other time same
    rw [restarted] at same
    obtain ⟨rfl, rfl⟩ := Prod.mk.inj (Option.some.inj same)
    exact holds

theorem watched_setCallback_iff (watched : timeouts.Watched) (node : Node) (duration : Nat)
    (function : CallbackFunction) (elapsed : Nat) :
    (timeouts.setCallback node duration (some function) elapsed).2.Watched ↔
      timeouts.PassesOverNone (.setCallback node duration (some function) elapsed) := by
  unfold setCallback
  dsimp only
  by_cases invalid : node = attributeStoreInvalidNode
  · rw [if_pos invalid]
    exact iff_of_true watched (passesOverNone_of_none (by simp [restartedFor, invalid]))
  rw [if_neg invalid]
  by_cases atOnce : duration = 0
  · rw [if_pos atOnce]
    exact iff_of_true watched (passesOverNone_of_none (by simp [restartedFor, atOnce]))
  rw [if_neg atOnce, watched_restartWatchTimer_iff]
  obtain ⟨entries, watchTimer, isHandling, clockTime⟩ :=
    ((timeouts.accept node function (timeouts.clockTime + duration)).clockTick
      elapsed).cancelCallbackSafe_frame .replaced node function
  dsimp only [replaceTimeout, insert]
  rw [entries, watchTimer, isHandling, clockTime]
  dsimp only [accept, clockTick]
  by_cases inside : timeouts.isHandling = true
  · refine iff_of_true ?_ (passesOverNone_of_none (by simp [restartedFor, inside]))
    simp [inside]
  · have outside : timeouts.isHandling = false := Bool.eq_false_iff.mpr inside
    have restarted : timeouts.restartedFor
        (.setCallback node duration (some function) elapsed) = some (_, _) :=
      if_neg (by simp [invalid, atOnce, outside])
    rw [passesOverNone_iff restarted]
    simp only [outside, true_implies]

theorem watched_onAttributeNodeDeleted_iff (watched : timeouts.Watched) (node : Node) :
    (timeouts.onAttributeNodeDeleted node).Watched ↔
      timeouts.PassesOverNone (.nodeDeleted node) := by
  unfold onAttributeNodeDeleted
  by_cases contained : timeouts.contains node = true
  · rw [if_pos contained, watched_restartWatchTimer_iff]
    dsimp only [eraseNode]
    by_cases inside : timeouts.isHandling = true
    · refine iff_of_true ?_ (passesOverNone_of_none (by simp [restartedFor, inside]))
      simp [inside]
    · have outside : timeouts.isHandling = false := Bool.eq_false_iff.mpr inside
      have restarted : timeouts.restartedFor (.nodeDeleted node) = some (_, _) :=
        if_pos ⟨contained, outside⟩
      rw [passesOverNone_iff restarted]
      simp only [outside, true_implies]
  · rw [if_neg contained]
    exact iff_of_true watched (passesOverNone_of_none (by simp [restartedFor, contained]))

theorem watched_invokeTimeoutFunctions_iff (inside : timeouts.isHandling = true) (elapsed : Nat) :
    (timeouts.invokeTimeoutFunctions elapsed).Watched ↔
      timeouts.PassesOverNone (.handlerRound elapsed) := by
  unfold invokeTimeoutFunctions
  split
  next nothing =>
    have restarted : timeouts.restartedFor (.handlerRound elapsed) = some (_, _) :=
      if_pos ⟨inside, nothing⟩
    rw [restartWatchTimer_endHandling, watched_restartWatchTimer_iff, passesOverNone_iff restarted]
    simp only [clockTick, true_implies]
  next entry found =>
    refine iff_of_true (watched_of_isHandling inside) (passesOverNone_of_none ?_)
    simp [restartedFor, found]

/-- The timer goes on watching exactly if the step passes over no timeout. -/
theorem Watched.step_iff (watched : timeouts.Watched) (action : Action) :
    (timeouts.step action).Watched ↔ timeouts.PassesOverNone action := by
  cases action with
  | setCallback node duration callbackFunction elapsed =>
    cases callbackFunction with
    | none => exact iff_of_true watched (passesOverNone_of_none rfl)
    | some function => exact watched_setCallback_iff watched node duration function elapsed
  | cancelCallback node callbackFunction =>
    refine iff_of_true ?_ (passesOverNone_of_none rfl)
    obtain ⟨entries, watchTimer, isHandling, clockTime⟩ :=
      timeouts.cancelCallbackSafe_frame .cancelled node callbackFunction
    refine watched.subset ?_ watchTimer isHandling (Nat.le_of_eq clockTime.symm)
    intro entry mem
    exact List.mem_of_mem_eraseP (entries ▸ mem)
  | nodeDeleted node => exact watched_onAttributeNodeDeleted_iff watched node
  | timerExpires =>
    refine iff_of_true ?_ (passesOverNone_of_none rfl)
    dsimp only [step, timerExpires]
    split
    next => exact watched
    next =>
      split
      next => exact watched_of_isHandling rfl
      next => exact watched
  | handlerRound elapsed =>
    dsimp only [step]
    split
    next inside => exact watched_invokeTimeoutFunctions_iff inside elapsed
    next outside =>
      exact iff_of_true watched (passesOverNone_of_none (by simp [restartedFor, outside]))
  | clockTick elapsed =>
    refine iff_of_true ?_ (passesOverNone_of_none rfl)
    exact watched.subset (fun _ mem => mem) rfl rfl (Nat.le_add_right _ _)

theorem exists_invocation_of_isDue (pending : Nat) (timeouts : Timeouts)
    (length : timeouts.attributeTimeouts.length = pending) (inside : timeouts.isHandling = true)
    (entry : Entry) (mem : entry ∈ timeouts.attributeTimeouts)
    (isDueNow : entry.2.timestamp ≤ timeouts.clockTime) :
    ∃ rounds, ∃ invocation ∈
        (run step timeouts (List.replicate rounds (.handlerRound 0))).invocations,
      invocation.number = entry.2.number := by
  -- Each round takes one timeout out of the list, so the induction is on its length.
  induction pending generalizing timeouts with
  | zero =>
    rw [List.length_eq_zero_iff] at length
    rw [length] at mem
    cases mem
  | succ pending ih =>
    cases found : timeouts.attributeTimeouts.find? (isDue timeouts.clockTime) with
    | none =>
      have notDue := List.find?_eq_none.mp found entry mem
      simp [isDue, isDueNow] at notDue
    | some first =>
      have taken := perm_cons_eraseP found
      have round : timeouts.step (.handlerRound 0) =
          { timeouts with
            attributeTimeouts :=
              timeouts.attributeTimeouts.eraseP (isDue timeouts.clockTime) }.invoke
            first.1 first.2.callbackFunction first.2.number := by
        simp only [step, inside, invokeTimeoutFunctions, found, if_true]
      rcases List.mem_cons.mp (taken.mem_iff.mp mem) with isFirst | isLater
      · subst isFirst
        refine ⟨1, ⟨entry.1, entry.2.callbackFunction, timeouts.clockTime, entry.2.number⟩, ?_, rfl⟩
        rw [List.replicate_one, run_cons, round]
        exact List.mem_cons_self
      · have shorter := taken.length_eq
        rw [length] at shorter
        obtain ⟨rounds, invoked⟩ := ih (timeouts.step (.handlerRound 0))
          (by rw [round]; exact (Nat.succ.inj shorter).symm) (by rw [round]; exact inside)
          (by rw [round]; exact isLater) (by rw [round]; exact isDueNow)
        exact ⟨rounds + 1, invoked⟩

theorem Watched.leadsToInvocation (watched : timeouts.Watched)
    (outside : timeouts.isHandling = false) (mem : entry ∈ timeouts.attributeTimeouts) :
    timeouts.LeadsToInvocation entry := by
  intro elapsed isDueThen
  obtain ⟨due, isArmed, soon⟩ := watched outside (List.ne_nil_of_mem mem)
  have expired : due ≤ timeouts.clockTime + elapsed := by
    rcases soon with atOnce | before
    · omega
    · exact Nat.le_trans (before entry mem) isDueThen
  have handled : (timeouts.clockTick elapsed).timerExpires =
      { timeouts.clockTick elapsed with watchTimer := none, isHandling := true } := by
    simp only [timerExpires, clockTick, isArmed, expired, outside, and_self, if_true]
  obtain ⟨rounds, invoked⟩ := exists_invocation_of_isDue _
    (timeouts.clockTick elapsed).timerExpires rfl (by rw [handled]) entry
    (by rw [handled]; exact mem) (by rw [handled]; exact isDueThen)
  exact ⟨rounds, invoked⟩

theorem promised_of_recorded (recorded : timeouts.Recorded) (watched : timeouts.Watched) :
    timeouts.Promised where
  onePending := recorded.onePending
  settledOnce := recorded.settledOnce
  notEarly := recorded.notEarly
  inTime := watched
  called := fun outside _ mem => watched.leadsToInvocation outside mem

/-- The component keeps its promises in every state of a run exactly when no restart of the
timer in the run passes over a timeout that has fallen due. -/
theorem promised_throughout_iff (actions : List Action) :
    (∀ done, done <+: actions -> (run step initial done).Promised) ↔
      StepsMeet step PassesOverNone initial actions := by
  refine throughout_iff_of_invariant
    (fun timeouts => timeouts.Recorded ∧ timeouts.Watched) Promised ?_ ?_ ?_ ?_ actions
  · exact fun timeouts kept => promised_of_recorded kept.1 kept.2
  · intro timeouts action kept passesOverNone
    exact ⟨kept.1.step action, (kept.2.step_iff action).mpr passesOverNone⟩
  · intro timeouts action kept promised
    exact (kept.2.step_iff action).mp promised.inTime
  · exact ⟨recorded_initial, fun _ pending => absurd rfl pending⟩

/-- A timeout of 100 ms falls due, and before the timer has expired another one of 100 ms
is requested for another node. -/
def overtakenRun : List Action :=
  [.setCallback 1 100 (some 7) 0, .clockTick 100, .setCallback 2 100 (some 7) 0]

/-- The timer is armed for the later of the two timeouts, although the first one is due. -/
theorem not_promised_overtakenRun :
    ¬ ∀ done, done <+: overtakenRun -> (run step initial done).Promised := by
  intro promised
  have last := (promised overtakenRun (List.prefix_refl _)).inTime (by decide) (by decide)
  obtain ⟨due, isArmed, soon⟩ := last
  obtain rfl := Option.some.inj isArmed
  revert soon
  decide

end Timeouts

end AttributeTimeouts
