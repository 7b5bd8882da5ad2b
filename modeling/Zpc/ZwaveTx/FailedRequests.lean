import Zpc.ZwaveTx.Evictions

/-!
# Requests that fail

A request for a full queue evicts the worst unsent frame and everything queued below it,
and tries again.  The second attempt fails only when the destination still has used up
its share of the queue, so the eviction was in vain when none of the evicted frames is
towards that destination.

What is below an evicted frame is found through the parents: a child is always queued
after its parent, so a chain of children comes to an end, and every frame of it goes.
-/

namespace ZwaveTx

open Foundation
open ParentForest

namespace TxProcess

/-- Every queued child was queued after its parent. -/
def ParentsOlder (proc : TxProcess) : Prop :=
  ∀ session element, proc.txQueue.find session = some element ->
    element.options.transport.validParentSessionId = true ->
      element.options.transport.parentSessionId < session

theorem parentsOlder_initial : initial.ParentsOlder := by
  intro session element found
  cases found

variable {before after proc : TxProcess} {element : QueueElement}

theorem ParentsOlder.evolves (older : before.ParentsOlder) (consistent : before.txQueue.Consistent)
    (evolves : before.QueueEvolves after) : after.ParentsOlder := by
  intro session element found isValid
  obtain ⟨earlier, foundEarlier, same⟩ := evolves.find consistent session element found
  rw [same.transport] at isValid ⊢
  exact older session earlier foundEarlier isValid

theorem ParentsOlder.tryEnqueue (older : proc.ParentsOlder) (consistent : proc.txQueue.Consistent)
    (parent : element.options.transport.validParentSessionId = true ->
      element.options.transport.parentSessionId < proc.txQueue.zwaveTxSessionIdCounter) :
    (proc.tryEnqueue element).2.ParentsOlder := by
  rcases proc.tryEnqueue_cases element with ⟨isAccepted, isOk⟩ | ⟨rejected, isFail⟩
  · rw [isOk]
    intro session queued found isValid
    change (proc.txQueue.enqueue proc.clockTime element).2.find session = _ at found
    rw [consistent.find_enqueue isAccepted] at found
    split_ifs at found with isNew
    · cases found
      have given : element.options.transport.validParentSessionId = true := isValid
      dsimp only [TxQueue.stored]
      rw [if_pos given, isNew]
      exact parent given
    · exact older session queued found isValid
  · rw [isFail]
    intro session queued found isValid
    unfold withQueue TxQueue.find at found
    rw [(TxQueue.enqueue_rejected rejected).1] at found
    exact older session queued found isValid

theorem ParentsOlder.shrinks (older : before.ParentsOlder) (consistent : before.txQueue.Consistent)
    (shrinks : before.txQueue.Shrinks after.txQueue) : after.ParentsOlder :=
  older.evolves consistent shrinks.evolves

theorem ParentsOlder.sendData (older : proc.ParentsOlder) (consistent : proc.txQueue.Consistent)
    (counterFits : proc.txQueue.zwaveTxSessionIdCounter + 2 < 2 ^ 32) (env : Surroundings)
    (request : SendRequest) : (proc.sendData env request).2.ParentsOlder := by
  have requests := proc.sendData_requests env request
  generalize (proc.sendData env request).2 = after at requests
  have parent : (proc.newElement env request).options.transport.validParentSessionId =
      true -> (proc.newElement env request).options.transport.parentSessionId <
        proc.txQueue.zwaveTxSessionIdCounter := adjustedOptions_parent consistent
  have once := older.tryEnqueue consistent parent
  obtain ⟨onceConsistent, grows, -⟩ := tryEnqueue_consistent consistent (by omega)
    (proc.newElement env request)
  cases requests with
  | rejected => exact older
  | triesOnce => exact once
  | @evicts evicted _ _ =>
    generalize (proc.tryEnqueue (proc.newElement env request)).2 = first
      at once onceConsistent grows
    have shrinks := evictSubtree_shrinks (2 * first.txQueue.size + 1) first evicted
    refine (once.shrinks onceConsistent shrinks).tryEnqueue
      (shrinks.consistent onceConsistent) fun isValid => ?_
    rw [shrinks.counter]
    exact Nat.lt_of_lt_of_le (parent isValid) grows

/-- A queue whose members agree and whose children are younger than their parents. -/
structure Ordered (proc : TxProcess) : Prop where
  consistent : proc.txQueue.Consistent
  older : proc.ParentsOlder

/-- Below the limit of the counter parents stay older than their children. -/
theorem Ordered.step {action : Action} (ordered : proc.Ordered)
    (counterFits : proc.CounterFits action) : (proc.step action).Ordered := by
  refine ⟨(step_consistent ordered.consistent counterFits).1, ?_⟩
  by_cases isRequest : ∃ env request, action = .sendData env request
  · obtain ⟨env, request, same⟩ := isRequest
    subst same
    exact ordered.older.sendData ordered.consistent counterFits env request
  · have evolves := proc.step_evolves action fun env request same => isRequest ⟨env, request, same⟩
    exact ordered.older.evolves ordered.consistent evolves

theorem Ordered.acyclicBelow (ordered : proc.Ordered) (root : SessionId) :
    proc.txQueue.AcyclicBelow root := by
  refine acyclic_of_rank id (fun element mem parent isChild => ?_) root
  obtain ⟨isValid, isParent⟩ := Bool.and_eq_true_iff.mp (parentSessionIdEquals_iff.mpr isChild)
  have later := ordered.older _ element (ordered.consistent.distinct.find_of_mem mem) isValid
  rwa [beq_iff_eq.mp isParent] at later

theorem Ordered.refused (ordered : proc.Ordered)
    (refused : (proc.txQueue.enqueue proc.clockTime element).1 ≠ .ok)
    (counterFits : proc.txQueue.zwaveTxSessionIdCounter + 1 < 2 ^ 32) :
    (proc.withQueue (proc.txQueue.enqueue proc.clockTime element).2).Ordered := by
  refine ⟨ordered.consistent.enqueue proc.clockTime element counterFits, ?_⟩
  intro session queued found isValid
  unfold withQueue TxQueue.find at found
  rw [(TxQueue.enqueue_rejected refused).1] at found
  exact ordered.older session queued found isValid

end TxProcess

end ZwaveTx
