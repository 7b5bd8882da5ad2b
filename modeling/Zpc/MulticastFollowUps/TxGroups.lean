import Mathlib.Logic.Function.Basic
import Zpc.ZwaveDefinitions.NodeMask

/-!
# Multicast groups of the TX component

A group id stands for a set of nodes.  The ids are handed out and reused by
`zwave_tx_assign_group`; a group that is locked is neither changed nor reused.
-/

namespace MulticastFollowUps

open ZwaveDefinitions

def zwaveTxInvalidGroup : Nat := 0

def maximumZwaveTxGroupId : Nat := 255

/-- `zwave_tx_group_t` without the id it is stored under. -/
structure ZwaveTxGroup where
  nodeList : List UInt8
  locked : Bool

/-- `zwave_tx_groups`: the set of groups by their ids, and the id that was assigned last. -/
structure ZwaveTxGroups where
  groups : Nat -> Option ZwaveTxGroup
  nextGroupIdToReuse : Nat

namespace ZwaveTxGroups

variable (txGroups : ZwaveTxGroups)

def isGroupLocked (groupId : Nat) : Bool :=
  match txGroups.groups groupId with
  | some group => group.locked
  | none => false

def getNodes (groupId : Nat) : Option (List UInt8) :=
  (txGroups.groups groupId).map ZwaveTxGroup.nodeList

def createOrUpdateGroup (groupId : Nat) (group : ZwaveTxGroup) : ZwaveTxGroups :=
  { txGroups with groups := Function.update txGroups.groups groupId (some group) }

/-- `lock_group` and `unlock_group`. -/
def setLocked (groupId : Nat) (locked : Bool) : ZwaveTxGroups :=
  match txGroups.groups groupId with
  | some group => txGroups.createOrUpdateGroup groupId { group with locked := locked }
  | none => txGroups

def lockGroup (groupId : Nat) : ZwaveTxGroups :=
  txGroups.setLocked groupId true

def unlockGroup (groupId : Nat) : ZwaveTxGroups :=
  txGroups.setLocked groupId false

/-- A locked group is left as it is. -/
def addNodeToGroup (node groupId : Nat) : ZwaveTxGroups :=
  if txGroups.isGroupLocked groupId then txGroups
  else
    match txGroups.groups groupId with
    | some group =>
        txGroups.createOrUpdateGroup groupId
          { group with nodeList := addNodeToMask node group.nodeList }
    | none => txGroups.createOrUpdateGroup groupId ⟨addNodeToMask node emptyMask, false⟩

/-- What `analyze_group_suitability` returns and writes. -/
inductive GroupSuitability where
  | notAvailable
  | alreadyExists
  | suitable (commonNodes : Nat)

/-- A group of other nodes is not available. -/
def analyzeGroupSuitability (list groupNodes : List UInt8) : GroupSuitability :=
  if (nodesInMask groupNodes).all fun node => isNodeInMask node list then
    let commonNodes := ((nodesInMask list).filter fun node => isNodeInMask node groupNodes).length
    if (nodesInMask list).length = commonNodes then .alreadyExists else .suitable commonNodes
  else .notAvailable

/-- The loop of `get_most_similar_subgroup`, with the best group so far and the number of
nodes in common with it. -/
def mostSimilarSubgroupLoop (nodes : List UInt8) : List (Nat × ZwaveTxGroup) -> Nat -> Nat -> Nat
  | [], _, bestMatchingGroup => bestMatchingGroup
  | (groupId, group) :: rest, bestCommonNodes, bestMatchingGroup =>
      if group.locked then mostSimilarSubgroupLoop nodes rest bestCommonNodes bestMatchingGroup
      else
        match analyzeGroupSuitability nodes group.nodeList with
        | .notAvailable => mostSimilarSubgroupLoop nodes rest bestCommonNodes bestMatchingGroup
        | .alreadyExists => groupId
        | .suitable commonNodes =>
            if bestCommonNodes < commonNodes then
              mostSimilarSubgroupLoop nodes rest commonNodes groupId
            else mostSimilarSubgroupLoop nodes rest bestCommonNodes bestMatchingGroup

/-- The groups in the order of the set, the greatest id first. -/
def inOrder : List (Nat × ZwaveTxGroup) :=
  (List.range (maximumZwaveTxGroupId + 1)).reverse.filterMap fun groupId =>
    (txGroups.groups groupId).map fun group => (groupId, group)

def getMostSimilarSubgroup (nodes : List UInt8) : Nat :=
  mostSimilarSubgroupLoop nodes txGroups.inOrder 0 zwaveTxInvalidGroup

/-- `increment_next_group_id`. -/
def incrementGroupId (groupId : Nat) : Nat :=
  if maximumZwaveTxGroupId ≤ groupId then 1 else groupId + 1

/-- The loop of `get_next_group_to_reuse`.  It does not end when every group is locked and
none was assigned before. -/
def nextGroupToReuseLoop (txGroups : ZwaveTxGroups) (startGroupId : Nat) : Nat -> Nat -> Option Nat
  | 0, _ => none
  | rounds + 1, groupId =>
      if groupId ≠ startGroupId ∧ txGroups.isGroupLocked groupId = true then
        nextGroupToReuseLoop txGroups startGroupId rounds (incrementGroupId groupId)
      else some groupId

/-- `get_next_group_to_reuse`: the value of the counter afterwards and the group. -/
def getNextGroupToReuse : Option (Nat × Nat) :=
  (nextGroupToReuseLoop txGroups txGroups.nextGroupIdToReuse (maximumZwaveTxGroupId + 1)
    (incrementGroupId txGroups.nextGroupIdToReuse)).map fun groupId =>
      (groupId, if groupId = txGroups.nextGroupIdToReuse then zwaveTxInvalidGroup else groupId)

/-- `assign_group`: the group id that is written and the groups afterwards. -/
def assignGroup (nodes : List UInt8) : Nat × ZwaveTxGroups :=
  if nodesInMask nodes = [] then (zwaveTxInvalidGroup, txGroups)
  else if txGroups.getMostSimilarSubgroup nodes ≠ zwaveTxInvalidGroup then
    (txGroups.getMostSimilarSubgroup nodes,
      txGroups.createOrUpdateGroup (txGroups.getMostSimilarSubgroup nodes) ⟨nodes, false⟩)
  else
    match txGroups.getNextGroupToReuse with
    | none => (zwaveTxInvalidGroup, txGroups)
    | some (counter, groupId) =>
        if groupId = zwaveTxInvalidGroup then
          (zwaveTxInvalidGroup, { txGroups with nextGroupIdToReuse := counter })
        else
          (groupId,
            { txGroups with nextGroupIdToReuse := counter }.createOrUpdateGroup groupId
              ⟨nodes, false⟩)

end ZwaveTxGroups

namespace ZwaveTxGroups

variable {txGroups : ZwaveTxGroups} {groupId : Nat} {nodeList : List UInt8}

/-- A group that exists with a node list and is locked. -/
def IsLockedWith (txGroups : ZwaveTxGroups) (groupId : Nat) (nodeList : List UInt8) : Prop :=
  txGroups.groups groupId = some ⟨nodeList, true⟩

theorem IsLockedWith.isGroupLocked (locked : txGroups.IsLockedWith groupId nodeList) :
    txGroups.isGroupLocked groupId = true := by
  unfold ZwaveTxGroups.isGroupLocked
  rw [locked]

theorem IsLockedWith.getNodes (locked : txGroups.IsLockedWith groupId nodeList) :
    txGroups.getNodes groupId = some nodeList := by
  unfold ZwaveTxGroups.getNodes
  rw [locked]
  rfl

variable {other : Nat}

theorem IsLockedWith.createOrUpdateGroup (locked : txGroups.IsLockedWith groupId nodeList)
    (differs : other ≠ groupId) (group : ZwaveTxGroup) :
    (txGroups.createOrUpdateGroup other group).IsLockedWith groupId nodeList :=
  (Function.update_of_ne differs.symm _ _).trans locked

theorem IsLockedWith.setLocked (locked : txGroups.IsLockedWith groupId nodeList)
    (differs : other ≠ groupId) (value : Bool) :
    (txGroups.setLocked other value).IsLockedWith groupId nodeList := by
  unfold ZwaveTxGroups.setLocked
  split
  next => exact locked.createOrUpdateGroup differs _
  next => exact locked

theorem isLockedWith_lockGroup {group : ZwaveTxGroup}
    (found : txGroups.groups groupId = some group) :
    (txGroups.lockGroup groupId).IsLockedWith groupId group.nodeList := by
  unfold lockGroup setLocked
  rw [found]
  exact Function.update_self _ _ _

section

variable (locked : txGroups.IsLockedWith groupId nodeList)
include locked

theorem IsLockedWith.lockGroup (other : Nat) :
    (txGroups.lockGroup other).IsLockedWith groupId nodeList := by
  by_cases same : other = groupId
  · subst same
    exact isLockedWith_lockGroup locked
  · exact locked.setLocked same true

theorem IsLockedWith.isGroupLocked_unlockGroup :
    (txGroups.unlockGroup groupId).isGroupLocked groupId = false := by
  have unlocked : (txGroups.unlockGroup groupId).groups groupId = some ⟨nodeList, false⟩ := by
    unfold ZwaveTxGroups.unlockGroup ZwaveTxGroups.setLocked
    rw [locked]
    exact Function.update_self _ _ _
  unfold ZwaveTxGroups.isGroupLocked
  rw [unlocked]

theorem IsLockedWith.addNodeToGroup (node other : Nat) :
    (txGroups.addNodeToGroup node other).IsLockedWith groupId nodeList := by
  unfold ZwaveTxGroups.addNodeToGroup
  split
  next => exact locked
  next unlocked =>
    have differs : other ≠ groupId := by
      intro same
      rw [same] at unlocked
      exact unlocked locked.isGroupLocked
    split
    next => exact locked.createOrUpdateGroup differs _
    next => exact locked.createOrUpdateGroup differs _

end

theorem mostSimilarSubgroupLoop_cases (nodes : List UInt8) (groups : List (Nat × ZwaveTxGroup))
    (bestCommonNodes bestMatchingGroup : Nat) :
    mostSimilarSubgroupLoop nodes groups bestCommonNodes bestMatchingGroup = bestMatchingGroup ∨
      ∃ group, (mostSimilarSubgroupLoop nodes groups bestCommonNodes bestMatchingGroup,
        group) ∈ groups ∧ group.locked = false := by
  induction groups generalizing bestCommonNodes bestMatchingGroup with
  | nil => exact .inl rfl
  | cons entry rest ih =>
    obtain ⟨groupId, group⟩ := entry
    have later : ∀ common best,
        mostSimilarSubgroupLoop nodes rest common best = best ∨
          ∃ group', (mostSimilarSubgroupLoop nodes rest common best, group') ∈
            (groupId, group) :: rest ∧ group'.locked = false := by
      intro common best
      rcases ih common best with isBest | ⟨found, mem, unlocked⟩
      · exact .inl isBest
      · exact .inr ⟨found, List.mem_cons_of_mem _ mem, unlocked⟩
    unfold mostSimilarSubgroupLoop
    by_cases isLocked : group.locked = true
    · rw [if_pos isLocked]
      exact later _ _
    · rw [if_neg isLocked]
      have unlocked : group.locked = false := Bool.eq_false_of_not_eq_true isLocked
      cases analyzeGroupSuitability nodes group.nodeList with
      | notAvailable => exact later _ _
      | alreadyExists => exact .inr ⟨group, List.mem_cons_self, unlocked⟩
      | suitable commonNodes =>
        dsimp only
        split
        next =>
          rcases later commonNodes groupId with isThis | found
          · rw [isThis]
            exact .inr ⟨group, List.mem_cons_self, unlocked⟩
          · exact .inr found
        next => exact later _ _

theorem getMostSimilarSubgroup_ne (locked : txGroups.IsLockedWith groupId nodeList)
    {nodes : List UInt8} (found : txGroups.getMostSimilarSubgroup nodes ≠ zwaveTxInvalidGroup) :
    txGroups.getMostSimilarSubgroup nodes ≠ groupId := by
  intro same
  unfold getMostSimilarSubgroup at found same
  rcases mostSimilarSubgroupLoop_cases nodes txGroups.inOrder 0 zwaveTxInvalidGroup with
    isInvalid | ⟨group, mem, unlocked⟩
  · exact found isInvalid
  · rw [same] at mem
    obtain ⟨other, -, isEntry⟩ := List.mem_filterMap.mp mem
    obtain ⟨stored, isStored, isPair⟩ := Option.map_eq_some_iff.mp isEntry
    cases isPair
    rw [locked] at isStored
    cases isStored
    cases unlocked

theorem nextGroupToReuseLoop_cases {startGroupId rounds candidate reused : Nat}
    (isReused : nextGroupToReuseLoop txGroups startGroupId rounds candidate = some reused) :
    reused = startGroupId ∨ txGroups.isGroupLocked reused = false := by
  induction rounds generalizing candidate with
  | zero => cases isReused
  | succ rounds ih =>
    unfold nextGroupToReuseLoop at isReused
    split at isReused
    next => exact ih isReused
    next stops =>
      cases isReused
      by_cases isStart : reused = startGroupId
      · exact .inl isStart
      · exact .inr (Bool.eq_false_of_not_eq_true fun isLocked => stops ⟨isStart, isLocked⟩)

theorem IsLockedWith.assignGroup (locked : txGroups.IsLockedWith groupId nodeList)
    (nodes : List UInt8) : (txGroups.assignGroup nodes).2.IsLockedWith groupId nodeList := by
  unfold ZwaveTxGroups.assignGroup
  split
  next => exact locked
  next =>
    split
    next found => exact locked.createOrUpdateGroup (getMostSimilarSubgroup_ne locked found) _
    next =>
      split
      next => exact locked
      next counter reused isNext =>
        split
        next => exact locked
        next valid =>
          have started :
              IsLockedWith { txGroups with nextGroupIdToReuse := counter } groupId nodeList :=
            locked
          refine started.createOrUpdateGroup ?_ _
          intro same
          obtain ⟨candidate, isCandidate, isPair⟩ := Option.map_eq_some_iff.mp isNext
          rw [Prod.mk.injEq] at isPair
          obtain ⟨-, isReused⟩ := isPair
          split at isReused
          next => exact valid isReused.symm
          next differs =>
            rcases nextGroupToReuseLoop_cases isCandidate with isStart | unlocked
            · exact differs isStart
            · rw [isReused, same, locked.isGroupLocked] at unlocked
              cases unlocked

end ZwaveTxGroups

end MulticastFollowUps
