import Zpc.Foundation.Loop
import Zpc.MulticastFollowUps.TxGroups

/-!
# Finding a group to reuse

When no group is similar to the nodes, `get_next_group_to_reuse` goes round the group ids
from the one that was assigned last and skips the locked ones.  It gives up when it is back
at the id it began with, without a look at whether that one is locked.
-/

namespace MulticastFollowUps

open Foundation ZwaveDefinitions

namespace ZwaveTxGroups

/-- The loop of `get_next_group_to_reuse`: it goes on over a locked group other than the
first. -/
def nextGroupStep (txGroups : ZwaveTxGroups) (startGroupId : Nat) (groupId : Nat) : Option Nat :=
  if groupId ≠ startGroupId ∧ txGroups.isGroupLocked groupId = true then
    some (incrementGroupId groupId)
  else none

/-- What `assign_group` returns, writes and leaves behind. -/
structure Assignment where
  isOk : Bool
  groupId : Nat
  txGroups : ZwaveTxGroups

/-- The id that `get_next_group_to_reuse` returns with this value of the counter. -/
def reusedGroupId (startGroupId counter : Nat) : Nat :=
  if counter ≠ startGroupId then counter else zwaveTxInvalidGroup

/-- The rest of `assign_group` after `get_next_group_to_reuse`. -/
def assignReused (txGroups : ZwaveTxGroups) (nodes : List UInt8) (counter : Nat) : Assignment :=
  let groupId := reusedGroupId txGroups.nextGroupIdToReuse counter
  if groupId = zwaveTxInvalidGroup then
    ⟨false, groupId, { txGroups with nextGroupIdToReuse := counter }⟩
  else
    ⟨true, groupId,
      { txGroups with nextGroupIdToReuse := counter }.createOrUpdateGroup groupId
        ⟨nodes, false⟩⟩

/-- `assign_group`, with a limit on the rounds of `get_next_group_to_reuse`. -/
def assignGroupWithin (rounds : Nat) (txGroups : ZwaveTxGroups)
    (nodes : List UInt8) : Option Assignment :=
  if nodesInMask nodes = [] then some ⟨false, zwaveTxInvalidGroup, txGroups⟩
  else if txGroups.getMostSimilarSubgroup nodes ≠ zwaveTxInvalidGroup then
    some ⟨true, txGroups.getMostSimilarSubgroup nodes,
      txGroups.createOrUpdateGroup (txGroups.getMostSimilarSubgroup nodes) ⟨nodes, false⟩⟩
  else
    (leaveWithin (txGroups.nextGroupStep txGroups.nextGroupIdToReuse) rounds
      (incrementGroupId txGroups.nextGroupIdToReuse)).map (txGroups.assignReused nodes)

/-- The call returns, and this is what it does. -/
def Assigns (txGroups : ZwaveTxGroups) (nodes : List UInt8) (assignment : Assignment) : Prop :=
  ∃ rounds, assignGroupWithin rounds txGroups nodes = some assignment

theorem nextGroupToReuseLoop_eq_leaveWithin (txGroups : ZwaveTxGroups)
    (startGroupId rounds groupId : Nat) :
    nextGroupToReuseLoop txGroups startGroupId rounds groupId =
      leaveWithin (txGroups.nextGroupStep startGroupId) rounds groupId := by
  induction rounds generalizing groupId with
  | zero => rfl
  | succ rounds ih =>
    unfold nextGroupToReuseLoop
    split
    next goesOn =>
      have body : txGroups.nextGroupStep startGroupId groupId =
          some (incrementGroupId groupId) := if_pos goesOn
      rw [ih, leaveWithin_of_goesOn body]
    next stops =>
      have body : txGroups.nextGroupStep startGroupId groupId = none := if_neg stops
      rw [leaveWithin_of_stops body]

variable {txGroups : ZwaveTxGroups} {nodes : List UInt8} {groupId target startGroupId : Nat}

variable {assignment : Assignment}

theorem assignGroup_of_assignGroupWithin
    (assigned : assignGroupWithin (maximumZwaveTxGroupId + 1) txGroups nodes = some assignment) :
    txGroups.assignGroup nodes = (assignment.groupId, assignment.txGroups) := by
  unfold assignGroupWithin at assigned
  unfold assignGroup getNextGroupToReuse
  rw [nextGroupToReuseLoop_eq_leaveWithin]
  split at assigned
  next noNodes =>
    cases assigned
    rw [if_pos noNodes]
  next someNodes =>
    rw [if_neg someNodes]
    split at assigned
    next similar =>
      cases assigned
      rw [if_pos similar]
    next notSimilar =>
      rw [if_neg notSimilar]
      obtain ⟨counter, left, isAssignment⟩ := Option.map_eq_some_iff.mp assigned
      rw [left]
      rw [← isAssignment]
      unfold assignReused reusedGroupId
      by_cases isStart : counter = txGroups.nextGroupIdToReuse
      · simp [isStart]
      · by_cases isInvalid : counter = zwaveTxInvalidGroup
        · simp [isInvalid]
        · simp [isStart, isInvalid]

/-- The ids that can be assigned. -/
def IsGroupId (groupId : Nat) : Prop := 1 ≤ groupId ∧ groupId ≤ maximumZwaveTxGroupId

theorem isGroupId_incrementGroupId (groupId : Nat) : IsGroupId (incrementGroupId groupId) := by
  have isMaximum : maximumZwaveTxGroupId = 255 := rfl
  unfold IsGroupId incrementGroupId
  split <;> omega

theorem iterate_incrementGroupId {distance : Nat}
    (isLow : groupId + distance ≤ maximumZwaveTxGroupId) :
    incrementGroupId^[distance] groupId = groupId + distance := by
  induction distance with
  | zero => rfl
  | succ distance ih =>
    rw [Function.iterate_succ_apply', ih (by omega)]
    exact if_neg (by omega)

theorem exists_iterate_incrementGroupId (isGroupId : IsGroupId groupId)
    (isTarget : IsGroupId target) : ∃ distance, incrementGroupId^[distance] groupId = target := by
  obtain ⟨atLeast, atMost⟩ := isGroupId
  obtain ⟨targetAtLeast, targetAtMost⟩ := isTarget
  by_cases isAhead : groupId ≤ target
  · refine ⟨target - groupId, ?_⟩
    rw [iterate_incrementGroupId (by omega)]
    omega
  · -- first to the greatest id, from there to the id 1, and on
    have isGreatest : incrementGroupId^[maximumZwaveTxGroupId - groupId] groupId =
        maximumZwaveTxGroupId := by
      rw [iterate_incrementGroupId (by omega)]
      omega
    have isFirst : incrementGroupId maximumZwaveTxGroupId = 1 := if_pos (Nat.le_refl _)
    refine ⟨(target - 1) + (1 + (maximumZwaveTxGroupId - groupId)), ?_⟩
    rw [Function.iterate_add_apply, Function.iterate_add_apply, isGreatest,
      Function.iterate_one, isFirst, iterate_incrementGroupId (by omega)]
    omega

theorem nextGroupStep_advances {next : Nat}
    (body : txGroups.nextGroupStep startGroupId groupId = some next) :
    next = incrementGroupId groupId ∧ groupId ≠ startGroupId ∧
      txGroups.isGroupLocked groupId = true := by
  unfold nextGroupStep at body
  split at body
  next goesOn =>
    cases body
    exact ⟨rfl, goesOn⟩
  next => cases body

theorem exists_leaves_nextGroup (isTarget : IsGroupId target)
    (stops : target = startGroupId ∨ txGroups.isGroupLocked target = false) :
    ∃ counter, Leaves (txGroups.nextGroupStep startGroupId) (incrementGroupId startGroupId)
      counter := by
  obtain ⟨distance, comesTo⟩ :=
    exists_iterate_incrementGroupId (isGroupId_incrementGroupId startGroupId) isTarget
  refine exists_leaves_of_iterate
    (fun groupId next body => (nextGroupStep_advances body).1) distance ?_
  rw [comesTo]
  refine if_neg ?_
  rintro ⟨isOther, isLocked⟩
  rcases stops with isStart | isFree
  · exact isOther isStart
  · rw [isFree] at isLocked
    cases isLocked

/-- Between the id after the first one and this one, going round. -/
def IsPassed (startGroupId groupId other : Nat) : Prop :=
  if startGroupId < groupId then startGroupId < other ∧ other < groupId
  else startGroupId < other ∨ other < groupId

theorem nextGroup_of_leaves {counter : Nat}
    (leaves : Leaves (txGroups.nextGroupStep startGroupId) (incrementGroupId startGroupId)
      counter) :
    IsGroupId counter ∧
      (counter = startGroupId ∨ txGroups.isGroupLocked counter = false) ∧
      ∀ other, IsGroupId other -> IsPassed startGroupId counter other ->
        txGroups.isGroupLocked other = true := by
  have isMaximum : maximumZwaveTxGroupId = 255 := rfl
  obtain ⟨⟨isGroupId, passed⟩, stops⟩ := leaves.invariant
    (fun groupId => IsGroupId groupId ∧
      ∀ other, IsGroupId other -> IsPassed startGroupId groupId other ->
        txGroups.isGroupLocked other = true)
    (by
      rintro groupId next ⟨isGroupId, passed⟩ body
      obtain ⟨isNext, isOther, isLocked⟩ := nextGroupStep_advances body
      rw [isNext]
      refine ⟨isGroupId_incrementGroupId groupId, ?_⟩
      intro other isOtherId isPassed
      by_cases isThis : other = groupId
      · rw [isThis]
        exact isLocked
      · refine passed other isOtherId ?_
        unfold IsGroupId at isOtherId isGroupId
        unfold IsPassed incrementGroupId at isPassed
        unfold IsPassed
        grind)
    (by
      refine ⟨isGroupId_incrementGroupId startGroupId, ?_⟩
      intro other isOtherId isPassed
      unfold IsGroupId at isOtherId
      unfold IsPassed incrementGroupId at isPassed
      grind)
  refine ⟨isGroupId, ?_, passed⟩
  by_cases isStart : counter = startGroupId
  · exact .inl isStart
  · refine .inr (eq_false_of_ne_true fun isLocked => ?_)
    unfold nextGroupStep at stops
    rw [if_pos ⟨isStart, isLocked⟩] at stops
    cases stops

theorem assigns_iff_of_noNodes (noNodes : nodesInMask nodes = []) (assignment : Assignment) :
    Assigns txGroups nodes assignment ↔ assignment = ⟨false, zwaveTxInvalidGroup, txGroups⟩ := by
  unfold Assigns assignGroupWithin
  simp only [if_pos noNodes, exists_const, Option.some.injEq]
  exact eq_comm

theorem assigns_iff_of_similar (someNodes : nodesInMask nodes ≠ [])
    (similar : txGroups.getMostSimilarSubgroup nodes ≠ zwaveTxInvalidGroup)
    (assignment : Assignment) :
    Assigns txGroups nodes assignment ↔
      assignment = ⟨true, txGroups.getMostSimilarSubgroup nodes,
        txGroups.createOrUpdateGroup (txGroups.getMostSimilarSubgroup nodes) ⟨nodes, false⟩⟩ := by
  unfold Assigns assignGroupWithin
  simp only [if_neg someNodes, if_pos similar, exists_const, Option.some.injEq]
  exact eq_comm

theorem assigns_iff_of_notSimilar (someNodes : nodesInMask nodes ≠ [])
    (notSimilar : txGroups.getMostSimilarSubgroup nodes = zwaveTxInvalidGroup)
    (assignment : Assignment) :
    Assigns txGroups nodes assignment ↔
      ∃ counter,
        Leaves (txGroups.nextGroupStep txGroups.nextGroupIdToReuse)
          (incrementGroupId txGroups.nextGroupIdToReuse) counter ∧
        txGroups.assignReused nodes counter = assignment := by
  unfold Assigns assignGroupWithin Leaves
  simp only [if_neg someNodes, if_neg (not_not_intro notSimilar), Option.map_eq_some_iff]
  constructor
  · rintro ⟨rounds, counter, left, isAssignment⟩
    exact ⟨counter, ⟨rounds, left⟩, isAssignment⟩
  · rintro ⟨counter, ⟨rounds, left⟩, isAssignment⟩
    exact ⟨rounds, counter, left, isAssignment⟩

/-- What an assignment has to be: it succeeds for some nodes while a group is not locked,
the group it returns gets exactly these nodes, and no locked group and no other group
changes. -/
structure IsRight
    (txGroups : ZwaveTxGroups)
    (nodes : List UInt8)
    (assignment : Assignment) : Prop where
  isOk_iff : assignment.isOk = true ↔
    nodesInMask nodes ≠ [] ∧ ∃ groupId, IsGroupId groupId ∧ txGroups.isGroupLocked groupId = false
  getNodes : assignment.isOk = true -> assignment.txGroups.getNodes assignment.groupId = some nodes
  wasFree : assignment.isOk = true -> txGroups.isGroupLocked assignment.groupId = false
  others : assignment.isOk = true -> ∀ other, other ≠ assignment.groupId ->
    assignment.txGroups.groups other = txGroups.groups other
  failed : assignment.isOk = false -> assignment.txGroups.groups = txGroups.groups

theorem getNodes_createOrUpdateGroup (txGroups : ZwaveTxGroups) (groupId : Nat)
    (group : ZwaveTxGroup) :
    (txGroups.createOrUpdateGroup groupId group).getNodes groupId = some group.nodeList := by
  unfold getNodes createOrUpdateGroup
  simp

theorem isRight_of_stored (someNodes : nodesInMask nodes ≠ []) (isGroupId : IsGroupId groupId)
    (isFree : txGroups.isGroupLocked groupId = false) (counter : Nat) :
    IsRight txGroups nodes
      ⟨true, groupId,
        { txGroups with nextGroupIdToReuse := counter }.createOrUpdateGroup groupId
          ⟨nodes, false⟩⟩ where
  isOk_iff := iff_of_true rfl ⟨someNodes, groupId, isGroupId, isFree⟩
  getNodes _ := getNodes_createOrUpdateGroup _ groupId ⟨nodes, false⟩
  wasFree _ := isFree
  others _ _ isOther := Function.update_of_ne isOther _ _
  failed isFailed := Bool.noConfusion isFailed

theorem getMostSimilarSubgroup_free
    (similar : txGroups.getMostSimilarSubgroup nodes ≠ zwaveTxInvalidGroup) :
    IsGroupId (txGroups.getMostSimilarSubgroup nodes) ∧
      txGroups.isGroupLocked (txGroups.getMostSimilarSubgroup nodes) = false := by
  have isInvalid : zwaveTxInvalidGroup = 0 := rfl
  rcases mostSimilarSubgroupLoop_cases nodes txGroups.inOrder 0 zwaveTxInvalidGroup with
    notFound | ⟨group, mem, unlocked⟩
  · exact absurd notFound similar
  · obtain ⟨groupId, inRange, isEntry⟩ := List.mem_filterMap.mp mem
    obtain ⟨stored, isStored, isPair⟩ := Option.map_eq_some_iff.mp isEntry
    obtain ⟨sameId, sameGroup⟩ := Prod.mk.inj isPair
    have isThis : groupId = txGroups.getMostSimilarSubgroup nodes := sameId
    rw [← isThis] at similar ⊢
    rw [List.mem_reverse, List.mem_range] at inRange
    refine ⟨⟨by omega, Nat.le_of_lt_succ inRange⟩, ?_⟩
    unfold isGroupLocked
    rw [isStored, sameGroup]
    exact unlocked

/-- A group is found in time: there are no nodes to look for, a similar group exists, a group
other than the one that was assigned last is not locked, or that one is locked too. -/
def FindsInTime (txGroups : ZwaveTxGroups) (nodes : List UInt8) : Prop :=
  nodesInMask nodes = [] ∨
    txGroups.getMostSimilarSubgroup nodes ≠ zwaveTxInvalidGroup ∨
    (∃ groupId, IsGroupId groupId ∧ groupId ≠ txGroups.nextGroupIdToReuse ∧
      txGroups.isGroupLocked groupId = false) ∨
    IsGroupId txGroups.nextGroupIdToReuse ∧
      txGroups.isGroupLocked txGroups.nextGroupIdToReuse = true

theorem isLocked_of_leaves_start {other : Nat}
    (leaves : Leaves (txGroups.nextGroupStep startGroupId) (incrementGroupId startGroupId)
      startGroupId)
    (isOtherId : IsGroupId other)
    (isOther : other ≠ startGroupId) :
    txGroups.isGroupLocked other = true := by
  obtain ⟨-, -, passed⟩ := nextGroup_of_leaves leaves
  refine passed other isOtherId ?_
  unfold IsPassed
  rw [if_neg (Nat.lt_irrefl _)]
  exact (Nat.lt_or_gt_of_ne isOther).symm

theorem exists_isRight_of_findsInTime (finds : FindsInTime txGroups nodes) :
    ∃ assignment, Assigns txGroups nodes assignment ∧ IsRight txGroups nodes assignment := by
  by_cases noNodes : nodesInMask nodes = []
  · refine ⟨_, (assigns_iff_of_noNodes noNodes _).mpr rfl, ?_⟩
    exact
      { isOk_iff := iff_of_false Bool.false_ne_true fun right => right.1 noNodes
        getNodes := fun isOk => Bool.noConfusion isOk
        wasFree := fun isOk => Bool.noConfusion isOk
        others := fun isOk => Bool.noConfusion isOk
        failed := fun _ => rfl }
  by_cases similar : txGroups.getMostSimilarSubgroup nodes = zwaveTxInvalidGroup
  · -- the loop is left, at a free group unless it comes back to a locked first one
    have target : ∃ groupId, IsGroupId groupId ∧
        (groupId = txGroups.nextGroupIdToReuse ∨ txGroups.isGroupLocked groupId = false) := by
      rcases finds with isEmpty | isSimilar | ⟨groupId, isGroupId, -, isFree⟩ | ⟨isStart, -⟩
      · exact absurd isEmpty noNodes
      · exact absurd similar isSimilar
      · exact ⟨groupId, isGroupId, .inr isFree⟩
      · exact ⟨txGroups.nextGroupIdToReuse, isStart, .inl rfl⟩
    obtain ⟨groupId, isGroupId, stops⟩ := target
    obtain ⟨counter, leaves⟩ := exists_leaves_nextGroup isGroupId stops
    refine ⟨_, (assigns_iff_of_notSimilar noNodes similar _).mpr ⟨counter, leaves, rfl⟩, ?_⟩
    obtain ⟨isCounterId, isEnd, -⟩ := nextGroup_of_leaves leaves
    have isValid : counter ≠ zwaveTxInvalidGroup := Nat.ne_of_gt isCounterId.1
    unfold assignReused reusedGroupId
    by_cases isStart : counter = txGroups.nextGroupIdToReuse
    · rw [isStart] at leaves
      rw [if_neg (not_not_intro isStart)]
      have allLocked : ∀ other, IsGroupId other -> txGroups.isGroupLocked other = true := by
        intro other isOtherId
        by_cases isOther : other = txGroups.nextGroupIdToReuse
        · rcases finds with isEmpty | isSimilar | ⟨free, isFreeId, isElse, isFree⟩ | ⟨-, isLocked⟩
          · exact absurd isEmpty noNodes
          · exact absurd similar isSimilar
          · rw [isLocked_of_leaves_start leaves isFreeId isElse] at isFree
            cases isFree
          · rw [isOther]
            exact isLocked
        · exact isLocked_of_leaves_start leaves isOtherId isOther
      exact
        { isOk_iff := by
            refine iff_of_false Bool.false_ne_true ?_
            rintro ⟨-, other, isOtherId, isFree⟩
            rw [allLocked other isOtherId] at isFree
            cases isFree
          getNodes := fun isOk => Bool.noConfusion isOk
          wasFree := fun isOk => Bool.noConfusion isOk
          others := fun isOk => Bool.noConfusion isOk
          failed := fun _ => rfl }
    · rw [if_pos isStart, if_neg isValid]
      exact isRight_of_stored noNodes isCounterId (isEnd.resolve_left isStart) counter
  · obtain ⟨isGroupId, isFree⟩ := getMostSimilarSubgroup_free similar
    exact ⟨_, (assigns_iff_of_similar noNodes similar _).mpr rfl,
      isRight_of_stored noNodes isGroupId isFree txGroups.nextGroupIdToReuse⟩

theorem findsInTime_of_isRight (assigns : Assigns txGroups nodes assignment)
    (isRight : IsRight txGroups nodes assignment) : FindsInTime txGroups nodes := by
  by_contra misses
  unfold FindsInTime at misses
  push Not at misses
  obtain ⟨someNodes, notSimilar, othersLocked, startFree⟩ := misses
  obtain ⟨counter, leaves, isAssignment⟩ :=
    (assigns_iff_of_notSimilar someNodes notSimilar assignment).mp assigns
  obtain ⟨isCounterId, isEnd, -⟩ := nextGroup_of_leaves leaves
  have isStart : counter = txGroups.nextGroupIdToReuse := by
    by_contra isOther
    exact othersLocked counter isCounterId isOther (isEnd.resolve_left isOther)
  rw [isStart] at isCounterId
  have isFree := eq_false_of_ne_true (startFree isCounterId)
  have isOk := isRight.isOk_iff.mpr ⟨someNodes, _, isCounterId, isFree⟩
  rw [← isAssignment] at isOk
  unfold assignReused reusedGroupId at isOk
  rw [if_neg (not_not_intro isStart)] at isOk
  cases isOk

/-- A call returns and does the right thing exactly when a group is found in time. -/
theorem exists_isRight_iff (txGroups : ZwaveTxGroups) (nodes : List UInt8) :
    (∃ assignment, Assigns txGroups nodes assignment ∧ IsRight txGroups nodes assignment) ↔
      FindsInTime txGroups nodes := by
  constructor
  · rintro ⟨assignment, assigns, isRight⟩
    exact findsInTime_of_isRight assigns isRight
  · exact exists_isRight_of_findsInTime

/-- All groups but the first are locked, and the first was assigned last. -/
def onlyFirstFree : ZwaveTxGroups :=
  ⟨fun groupId => if groupId = 1 then none else some ⟨addNodeToMask 2 emptyMask, true⟩, 1⟩

/-- The first group is free, but no group is assigned. -/
theorem not_isRight_onlyFirstFree :
    ¬ ∃ assignment, Assigns onlyFirstFree (addNodeToMask 1 emptyMask) assignment ∧
      IsRight onlyFirstFree (addNodeToMask 1 emptyMask) assignment := by
  rintro ⟨assignment, assigns, isRight⟩
  have someNodes : 1 ∈ nodesInMask (addNodeToMask 1 emptyMask) := by
    exact List.mem_filter.mpr ⟨by simp [zwLrMaxNodeId], by decide⟩
  rcases findsInTime_of_isRight assigns isRight with
    noNodes | similar | ⟨groupId, isGroupId, isOther, isFree⟩ | ⟨-, isLocked⟩
  · rw [noNodes] at someNodes
    cases someNodes
  · exact similar (by decide +kernel)
  · have isElse : groupId ≠ 1 := isOther
    simp [onlyFirstFree, isGroupLocked, isElse] at isFree
  · cases isLocked

end ZwaveTxGroups

end MulticastFollowUps
