import Zpc.Associations.DesiredAssociations

/-!
# Loops over all groups

Three functions run through the group ids from 1 to the number of groups.  The group id is
one byte, the number of groups has four.
-/

namespace Associations

open Foundation

namespace Endpoint

def removeDesiredAssociation (endpoint : Endpoint) (groupId : Nat)
    (association : Association) : Bool × Endpoint :=
  match endpoint.getGroupContent groupId with
  | none => (false, endpoint)
  | some content =>
      (true, endpoint.setDesired groupId
        (encoded ((decoded content.desiredOrReported.bytes).erase association)))

/-- A loop over all groups with this body. -/
def allGroupsStep (inGroup : Endpoint -> Nat -> Endpoint) (groupCount : Nat)
    (loop : RemoveLoop) : Option RemoveLoop :=
  if loop.currentGroupId ≤ groupCount then
    some ⟨(loop.currentGroupId + 1) % 256, inGroup loop.endpoint loop.currentGroupId⟩
  else none

/-- The loop of `add_desired_association_in_all_groups`. -/
def addDesiredAssociationInAllGroups (association : Association) :
    Nat -> RemoveLoop -> Option RemoveLoop :=
  allGroupsStep fun endpoint groupId => (endpoint.addDesiredAssociation groupId association).2

/-- The loop of `remove_desired_association_in_all_groups`. -/
def removeDesiredAssociationInAllGroups (association : Association) :
    Nat -> RemoveLoop -> Option RemoveLoop :=
  allGroupsStep fun endpoint groupId => (endpoint.removeDesiredAssociation groupId association).2

theorem removeNodeIdStep_eq (nodeId : UInt16) :
    removeNodeIdStep nodeId = allGroupsStep (removeNodeIdInGroup nodeId) :=
  rfl

/-- The loop ends, and its rounds were for the group ids from 1 to the number of groups. -/
def VisitsEachGroup (loop : Nat -> RemoveLoop -> Option RemoveLoop) (endpoint : Endpoint) : Prop :=
  ∃ rounds states, roundsWithin (loop endpoint.numberOfGroups) rounds ⟨1, endpoint⟩ = some states ∧
    states.map RemoveLoop.currentGroupId = List.range' 1 endpoint.numberOfGroups

variable (inGroup : Endpoint -> Nat -> Endpoint)

theorem roundsWithin_allGroupsStep {groupCount : Nat} (few : groupCount ≤ 254) (left : Nat)
    {groupId : Nat} (isLeft : groupId + left = groupCount + 1) (endpoint : Endpoint) :
    ∃ states, roundsWithin (allGroupsStep inGroup groupCount) (left + 1) ⟨groupId, endpoint⟩ =
        some states ∧
      states.map RemoveLoop.currentGroupId = List.range' groupId left := by
  induction left generalizing groupId endpoint with
  | zero =>
    have isLast : ¬ groupId ≤ groupCount := by omega
    exact ⟨[], by simp [roundsWithin, allGroupsStep, isLast], rfl⟩
  | succ left ih =>
    have isGroup : groupId ≤ groupCount := by omega
    have noWrap : (groupId + 1) % 256 = groupId + 1 := Nat.mod_eq_of_lt (by omega)
    obtain ⟨states, rounds, visited⟩ := ih
      (by omega : groupId + 1 + left = groupCount + 1) (inGroup endpoint groupId)
    refine ⟨⟨groupId, endpoint⟩ :: states, ?_, ?_⟩
    · rw [roundsWithin, allGroupsStep, if_pos isGroup, noWrap]
      exact congrArg (Option.map _) rounds
    · rw [List.map_cons, visited, List.range'_succ]

theorem visitsEachGroup_allGroupsStep_iff (endpoint : Endpoint) :
    VisitsEachGroup (allGroupsStep inGroup) endpoint ↔ endpoint.numberOfGroups ≤ 254 := by
  constructor
  · rintro ⟨rounds, states, left, -⟩
    by_contra many
    obtain ⟨final, leaves⟩ := exists_leaves_of_roundsWithin left
    refine not_leaves_of_goesOn (fun loop => loop.currentGroupId < 256) ?_ ?_ final leaves
    · intro loop isByte
      refine ⟨_, if_pos (by omega), Nat.mod_lt _ (by decide)⟩
    · exact Nat.one_lt_two_pow (by decide : 8 ≠ 0)
  · intro few
    obtain ⟨states, left, visited⟩ := roundsWithin_allGroupsStep inGroup few endpoint.numberOfGroups
      (Nat.add_comm 1 _) endpoint
    exact ⟨_, states, left, visited⟩

/-- Each of the three loops ends after one round for every group if and only if there are at
most 254 groups: with more of them the group id wraps before it is past the last one. -/
theorem all_groups_visited_iff (endpoint : Endpoint) (association : Association) (nodeId : UInt16) :
    (VisitsEachGroup (addDesiredAssociationInAllGroups association) endpoint ↔
        endpoint.numberOfGroups ≤ 254) ∧
      (VisitsEachGroup (removeDesiredAssociationInAllGroups association) endpoint ↔
        endpoint.numberOfGroups ≤ 254) ∧
      (VisitsEachGroup (removeNodeIdStep nodeId) endpoint ↔ endpoint.numberOfGroups ≤ 254) := by
  rw [removeNodeIdStep_eq]
  exact ⟨visitsEachGroup_allGroupsStep_iff _ endpoint, visitsEachGroup_allGroupsStep_iff _ endpoint,
    visitsEachGroup_allGroupsStep_iff _ endpoint⟩

/-- With 255 groups no loop ends. -/
theorem not_all_groups_visited :
    ¬ VisitsEachGroup (addDesiredAssociationInAllGroups ⟨.nodeId, 5, 0⟩) (pairEndpoint 255 3) ∧
      ¬ VisitsEachGroup (removeDesiredAssociationInAllGroups ⟨.nodeId, 2, 0⟩)
        (pairEndpoint 255 3) ∧
      ¬ VisitsEachGroup (removeNodeIdStep 2) (pairEndpoint 255 3) := by
  refine ⟨?_, ?_, ?_⟩ <;> exact fun visits =>
    absurd ((visitsEachGroup_allGroupsStep_iff _ _).mp visits) (by decide)

end Endpoint

end Associations
