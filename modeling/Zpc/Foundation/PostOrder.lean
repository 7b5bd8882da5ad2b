import Mathlib.Data.List.Flatten
import Mathlib.Data.List.Nodup
import Mathlib.Data.List.ReduceOption
import Mathlib.Logic.Relation

/-!
# Post-order traversals with a stack

A tree is given by the children of its nodes, and some of its subtrees are skipped.  A
traversal keeps a stack of nodes, each with the index of the child to visit next, and may stop
after every round.  What is still to come is a function of the stack alone.
-/

namespace Foundation

namespace PostOrder

variable {Node : Type*} (children : Node -> List Node) (skipped : Node -> Bool)

/-- The nodes that are not skipped, the children of a node before the node, to a depth. -/
def orderTo : Nat -> Node -> List Node
  | 0, _ => []
  | depth + 1, node =>
      if skipped node then [] else (children node).flatMap (orderTo depth) ++ [node]

/-- One round of the traversal: the node all of whose children were visited, if the round
found one, and the stack. -/
def advance : List (Node × Nat) -> Option Node × List (Node × Nat)
  | [] => (none, [])
  | (node, index) :: below =>
      if skipped node then (none, below)
      else
        let index := if (children node).length < index then 0 else index
        match (children node)[index]? with
        | none => (some node, below)
        | some child => (none, (child, 0) :: (node, index + 1) :: below)

/-- What the rounds find that begin and end with a node on the stack, to a depth. -/
def tourTo : Nat -> Node -> List (Option Node)
  | 0, _ => []
  | depth + 1, node =>
      if skipped node then [none]
      else (children node).flatMap (fun child => none :: tourTo depth child) ++ [some node]

/-- Every child ranks lower than its parent. -/
def Ranked (rank : Node -> Nat) : Prop := ∀ node, ∀ child ∈ children node, rank child < rank node

variable {children skipped}

variable {depth other : Nat} {node : Node}

theorem orderTo_eq_of_ranked {rank : Node -> Nat} (ranked : Ranked children rank)
    (deep : rank node < depth) (otherDeep : rank node < other) :
    orderTo children skipped depth node = orderTo children skipped other node := by
  induction depth generalizing other node with
  | zero => omega
  | succ depth ih =>
    obtain ⟨other, rfl⟩ : ∃ below, other = below + 1 := ⟨other - 1, by omega⟩
    unfold orderTo
    congr 2
    refine List.flatMap_congr fun child mem => ?_
    have lower := ranked node child mem
    exact ih (by omega) (by omega)

theorem tourTo_eq_of_ranked {rank : Node -> Nat} (ranked : Ranked children rank)
    (deep : rank node < depth) (otherDeep : rank node < other) :
    tourTo children skipped depth node = tourTo children skipped other node := by
  induction depth generalizing other node with
  | zero => omega
  | succ depth ih =>
    obtain ⟨other, rfl⟩ : ∃ below, other = below + 1 := ⟨other - 1, by omega⟩
    unfold tourTo
    congr 2
    refine List.flatMap_congr fun child mem => ?_
    have lower := ranked node child mem
    have same : tourTo children skipped depth child = tourTo children skipped other child :=
      ih (by omega) (by omega)
    rw [same]

theorem reduceOption_tourTo (depth : Nat) (node : Node) :
    (tourTo children skipped depth node).reduceOption = orderTo children skipped depth node := by
  induction depth generalizing node with
  | zero => rfl
  | succ depth ih =>
    unfold tourTo orderTo
    split
    · rfl
    · rw [List.reduceOption_append]
      congr 1
      induction children node with
      | nil => rfl
      | cons child rest restHypothesis =>
        rw [List.flatMap_cons, List.flatMap_cons, List.reduceOption_append, restHypothesis,
          List.reduceOption_cons_of_none, ih]

variable (children skipped) in
/-- The tours of the nodes are made of those of their children. -/
def ToursChildren (tour : Node -> List (Option Node)) : Prop :=
  ∀ node, tour node =
    if skipped node then [none]
    else (children node).flatMap (fun child => none :: tour child) ++ [some node]

theorem toursChildren_tourTo {rank : Node -> Nat} (ranked : Ranked children rank)
    (deep : ∀ node, rank node < depth) :
    ToursChildren children skipped (tourTo children skipped depth) := by
  intro node
  rw [tourTo_eq_of_ranked ranked (deep node) (Nat.lt_succ_of_lt (deep node))]
  rfl

variable (children skipped) in
/-- What the rounds find from a stack on, when the tours of the nodes are known. -/
def toured (tour : Node -> List (Option Node)) : List (Node × Nat) -> List (Option Node)
  | [] => []
  | (node, index) :: below =>
      (if skipped node then [none]
        else ((children node).drop index).flatMap (fun child => none :: tour child) ++
          [some node]) ++ toured tour below

variable {tour : Node -> List (Option Node)} {stack : List (Node × Nat)}

theorem toured_eq_nil_iff : toured children skipped tour stack = [] ↔ stack = [] := by
  cases stack with
  | nil => simp [toured]
  | cons entry below =>
    unfold toured
    split <;> simp

variable (children) in
/-- No child index of a stack is behind the last child. -/
def IndicesFit (stack : List (Node × Nat)) : Prop :=
  ∀ entry ∈ stack, entry.2 ≤ (children entry.1).length

variable (skipped) in
theorem advance_cases {index : Nat} (indexFits : index ≤ (children node).length)
    (below : List (Node × Nat)) :
    (skipped node = true ∧ advance children skipped ((node, index) :: below) = (none, below)) ∨
    (skipped node = false ∧ (children node).drop index = [] ∧
      advance children skipped ((node, index) :: below) = (some node, below)) ∨
    ∃ child, skipped node = false ∧ index < (children node).length ∧
      (children node).drop index = child :: (children node).drop (index + 1) ∧
      advance children skipped ((node, index) :: below) =
        (none, (child, 0) :: (node, index + 1) :: below) := by
  unfold advance
  dsimp only
  rw [if_neg (Nat.not_lt.mpr indexFits)]
  cases isSkipped : skipped node with
  | true => exact .inl ⟨rfl, rfl⟩
  | false =>
    right
    cases found : (children node)[index]? with
    | none => exact .inl ⟨rfl, List.drop_eq_nil_of_le (List.getElem?_eq_none_iff.mp found), rfl⟩
    | some child =>
      obtain ⟨inside, isChild⟩ := List.getElem?_eq_some_iff.mp found
      refine .inr ⟨child, rfl, inside, ?_, rfl⟩
      rw [List.drop_eq_getElem_cons inside, isChild]

/-- Moving on keeps the indices of the stack within the lists of children. -/
theorem IndicesFit.advance (fit : IndicesFit children stack) :
    IndicesFit children (advance children skipped stack).2 := by
  cases stack with
  | nil => exact fit
  | cons entry below =>
    obtain ⟨indexFits, belowFit⟩ := List.forall_mem_cons.mp fit
    rcases advance_cases skipped indexFits below with
      ⟨_, round⟩ | ⟨_, _, round⟩ | ⟨child, _, inside, _, round⟩
    · rw [round]
      exact belowFit
    · rw [round]
      exact belowFit
    · rw [round]
      exact List.forall_mem_cons.mpr
        ⟨Nat.zero_le _, List.forall_mem_cons.mpr ⟨inside, belowFit⟩⟩

/-- Moving on takes the first node off the tour that the stack still has to make. -/
theorem toured_advance (tours : ToursChildren children skipped tour)
    (fit : IndicesFit children stack) (running : stack ≠ []) :
    toured children skipped tour stack =
      (advance children skipped stack).1 ::
        toured children skipped tour (advance children skipped stack).2 := by
  cases stack with
  | nil => exact absurd rfl running
  | cons entry below =>
    obtain ⟨indexFits, -⟩ := List.forall_mem_cons.mp fit
    rcases advance_cases skipped indexFits below with
      ⟨isSkipped, round⟩ | ⟨isVisited, ended, round⟩ | ⟨child, isVisited, _, next, round⟩
    · rw [round]
      simp [toured, isSkipped]
    · rw [round]
      simp [toured, isVisited, ended]
    · have begins (below : List (Node × Nat)) :
          toured children skipped tour ((child, 0) :: below) =
            tour child ++ toured children skipped tour below := by
        rw [tours child]
        rfl
      rw [round]
      rw [begins]
      simp [toured, isVisited, next]

/-- A node and those below it. -/
def Above (children : Node -> List Node) : Node -> Node -> Prop :=
  Relation.ReflTransGen fun upper lower => lower ∈ children upper

variable {upper lower : Node}

theorem Above.rank_le {rank : Node -> Nat} (ranked : Ranked children rank)
    (isAbove : Above children upper lower) : rank lower ≤ rank upper := by
  induction isAbove with
  | refl => exact Nat.le_refl _
  | tail _ isChild ih => exact Nat.le_trans (Nat.le_of_lt (ranked _ _ isChild)) ih

theorem Above.comparable
    (oneParent : ∀ first second child, child ∈ children first -> child ∈ children second ->
      first = second)
    {first second lower : Node}
    (firstAbove : Above children first lower)
    (secondAbove : Above children second lower) :
    Above children first second ∨ Above children second first := by
  induction firstAbove with
  | refl => exact .inr secondAbove
  | @tail upper lower isAbove isChild ih =>
    rcases secondAbove.cases_tail with same | ⟨other, otherAbove, isOther⟩
    · exact .inl (same ▸ isAbove.tail isChild)
    · exact ih (oneParent upper other lower isChild isOther ▸ otherAbove)

theorem siblings_disjoint {rank : Node -> Nat} (ranked : Ranked children rank)
    (oneParent : ∀ first second child, child ∈ children first -> child ∈ children second ->
      first = second)
    {node first second lower : Node}
    (isFirst : first ∈ children node)
    (isSecond : second ∈ children node)
    (firstAbove : Above children first lower)
    (secondAbove : Above children second lower) :
    first = second := by
  have equal {upper other : Node} (isUpper : upper ∈ children node)
    (isOther : other ∈ children node)
      (isAbove : Above children upper other) : upper = other := by
    rcases isAbove.cases_tail with same | ⟨parent, parentBelow, isParent⟩
    · exact same.symm
    · have lowerRank := Above.rank_le ranked parentBelow
      have upperRank := ranked node upper isUpper
      rw [oneParent parent node other isParent isOther] at lowerRank
      omega
  rcases firstAbove.comparable oneParent secondAbove with isAbove | isAbove
  · exact equal isFirst isSecond isAbove
  · exact (equal isSecond isFirst isAbove).symm

variable (children skipped) in
/-- Every node has one parent and lists a child once, and what is below a skipped node is
skipped. -/
structure IsForest (rank : Node -> Nat) : Prop where
  ranked : Ranked children rank
  oneParent : ∀ first second child, child ∈ children first -> child ∈ children second ->
    first = second
  distinct : ∀ node, (children node).Nodup
  inherited : ∀ node, skipped node = true -> ∀ child ∈ children node, skipped child = true

theorem IsForest.visited_of_above {rank : Node -> Nat} (forest : IsForest children skipped rank)
    (isAbove : Above children upper lower) (visited : skipped lower = false) :
    skipped upper = false := by
  induction isAbove with
  | refl => exact visited
  | @tail upper lower _ isChild ih =>
    refine ih ?_
    by_contra isSkipped
    have below := forest.inherited upper (eq_true_of_ne_false isSkipped) lower isChild
    exact Bool.false_ne_true (visited.symm.trans below)

variable (children skipped) in
/-- The nodes below a node that are not skipped, each once, behind its children and in the
order of its siblings. -/
structure IsPostOrder (top : Node) (visited : List Node) : Prop where
  once : visited.Nodup
  exactly : ∀ node, node ∈ visited ↔ Above children top node ∧ skipped node = false
  childrenFirst : ∀ node ∈ visited, ∀ child ∈ children node, child ∈ visited ->
    [child, node].Sublist visited
  siblings : ∀ node ∈ visited, ∀ first second, [first, second].Sublist (children node) ->
    first ∈ visited -> second ∈ visited -> [first, second].Sublist visited

variable (children skipped) in
/-- The orders of the nodes are made of those of their children. -/
def OrdersChildren (order : Node -> List Node) : Prop :=
  ∀ node, order node = if skipped node then [] else (children node).flatMap order ++ [node]

theorem ordersChildren_orderTo {rank : Node -> Nat} (ranked : Ranked children rank)
    (deep : ∀ node, rank node < depth) :
    OrdersChildren children skipped (orderTo children skipped depth) := by
  intro node
  rw [orderTo_eq_of_ranked ranked (deep node) (Nat.lt_succ_of_lt (deep node))]
  rfl

variable
  {order : Node -> List Node}
  {rank : Node -> Nat}

section

variable (orders : OrdersChildren children skipped order)
include orders

variable {node : Node}

theorem OrdersChildren.of_visited (visited : skipped node = false) :
    order node = (children node).flatMap order ++ [node] := by
  rw [orders node, visited]
  rfl

section

variable (forest : IsForest children skipped rank)

include forest

theorem OrdersChildren.mem_iff (top node : Node) :
    node ∈ order top ↔ Above children top node ∧ skipped node = false := by
  constructor
  · intro mem
    induction bound : rank top using Nat.strongRecOn generalizing top with
    | _ bound ih =>
      rw [orders] at mem
      split at mem
      next => cases mem
      next notSkipped =>
        rcases List.mem_append.mp mem with inChild | isTop
        · obtain ⟨child, isChild, mem⟩ := List.mem_flatMap.mp inChild
          have lower := forest.ranked top child isChild
          obtain ⟨isAbove, visited⟩ := ih (rank child) (bound ▸ lower) child mem rfl
          exact ⟨isAbove.head isChild, visited⟩
        · obtain rfl := List.mem_singleton.mp isTop
          exact ⟨.refl, by simpa using notSkipped⟩
  · rintro ⟨isAbove, visited⟩
    induction isAbove using Relation.ReflTransGen.head_induction_on with
    | refl => simp [orders.of_visited visited]
    | @head upper child isChild isAbove ih =>
      rw [orders.of_visited (forest.visited_of_above (isAbove.head isChild) visited)]
      exact List.mem_append_left _ (List.mem_flatMap.mpr ⟨child, isChild, ih⟩)

theorem OrdersChildren.nodup (top : Node) : (order top).Nodup := by
  have isMember := orders.mem_iff forest
  induction bound : rank top using Nat.strongRecOn generalizing top with
  | _ bound ih =>
    rw [orders]
    split
    next => exact List.nodup_nil
    next =>
      refine List.nodup_append.mpr ⟨List.nodup_flatMap.mpr ⟨?_, ?_⟩, List.nodup_singleton _, ?_⟩
      · intro child isChild
        exact ih _ (bound ▸ forest.ranked top child isChild) child rfl
      · refine List.Pairwise.imp_of_mem (fun isFirst isSecond different => ?_)
          (forest.distinct top)
        intro node inFirst inSecond
        exact different (siblings_disjoint forest.ranked forest.oneParent isFirst isSecond
          ((isMember _ node).mp inFirst).1 ((isMember _ node).mp inSecond).1)
      · intro node inChild other isTop same
        obtain ⟨child, isChild, mem⟩ := List.mem_flatMap.mp inChild
        have lower := Above.rank_le forest.ranked ((isMember child node).mp mem).1
        have childLower := forest.ranked top child isChild
        rw [same, List.mem_singleton.mp isTop] at lower
        omega

theorem OrdersChildren.sublist {top : Node} (isAbove : Above children top node)
    (visited : skipped node = false) : (order node).Sublist (order top) := by
  induction isAbove using Relation.ReflTransGen.head_induction_on with
  | refl => exact List.Sublist.refl _
  | @head upper child isChild isAbove ih =>
    rw [orders.of_visited (forest.visited_of_above (isAbove.head isChild) visited)]
    have inChildren : (order child).Sublist ((children upper).flatMap order) :=
      List.sublist_flatten_of_mem (List.mem_map_of_mem isChild)
    exact (ih.trans inChildren).trans (List.sublist_append_left _ _)

theorem OrdersChildren.isPostOrder (top : Node) : IsPostOrder children skipped top (order top) := by
  have isMember := orders.mem_iff forest
  have inOwn {node : Node} (mem : node ∈ order top) : [node].Sublist (order node) :=
    List.singleton_sublist.mpr
      ((isMember node node).mpr ⟨.refl, ((isMember top node).mp mem).2⟩)
  refine ⟨orders.nodup forest top, isMember top, ?_, ?_⟩
  · intro node mem child isChild childMember
    obtain ⟨isAbove, visited⟩ := (isMember top node).mp mem
    refine List.Sublist.trans ?_ (orders.sublist forest isAbove visited)
    rw [orders.of_visited visited]
    exact ((inOwn childMember).trans
      (List.sublist_flatten_of_mem (List.mem_map_of_mem isChild))).append (List.Sublist.refl _)
  · intro node mem first second inOrder firstMember secondMember
    obtain ⟨isAbove, visited⟩ := (isMember top node).mp mem
    refine List.Sublist.trans ?_ (orders.sublist forest isAbove visited)
    rw [orders.of_visited visited]
    refine List.Sublist.trans ?_ ((inOrder.flatMap order).trans (List.sublist_append_left _ _))
    simpa using (inOwn firstMember).append (inOwn secondMember)

end

end

end PostOrder

end Foundation
