import Mathlib.Data.List.Infix
import Zpc.AttributeStore.Consistency

/-!
# The marks of deletions

A deletion marks its node first, and the mark goes away with the node.  When the loop over the
children reaches a child that is being deleted already, which takes a callback of a deleted
node that deletes one of the nodes above it, the deletion is given up and the mark stays: the
node is neither removed nor usable any more.
-/

namespace AttributeStore

open Foundation

/-- Whether an object is marked as undergoing its deletion. -/
def isMarked (heap : Heap) (address : Address) : Bool :=
  ((heap.lookup address).map (·.undergoingDeletion)).getD false

variable (status : Status) {heap : Heap} {address : Address} {node : StoreNode} {call next : Call}
  {deletion : Deletion} {calls : List Call}

theorem isMarked_of_lookup (there : heap.lookup address = some node) :
    isMarked heap address = node.undergoingDeletion := by
  simp [isMarked, there]

theorem isMarked_modify {change : StoreNode -> StoreNode}
    (keepsMark : ∀ node, (change node).undergoingDeletion = node.undergoingDeletion) (heap : Heap)
    (address : Address) : isMarked (modify heap address change) = isMarked heap := by
  funext other
  unfold isMarked
  rw [lookup_modify]
  split
  next same =>
    rw [same]
    cases heap.lookup address <;> simp [keepsMark]
  next => rfl

theorem isMarked_mark (there : heap.lookup address = some node) :
    isMarked (modify heap address fun node => { node with undergoingDeletion := true }) =
      Function.update (isMarked heap) address true := by
  funext other
  unfold isMarked
  rw [lookup_modify, Function.update_apply]
  split
  next => simp [there]
  next => rfl

theorem isMarked_addChild {parent : Address} (differs : parent ≠ address)
    (fresh : ¬Live heap address) (type : NodeType) (id : NodeId) :
    isMarked (addChild heap parent type id address) = isMarked heap := by
  have absent : heap.lookup address = none := Option.not_isSome_iff_eq_none.mp fresh
  funext other
  unfold isMarked
  rw [lookup_addChild differs]
  split
  next same =>
    rw [same, absent]
    rfl
  next =>
    split
    next same =>
      rw [same]
      cases heap.lookup parent <;> rfl
    next => rfl

theorem isMarked_destroy (there : heap.lookup address = some node) (leaf : node.childNodes = []) :
    isMarked (destroy heap address) = Function.update (isMarked heap) address false := by
  funext other
  unfold isMarked
  rw [lookup_destroy there leaf, Function.update_apply]
  split
  next => rfl
  next =>
    split
    next => cases heap.lookup other <;> rfl
    next => rfl

theorem markedBy_congr (same : next.deletion = call.deletion) (rest : List Call) :
    markedBy (next :: rest) = markedBy (call :: rest) := by
  simp only [markedBy, deletionsOf, List.filterMap_cons, same]

theorem markedBy_cons_of_root (same : call.deletion = some deletion)
    (isRoot : deletion.isRoot = true) (rest : List Call) :
    markedBy (call :: rest) = markedBy rest := by
  simp [markedBy, deletionsOf, same, isRoot]

theorem markedBy_cons_of_node (same : call.deletion = some deletion)
    (notRoot : deletion.isRoot = false) (rest : List Call) :
    markedBy (call :: rest) = deletion.nodeToDelete :: markedBy rest := by
  simp [markedBy, deletionsOf, same, notRoot]

theorem markedBy_cons_of_none (noDeletion : call.deletion = none) (rest : List Call) :
    markedBy (call :: rest) = markedBy rest := by
  simp [markedBy, deletionsOf, noDeletion]

theorem markedBy_unwind_ok (calls : List Call) :
    markedBy (Store.unwind .ok calls) = markedBy calls := by
  unfold Store.unwind
  split <;> rfl

theorem exists_markedBy_eq (calls : List Call) :
    ∃ lost, markedBy calls = lost ++ markedBy (Store.unwind status calls) := by
  fun_induction Store.unwind status calls with
  | case1 | case3 => exact ⟨[], rfl⟩
  | case2 deletion rest failed ih =>
    obtain ⟨lost, isLost⟩ := ih
    cases isRoot : deletion.isRoot with
    | true => exact ⟨lost, (markedBy_cons_of_root rfl isRoot rest).trans isLost⟩
    | false =>
      refine ⟨deletion.nodeToDelete :: lost, ?_⟩
      rw [markedBy_cons_of_node rfl isRoot, isLost]
      rfl

/-- What waits for a child waits for the deletion of a node other than the root. -/
def AwaitsChildren (calls : List Call) : Prop :=
  ∀ call deletion, [call, .awaitsChild deletion] <:+: calls ->
    ∃ child, call.deletion = some child ∧ child.isRoot = false

theorem AwaitsChildren.tail (awaits : AwaitsChildren (call :: calls)) : AwaitsChildren calls :=
  fun upper deletion pair =>
    awaits upper deletion (pair.trans (List.suffix_cons call calls).isInfix)

theorem AwaitsChildren.cons (awaits : AwaitsChildren calls)
    (first : ∀ deletion rest, calls = .awaitsChild deletion :: rest ->
      ∃ child, call.deletion = some child ∧ child.isRoot = false) :
    AwaitsChildren (call :: calls) := by
  intro upper deletion pair
  rcases List.infix_cons_iff.mp pair with isFirst | inRest
  · obtain ⟨same, isNext⟩ := List.cons_prefix_cons.mp isFirst
    obtain ⟨rest, isCalls⟩ := isNext
    exact same ▸ first deletion rest isCalls.symm
  · exact awaits upper deletion inRest

theorem AwaitsChildren.replace {call next : Call} {calls : List Call}
    (awaits : AwaitsChildren (call :: calls)) (same : next.deletion = call.deletion) :
    AwaitsChildren (next :: calls) := by
  refine awaits.tail.cons fun deletion rest isCalls => ?_
  rw [same]
  exact awaits call deletion (isCalls ▸ ⟨[], rest, rfl⟩)

theorem AwaitsChildren.unwind (awaits : AwaitsChildren calls) (status : Status) :
    AwaitsChildren (Store.unwind status calls) := by
  fun_induction Store.unwind status calls with
  | case1 deletion rest => exact awaits.replace rfl
  | case2 deletion rest failed ih => exact ih awaits.tail
  | case3 calls => exact awaits

theorem AwaitsChildren.unwind_of_root {rest : List Call} (awaits : AwaitsChildren (call :: rest))
    (same : call.deletion = some deletion) (isRoot : deletion.isRoot = true) (status : Status) :
    Store.unwind status rest = rest := by
  unfold Store.unwind
  split
  next awaited below =>
    obtain ⟨child, isChild, notRoot⟩ := awaits call awaited ⟨[], below, rfl⟩
    rw [same] at isChild
    cases isChild
    rw [isRoot] at notRoot
    cases notRoot
  next => rfl

theorem unwind_of_acceptsCalls {store : Store} (accepts : store.acceptsCalls = true)
    (status : Status) : Store.unwind status store.calls = store.calls := by
  unfold Store.acceptsCalls at accepts
  unfold Store.unwind
  split
  next isFirst =>
    rw [isFirst] at accepts
    cases accepts
  next => rfl

namespace Store

variable {store : Store}

variable (validation : Validation) {address : Address} {node : StoreNode} {after : Store}
  {deletion : Deletion} {rest : List Call} {action : Action}

theorem firstChild_cases (sound : store.Sound) (there : store.heap.lookup address = some node) :
    store.firstChild address = invalidNode ∧ (childrenOf store.heap address).head? = none ∨
      ∃ child, store.firstChild address ≠ invalidNode ∧
        (childrenOf store.heap address).head? = some child ∧ child ≠ store.rootNode ∧
        store.idNodeMap.lookup (store.firstChild address) = some child := by
  by_cases noChild : store.firstChild address = invalidNode
  · have leaf := invalidNode_of_firstChild sound there noChild
    exact .inl ⟨noChild, by simp [childrenOf, there, leaf]⟩
  · right
    cases isChildren : node.childNodes with
    | nil => exact absurd (by simp [firstChild, there, isChildren]) noChild
    | cons child rest =>
      have isChild : child ∈ childrenOf store.heap address := by
        simp [childrenOf, there, isChildren]
      obtain ⟨childNode, childThere⟩ :=
        (live_iff store.heap child).mp (sound.indexed.tree.liveEnds _ _ isChild).2
      have isFirst : store.firstChild address = childNode.id := by
        simp [firstChild, there, isChildren, childThere]
      refine ⟨child, noChild, by simp [childrenOf, there, isChildren], ?_, ?_⟩
      · rintro rfl
        have hasParent := (sound.indexed.tree.links _ _).mp isChild
        rw [sound.indexed.tree.rootParent] at hasParent
        cases hasParent
      · rw [isFirst, sound.indexed.mapped]
        simp [idOf, childThere]

/-- Whether the loop of the innermost deletion reaches a child that is being deleted already.
The node of the deletion is marked then, unless it is the root. -/
def stopsHalfway (store : Store) : Bool :=
  match store.calls with
  | .deletesChildren deletion :: _ =>
      !deletion.isRoot &&
        (childrenOf store.heap deletion.nodeToDelete).head?.any (isMarked store.heap)
  | _ => false

/-- No deletion of a node reaches a child that is being deleted already. -/
def DeletesThrough (store : Store) : Action -> Prop
  | .deleteChildren => store.stopsHalfway = false
  | _ => True

instance (store : Store) (action : Action) : Decidable (store.DeletesThrough action) := by
  unfold DeletesThrough
  split <;> infer_instance

/-- What a step may do to the marks and to the nodes whose deletions have not returned: a
deletion starts with a mark and ends with its node, or nothing changes. -/
inductive Progresses (marks : Address -> Bool) (held : List Address) :
    (Address -> Bool) -> List Address -> Prop
  | keeps : Progresses marks held marks held
  | starts (address : Address) :
      marks address = false ->
      Progresses marks held (Function.update marks address true) (address :: held)
  | ends (address : Address) (rest : List Address) :
      held = address :: rest ->
      Progresses marks held (Function.update marks address false) rest

/-- A step that changes the marks and the running deletions that way. -/
def StepProgresses (before after : Store) : Prop :=
  Progresses (isMarked before.heap) (markedBy before.calls) (isMarked after.heap)
    (markedBy after.calls)

theorem StepProgresses.of_same (marks : isMarked after.heap = isMarked store.heap)
    (held : markedBy after.calls = markedBy store.calls) : store.StepProgresses after := by
  unfold StepProgresses
  rw [marks, held]
  exact .keeps

theorem deleteNode_progresses (sound : store.Sound) (id : NodeId) :
    (∃ address, store.idNodeMap.lookup id = some address ∧ isMarked store.heap address = true ∧
      store.deleteNode id = store.returns .inProgress) ∨
    (∀ address, store.idNodeMap.lookup id = some address -> isMarked store.heap address = false) ∧
      store.StepProgresses (store.deleteNode id) := by
  rcases deleteNode_cases sound id with
    ⟨unmapped, returned⟩ | ⟨address, node, isMapped, there,
      ⟨isMarked, returned⟩ | ⟨unmarked, started⟩⟩
  · refine .inr ⟨by simp [unmapped], ?_⟩
    rw [returned]
    exact .of_same rfl (markedBy_unwind_ok _)
  · exact .inl ⟨address, isMapped, (isMarked_of_lookup there).trans isMarked, returned⟩
  · have isUnmarked := (isMarked_of_lookup there).trans unmarked
    refine .inr ⟨fun other isOther => ?_, ?_⟩
    · rw [← Option.some.inj (isMapped.symm.trans isOther), isUnmarked]
    · rw [started]
      by_cases isRoot : address = store.rootNode
      · refine .of_same (by simp [isRoot]) ?_
        simp [markedBy, deletionsOf, Call.deletion, isRoot]
      · unfold StepProgresses
        simp only [isRoot, if_false, decide_false]
        rw [isMarked_mark there]
        exact .starts address isUnmarked

theorem deleteChildren_eq (isFirst : store.calls = .deletesChildren deletion :: rest) :
    store.deleteChildren =
      if store.firstChild deletion.nodeToDelete = invalidNode then
        if deletion.isRoot then
          { store with
            heap :=
              modify store.heap store.rootNode fun node =>
                { node with reportedValue := [], desiredValue := [] }
            calls := rest }.returns .ok
        else { store with calls := .reportsDeleted deletion :: rest }
      else
        { store with calls := .awaitsChild deletion :: rest }.deleteNode
          (store.firstChild deletion.nodeToDelete) := by
  unfold deleteChildren
  rw [isFirst]

theorem stopsHalfway_eq (isFirst : store.calls = .deletesChildren deletion :: rest) :
    store.stopsHalfway =
      (!deletion.isRoot &&
        (childrenOf store.heap deletion.nodeToDelete).head?.any (isMarked store.heap)) := by
  unfold stopsHalfway
  rw [isFirst]

section

variable (sound : store.Sound)

include sound

theorem deleteChildren_progresses (awaits : AwaitsChildren store.calls) :
    (store.stopsHalfway = false ∧ store.StepProgresses store.deleteChildren) ∨
    (store.stopsHalfway = true ∧ isMarked store.deleteChildren.heap = isMarked store.heap ∧
      ∃ address lost, markedBy store.calls =
        address :: lost ++ markedBy store.deleteChildren.calls) := by
  by_cases deleting : ∃ deletion rest, store.calls = .deletesChildren deletion :: rest
  · obtain ⟨deletion, rest, isFirst⟩ := deleting
    rw [deleteChildren_eq isFirst, stopsHalfway_eq isFirst]
    have guarded : Guarded store.heap store.rootNode (.deletesChildren deletion :: rest) :=
      isFirst ▸ sound.guarded
    have waits : AwaitsChildren (.deletesChildren deletion :: rest) := isFirst ▸ awaits
    obtain ⟨node, there, -⟩ := guarded.holds deletion (mem_deletionsOf List.mem_cons_self rfl)
    rcases firstChild_cases sound there with
      ⟨noChild, isLeaf⟩ | ⟨child, hasChild, isChild, notRoot, isMapped⟩
    · rw [if_pos noChild, isLeaf]
      refine .inl ⟨by simp, ?_⟩
      split
      next deletesRoot =>
        refine .of_same (isMarked_modify ?_ _ _) ?_
        · exact fun _ => rfl
        · rw [isFirst, markedBy_cons_of_root rfl deletesRoot]
          exact markedBy_unwind_ok rest
      next => exact .of_same rfl (isFirst ▸ markedBy_congr rfl rest)
    · rw [if_neg hasChild, isChild]
      have innerSound : ({ store with calls := .awaitsChild deletion :: rest } : Store).Sound :=
        ⟨sound.indexed, guarded.replace rfl (by simp)⟩
      have sameHeld : markedBy (.awaitsChild deletion :: rest) = markedBy store.calls :=
        isFirst ▸ markedBy_congr rfl rest
      rcases deleteNode_progresses innerSound (store.firstChild deletion.nodeToDelete) with
        ⟨other, isOther, marked, returned⟩ | ⟨unmarked, progresses⟩
      · obtain rfl : child = other := Option.some.inj (isMapped.symm.trans isOther)
        rw [returned]
        cases deletesRoot : deletion.isRoot with
        | true =>
          refine .inl ⟨by simp, .of_same rfl ?_⟩
          change markedBy (unwind .inProgress rest) = _
          rw [waits.unwind_of_root rfl deletesRoot, isFirst, markedBy_cons_of_root rfl deletesRoot]
        | false =>
          refine .inr ⟨by simp [marked], rfl, ?_⟩
          obtain ⟨lost, isLost⟩ := exists_markedBy_eq .inProgress rest
          refine ⟨deletion.nodeToDelete, lost, ?_⟩
          change _ = _ ++ markedBy (unwind .inProgress rest)
          rw [List.cons_append, ← isLost, isFirst, markedBy_cons_of_node rfl deletesRoot]
      · have free : isMarked store.heap child = false := unmarked child isMapped
        refine .inl ⟨by simp [free], ?_⟩
        unfold StepProgresses at progresses ⊢
        rwa [sameHeld] at progresses
  · have notDeleting : ∀ deletion rest, store.calls ≠ .deletesChildren deletion :: rest :=
      fun deletion rest isFirst => deleting ⟨deletion, rest, isFirst⟩
    have goesOn : store.stopsHalfway = false := by
      unfold stopsHalfway
      simp
    have same : store.deleteChildren = store := by
      unfold deleteChildren
      simp
    rw [goesOn, same]
    exact .inl ⟨rfl, .of_same rfl rfl⟩

theorem setNodeAttributeValue_cases (validation : Validation) (id : NodeId)
    (valueState : ValueState) (value : List UInt8) :
    store.setNodeAttributeValue validation id valueState value = store ∨
      ∃ heap, isMarked heap = isMarked store.heap ∧
        store.setNodeAttributeValue validation id valueState value =
          { store with heap := heap, calls := .reportsUpdated :: store.calls } := by
  unfold setNodeAttributeValue
  rw [sound.getNodeFromId]
  split
  · exact .inl rfl
  · cases store.idNodeMap.lookup id with
    | none => exact .inl rfl
    | some nodeToModify =>
      dsimp only
      split
      · exact .inl rfl
      · split
        · exact .inl rfl
        · split
          · exact .inr ⟨store.heap, rfl, rfl⟩
          · split
            · exact .inl rfl
            · cases valueState with
              | desired | reported =>
                exact .inr ⟨_, isMarked_modify (by exact fun _ => rfl) _ _, rfl⟩
              | desiredOrReported => exact .inl rfl

theorem callbacksReturn_progresses : store.StepProgresses store.callbacksReturn := by
  unfold callbacksReturn
  split
  next deletion rest isFirst =>
    obtain ⟨node, there, -, leaf, -⟩ := sound.of_reportsDeleted (isFirst ▸ List.mem_cons_self)
    obtain ⟨notRoot, -⟩ := sound.guarded.emptied deletion (isFirst ▸ List.mem_cons_self)
    change Progresses _ _ (isMarked (destroy store.heap deletion.nodeToDelete))
      (markedBy (unwind .ok rest))
    rw [isMarked_destroy there leaf, markedBy_unwind_ok, isFirst]
    exact .ends _ _ (markedBy_cons_of_node rfl notRoot rest)
  next isFirst => exact .of_same rfl (isFirst ▸ (markedBy_cons_of_none rfl _).symm)
  next isFirst => exact .of_same rfl (isFirst ▸ (markedBy_cons_of_none rfl _).symm)
  next => exact .of_same rfl rfl

theorem addNode_progresses (validation : Validation) (type : NodeType)
    (parentNode : NodeId) (address : Address) :
    store.StepProgresses (store.addNode validation type parentNode address).2 := by
  rcases addNode_cases sound validation type parentNode address with
    refused | ⟨newId, parent, above, there, -, fresh, -, added⟩
  · rw [refused]
    exact .of_same rfl rfl
  · rw [added]
    have differs : parent ≠ address := by
      rintro rfl
      exact fresh ((live_iff _ _).mpr ⟨above, there⟩)
    exact .of_same (isMarked_addChild differs fresh type newId) (markedBy_cons_of_none rfl _)

/-- A step that deletes through starts or ends one marked deletion, or changes no mark. -/
theorem step_progresses (awaits : AwaitsChildren store.calls)
    (validation : Validation) (deletesThrough : store.DeletesThrough action) :
    store.StepProgresses (store.step validation action) := by
  cases action with
  | addNode type parentNode address =>
    show store.StepProgresses (if store.acceptsCalls then _ else store)
    split
    · exact addNode_progresses sound validation type parentNode address
    · exact .of_same rfl rfl
  | deleteNode id =>
    show store.StepProgresses (if store.acceptsCalls then store.deleteNode id else store)
    split
    next accepts =>
      rcases deleteNode_progresses sound id with ⟨-, -, -, returned⟩ | ⟨-, progresses⟩
      · rw [returned]
        exact .of_same rfl (congrArg markedBy (unwind_of_acceptsCalls accepts .inProgress))
      · exact progresses
    next => exact .of_same rfl rfl
  | setNodeAttributeValue id valueState value =>
    show store.StepProgresses (if store.acceptsCalls then _ else store)
    split
    · rcases setNodeAttributeValue_cases sound validation id valueState value with
        refused | ⟨heap, marks, written⟩
      · exact .of_same (by rw [call, refused]) (by rw [call, refused])
      · refine .of_same (by rw [call, written]; exact marks) ?_
        rw [call, written]
        exact markedBy_cons_of_none rfl _
    · exact .of_same rfl rfl
  | deleteChildren =>
    rcases deleteChildren_progresses sound awaits with ⟨-, progresses⟩ | ⟨stops, -⟩
    · exact progresses
    · exact absurd (stops.symm.trans deletesThrough) Bool.true_eq_false.mp
  | callbacksReturn => exact callbacksReturn_progresses sound

theorem awaitsChildren_deleteNode (awaits : AwaitsChildren store.calls)
    {id : NodeId}
    (below : ∀ deletion rest, store.calls = .awaitsChild deletion :: rest ->
      store.idNodeMap.lookup id ≠ some store.rootNode) :
    AwaitsChildren (store.deleteNode id).calls := by
  rcases deleteNode_cases sound id with
    ⟨-, returned⟩ | ⟨address, node, isMapped, -, ⟨-, returned⟩ | ⟨-, started⟩⟩
  · rw [returned]
    exact awaits.unwind .ok
  · rw [returned]
    exact awaits.unwind .inProgress
  · rw [started]
    refine awaits.cons fun deletion rest isCalls => ⟨_, rfl, ?_⟩
    have notRoot := below deletion rest isCalls
    rw [isMapped, ne_eq, Option.some.injEq] at notRoot
    exact decide_eq_false notRoot

end

theorem awaitsChildren_push (awaits : AwaitsChildren store.calls)
    (accepts : store.acceptsCalls = true) (call : Call) : AwaitsChildren (call :: store.calls) := by
  refine awaits.cons fun deletion rest isCalls => ?_
  unfold acceptsCalls at accepts
  rw [isCalls] at accepts
  cases accepts

/-- Every step leaves the deletions waiting for their children. -/
theorem awaitsChildren_step (sound : store.Sound) (awaits : AwaitsChildren store.calls)
    (validation : Validation) (action : Action) :
    AwaitsChildren (store.step validation action).calls := by
  cases action with
  | addNode type parentNode address =>
    show AwaitsChildren (if store.acceptsCalls then _ else store).calls
    split
    next accepts =>
      rcases addNode_cases sound validation type parentNode address with
        refused | ⟨newId, _, _, _, _, _, _, added⟩
      · rw [call, refused]
        exact awaits
      · rw [call, added]
        exact awaitsChildren_push awaits accepts _
    next => exact awaits
  | deleteNode id =>
    show AwaitsChildren (if store.acceptsCalls then store.deleteNode id else store).calls
    split
    next accepts =>
      refine awaitsChildren_deleteNode sound awaits fun deletion rest isCalls => ?_
      unfold acceptsCalls at accepts
      rw [isCalls] at accepts
      cases accepts
    next => exact awaits
  | setNodeAttributeValue id valueState value =>
    show AwaitsChildren (if store.acceptsCalls then _ else store).calls
    split
    next accepts =>
      rcases setNodeAttributeValue_cases sound validation id valueState value with
        refused | ⟨heap, -, written⟩
      · rw [call, refused]
        exact awaits
      · rw [call, written]
        exact awaitsChildren_push awaits accepts _
    next => exact awaits
  | deleteChildren =>
    show AwaitsChildren store.deleteChildren.calls
    by_cases deleting : ∃ deletion rest, store.calls = .deletesChildren deletion :: rest
    · obtain ⟨deletion, rest, isFirst⟩ := deleting
      rw [deleteChildren_eq isFirst]
      rw [isFirst] at awaits
      have guarded : Guarded store.heap store.rootNode (.deletesChildren deletion :: rest) :=
        isFirst ▸ sound.guarded
      obtain ⟨node, there, -⟩ := guarded.holds deletion (mem_deletionsOf List.mem_cons_self rfl)
      rcases firstChild_cases sound there with
        ⟨noChild, -⟩ | ⟨child, hasChild, -, notRoot, isMapped⟩
      · rw [if_pos noChild]
        split
        · exact awaits.tail.unwind .ok
        · exact awaits.replace rfl
      · rw [if_neg hasChild]
        have innerSound : ({ store with calls := .awaitsChild deletion :: rest } : Store).Sound :=
          ⟨sound.indexed, guarded.replace rfl (by simp)⟩
        refine awaitsChildren_deleteNode innerSound (awaits.replace rfl) fun _ _ _ => ?_
        change store.idNodeMap.lookup _ ≠ _
        rw [isMapped]
        simpa using notRoot
    · unfold deleteChildren
      split
      next deletion rest isFirst => exact absurd ⟨deletion, rest, isFirst⟩ deleting
      next => exact awaits
  | callbacksReturn =>
    show AwaitsChildren store.callbacksReturn.calls
    unfold callbacksReturn
    split
    next isFirst => exact (isFirst ▸ awaits).tail.unwind .ok
    next isFirst => exact (isFirst ▸ awaits).tail
    next isFirst => exact (isFirst ▸ awaits).tail
    next => exact awaits

/-- Every marked node is being deleted. -/
def MarksHeld (store : Store) : Prop :=
  ∀ address, isMarked store.heap address = true -> address ∈ markedBy store.calls

theorem StepProgresses.marksHeld (progresses : store.StepProgresses after)
    (held : store.MarksHeld) :
    after.MarksHeld := by
  unfold StepProgresses at progresses
  unfold MarksHeld at held ⊢
  generalize isMarked after.heap = marks at progresses ⊢
  generalize markedBy after.calls = still at progresses ⊢
  cases progresses with
  | keeps => exact held
  | starts first unmarked =>
    intro address marked
    rw [Function.update_apply] at marked
    split at marked
    next same => exact same ▸ List.mem_cons_self
    next => exact List.mem_cons_of_mem _ (held address marked)
  | ends first rest innermost =>
    intro address marked
    rw [Function.update_apply] at marked
    split at marked
    next => cases marked
    next differs =>
      have inHeld := held address marked
      rw [innermost] at inHeld
      exact (List.mem_cons.mp inHeld).resolve_left differs

/-- A node is marked although it is not being deleted any more. -/
def Abandoned (store : Store) (address : Address) : Prop :=
  isMarked store.heap address = true ∧ address ∉ markedBy store.calls

theorem StepProgresses.abandoned (progresses : store.StepProgresses after)
    (abandoned : store.Abandoned address) : after.Abandoned address := by
  obtain ⟨marked, notHeld⟩ := abandoned
  unfold StepProgresses at progresses
  unfold Abandoned
  generalize isMarked after.heap = marks at progresses ⊢
  generalize markedBy after.calls = still at progresses ⊢
  cases progresses with
  | keeps => exact ⟨marked, notHeld⟩
  | starts first unmarked =>
    have differs : address ≠ first := by
      rintro rfl
      rw [unmarked] at marked
      cases marked
    refine ⟨by rwa [Function.update_of_ne differs], fun inHeld => ?_⟩
    exact notHeld ((List.mem_cons.mp inHeld).resolve_left differs)
  | ends first rest innermost =>
    rw [innermost] at notHeld
    have differs : address ≠ first := fun same => notHeld (same ▸ List.mem_cons_self)
    refine ⟨by rwa [Function.update_of_ne differs], fun inHeld => ?_⟩
    exact notHeld (List.mem_cons_of_mem _ inHeld)

/-- A deletion that stops halfway leaves its marks behind. -/
theorem step_abandons (sound : store.Sound) (awaits : AwaitsChildren store.calls)
    (validation : Validation) (stops : ¬store.DeletesThrough action) :
    isMarked (store.step validation action).heap = isMarked store.heap ∧
      ∃ address lost, markedBy store.calls =
        address :: lost ++ markedBy (store.step validation action).calls := by
  cases action with
  | deleteChildren =>
    rcases deleteChildren_progresses sound awaits with ⟨through, -⟩ | ⟨-, gaveUp⟩
    · exact absurd through stops
    · exact gaveUp
  | _ => exact absurd trivial stops

/-- A node whose deletion was abandoned stays so. -/
theorem Abandoned.step (sound : store.Sound) (awaits : AwaitsChildren store.calls)
    (validation : Validation) (action : Action) (abandoned : store.Abandoned address) :
    (store.step validation action).Abandoned address := by
  by_cases through : store.DeletesThrough action
  · exact (step_progresses sound awaits validation through).abandoned abandoned
  · obtain ⟨sameMarks, first, lost, split⟩ := step_abandons sound awaits validation through
    refine ⟨sameMarks ▸ abandoned.1, fun inHeld => abandoned.2 ?_⟩
    rw [split]
    exact List.mem_append_right _ inHeld

theorem exists_abandoned_of_stops (sound : store.Sound) (awaits : AwaitsChildren store.calls)
    (validation : Validation) (stops : ¬store.DeletesThrough action) :
    ∃ address, (store.step validation action).Abandoned address := by
  obtain ⟨sameMarks, address, lost, split⟩ := step_abandons sound awaits validation stops
  have inHeld : address ∈ markedBy store.calls := by
    rw [split]
    exact List.mem_cons_self
  obtain ⟨node, there, marked⟩ := sound.guarded.marked inHeld
  have distinct := sound.guarded.distinct
  rw [split, List.cons_append, List.nodup_cons] at distinct
  refine ⟨address, ?_, fun inHeld => distinct.1 (List.mem_append_right _ inHeld)⟩
  rw [sameMarks, isMarked_of_lookup there, marked]

/-- What holds in every state of every run. -/
structure Orderly (store : Store) : Prop where
  sound : store.Sound
  awaits : AwaitsChildren store.calls

/-- Every step keeps the pending deletions orderly. -/
theorem Orderly.step (orderly : store.Orderly) (validation : Validation) (action : Action) :
    (store.step validation action).Orderly :=
  ⟨orderly.sound.step validation action,
    awaitsChildren_step orderly.sound orderly.awaits validation action⟩

theorem marksHeld_run_iff (orderly : store.Orderly) (held : store.MarksHeld)
    (actions : List Action) :
    (run (step validation) store actions).MarksHeld ↔
      StepsMeet (step validation) DeletesThrough store actions := by
  induction actions generalizing store with
  | nil => exact iff_of_true held trivial
  | cons action rest ih =>
    rw [run_cons]
    have next := orderly.step validation action
    by_cases through : store.DeletesThrough action
    · have nextHeld :=
        (step_progresses orderly.sound orderly.awaits validation through).marksHeld held
      rw [ih next nextHeld]
      exact (and_iff_right through).symm
    · refine iff_of_false (fun heldAtEnd => ?_) fun meets => through meets.1
      obtain ⟨address, abandoned⟩ :=
        exists_abandoned_of_stops orderly.sound orderly.awaits validation through
      have stays := run_invariant
        (fun state : Store => state.Orderly ∧ state.Abandoned address)
        (fun state action ⟨orderly, abandoned⟩ => ⟨orderly.step validation action,
          abandoned.step orderly.sound orderly.awaits validation action⟩)
        ⟨next, abandoned⟩ rest
      exact stays.2.2 (heldAtEnd address stays.2.1)

/-- A node is not marked: it can be deleted, its values can be written, and children can be
added to it. -/
structure Usable
    (validation : Validation)
    (store : Store)
    (address : Address)
    (node : StoreNode) : Prop where
  unmarked : node.undergoingDeletion = false
  deletable : (store.deleteNode node.id).calls =
    .deletesChildren ⟨address, node.id, decide (address = store.rootNode)⟩ :: store.calls
  reportable : ∀ value, validation.isWriteOperationValid node.type value = true ->
    ((store.setNodeAttributeValue validation node.id .reported value).heap.lookup address).map
      (·.reportedValue) = some value
  desirable : ∀ value, validation.isWriteOperationValid node.type value = true ->
    ((store.setNodeAttributeValue validation node.id .desired value).heap.lookup address).map
      (·.desiredValue) = some value
  extendable : store.idNodeMap.length + 2 < 2 ^ 32 -> ∀ type newAddress,
    type ≠ invalidAttributeType -> validation.isNodeAdditionValid type node.type = true ->
    ¬Live store.heap newAddress ->
    (store.addNode validation type node.id newAddress).1.isSome = true

theorem usable_of_unmarked (sound : store.Sound) (validation : Validation)
    (there : store.heap.lookup address = some node) (unmarked : node.undergoingDeletion = false) :
    Usable validation store address node := by
  have itsId : idOf store.heap address = some node.id := by simp [idOf, there]
  have isMapped := (sound.indexed.mapped node.id address).mpr itsId
  have valid : node.id ≠ invalidNode := fun same => sound.indexed.valid address (same ▸ itsId)
  refine ⟨unmarked, ?_, ?_, ?_, ?_⟩
  · rcases deleteNode_cases sound node.id with
      ⟨unmapped, -⟩ | ⟨other, otherNode, isOther, otherThere, ⟨marked, -⟩ | ⟨-, started⟩⟩
    · rw [unmapped] at isMapped
      cases isMapped
    · obtain rfl : address = other := Option.some.inj (isMapped.symm.trans isOther)
      rw [there] at otherThere
      cases otherThere
      rw [unmarked] at marked
      cases marked
    · obtain rfl : address = other := Option.some.inj (isMapped.symm.trans isOther)
      rw [started]
  · intro value isValid
    unfold setNodeAttributeValue
    simp only [if_neg valid, sound.getNodeFromId, isMapped, there, unmarked,
      Bool.false_eq_true, if_false]
    by_cases identical : node.reportedValue = value
    · simp [isValueIdentical, identical, there]
    · simp [isValueIdentical, identical, isValid, lookup_modify, there]
  · intro value isValid
    unfold setNodeAttributeValue
    simp only [if_neg valid, sound.getNodeFromId, isMapped, there, unmarked,
      Bool.false_eq_true, if_false]
    by_cases identical : node.desiredValue = value
    · simp [isValueIdentical, identical, there]
    · simp [isValueIdentical, identical, isValid, lookup_modify, there]
  · intro room type newAddress typed allowed fresh
    obtain ⟨newId, isNext⟩ := Option.isSome_iff_exists.mp (getNextId_isSome room)
    have free : hasKey store.heap newAddress = false := by simpa [Live] using fresh
    unfold addNode
    simp [if_neg typed, sound.getNodeFromId, isMapped, there, unmarked, allowed, free, isNext]

theorem orderly_initial (rootNode : Address) (lastAssignedId : NodeId) :
    (initial rootNode lastAssignedId).Orderly := by
  refine ⟨sound_initial rootNode lastAssignedId, fun call deletion pair => ?_⟩
  cases List.infix_nil.mp pair

theorem marksHeld_initial (rootNode : Address) (lastAssignedId : NodeId) :
    (initial rootNode lastAssignedId).MarksHeld := by
  intro address marked
  change ((List.lookup address [(rootNode, _)]).map _).getD false = true at marked
  rw [lookup_cons_map] at marked
  split at marked <;> cases marked

/-- When the outermost call of a run has returned, every node that is left is usable exactly
when no deletion of a node reached a child that was being deleted already. -/
theorem nodes_usable_iff (validation : Validation) (rootNode : Address) (lastAssignedId : NodeId)
    {actions : List Action}
    (returned : (run (step validation) (initial rootNode lastAssignedId) actions).calls = []) :
    (∀ address node,
      (run (step validation) (initial rootNode lastAssignedId) actions).heap.lookup address =
        some node ->
      Usable validation (run (step validation) (initial rootNode lastAssignedId) actions)
        address node) ↔
      StepsMeet (step validation) DeletesThrough (initial rootNode lastAssignedId) actions := by
  have orderly : (run (step validation) (initial rootNode lastAssignedId) actions).Orderly :=
    run_invariant Orderly (fun _ action orderly => orderly.step validation action)
      (orderly_initial rootNode lastAssignedId) actions
  rw [← marksHeld_run_iff validation (orderly_initial rootNode lastAssignedId)
    (marksHeld_initial rootNode lastAssignedId)]
  generalize run (step validation) (initial rootNode lastAssignedId) actions = last
    at returned orderly
  constructor
  · intro usable address marked
    cases there : last.heap.lookup address with
    | none => simp [isMarked, there] at marked
    | some node =>
      rw [isMarked_of_lookup there, (usable address node there).unmarked] at marked
      cases marked
  · intro held address node there
    refine usable_of_unmarked orderly.sound validation there ?_
    rw [← isMarked_of_lookup there, ← Bool.not_eq_true]
    intro marked
    have inHeld := held address marked
    rw [returned] at inHeld
    cases inHeld

/-- A callback that tries to delete the node above the deleted one, whose deletion is running,
does no harm. -/
theorem nodes_usable_deletesWithinDeletion :
    (run (step noValidation) (initial 100 0) deletesWithinDeletion).calls = [] ∧
      ∀ address node,
        (run (step noValidation) (initial 100 0) deletesWithinDeletion).heap.lookup address =
          some node ->
        Usable noValidation (run (step noValidation) (initial 100 0) deletesWithinDeletion)
          address node :=
  ⟨by decide, (nodes_usable_iff noValidation 100 0 (by decide)).mpr (by decide)⟩

/-- A node with a child; the child is deleted, and the callback for it deletes the node. -/
def deletesParentInCallback : List Action :=
  [.addNode 2 1 200, .callbacksReturn, .addNode 3 2 300, .callbacksReturn, .deleteNode 3,
    .deleteChildren, .deleteNode 2, .deleteChildren, .callbacksReturn]

/-- The node is left with its mark. -/
theorem marked_after_deletesParentInCallback :
    (run (step noValidation) (initial 100 0) deletesParentInCallback).calls = [] ∧
      (run (step noValidation) (initial 100 0) deletesParentInCallback).idNodeMap =
        [(2, 200), (1, 100)] ∧
      ∃ node,
        (run (step noValidation) (initial 100 0) deletesParentInCallback).heap.lookup 200 =
          some node ∧ node.undergoingDeletion = true ∧ node.childNodes = [] :=
  ⟨by decide, by decide, _, rfl, by decide, by decide⟩

end Store

end AttributeStore
