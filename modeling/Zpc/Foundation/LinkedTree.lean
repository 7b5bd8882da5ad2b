import Mathlib.Data.List.Nodup
import Mathlib.Logic.ExistsUnique

/-!
# Trees of linked objects

Objects at addresses hold the address of their parent and the list of the
addresses of their children.  They form a tree when the two kinds of links agree
and every live object can be reached from the root.  A leaf may be attached below
a live object and taken away again.
-/

namespace Foundation

/-- A path from the root down to an object, given by the objects above it, the
nearest first. -/
inductive PathTo {Address : Type*} (children : Address -> List Address) (root : Address) :
    Address -> List Address -> Prop
  | root : PathTo children root root []
  | child {above address : Address} {path : List Address} :
      PathTo children root above path -> address ∈ children above ->
      PathTo children root address (above :: path)

/-- The live objects are a tree below the root.  Objects that are not live have
no links. -/
structure LinkedTree
    {Address : Type*}
    (live : Address -> Prop)
    (children : Address -> List Address)
    (parent : Address -> Option Address)
    (root : Address) : Prop where
  rootLive : live root
  rootParent : parent root = none
  links : ∀ above address, address ∈ children above ↔ parent address = some above
  liveEnds : ∀ above address, address ∈ children above -> live above ∧ live address
  nodup : ∀ address, (children address).Nodup
  reached : ∀ address, live address -> ∃ path, PathTo children root address path

variable {Address : Type*}

namespace LinkedTree

variable {live : Address -> Prop} {children : Address -> List Address}
  {parent : Address -> Option Address} {root : Address}

variable {address : Address} {path : List Address}

theorem live_of_pathTo (tree : LinkedTree live children parent root)
    (reached : PathTo children root address path) : live address := by
  cases reached with
  | root => exact tree.rootLive
  | child _ isChild => exact (tree.liveEnds _ _ isChild).2

theorem pathTo_unique (tree : LinkedTree live children parent root) {first second : List Address}
    (firstPath : PathTo children root address first)
    (secondPath : PathTo children root address second) : first = second := by
  induction firstPath generalizing second with
  | root =>
    cases secondPath with
    | root => rfl
    | child _ isChild =>
      have above := (tree.links _ _).mp isChild
      rw [tree.rootParent] at above
      cases above
  | child _ isChild ih =>
    have above := (tree.links _ _).mp isChild
    cases secondPath with
    | root =>
      rw [tree.rootParent] at above
      cases above
    | child restPath isOtherChild =>
      have otherAbove := (tree.links _ _).mp isOtherChild
      rw [above] at otherAbove
      cases otherAbove
      rw [ih restPath]

theorem exists_shorter_of_mem {children : Address -> List Address} {root : Address}
    (reached : PathTo children root address path) {other : Address} (onPath : other ∈ path) :
    ∃ shorter, PathTo children root other shorter ∧ shorter.length < path.length := by
  induction reached with
  | root => cases onPath
  | @child above address path abovePath isChild ih =>
    rcases List.mem_cons.mp onPath with rfl | onRest
    · exact ⟨path, abovePath, Nat.lt_succ_self path.length⟩
    · obtain ⟨shorter, otherPath, isShorter⟩ := ih onRest
      exact ⟨shorter, otherPath, Nat.lt_trans isShorter (Nat.lt_succ_self path.length)⟩

theorem nodup_of_pathTo (tree : LinkedTree live children parent root)
    (reached : PathTo children root address path) : (address :: path).Nodup := by
  induction reached with
  | root => exact List.nodup_singleton root
  | @child above address path abovePath isChild ih =>
    refine List.nodup_cons.mpr ⟨fun onPath => ?_, ih⟩
    have whole := abovePath.child isChild
    obtain ⟨shorter, otherPath, isShorter⟩ := exists_shorter_of_mem whole onPath
    rw [tree.pathTo_unique otherPath whole] at isShorter
    exact Nat.lt_irrefl _ isShorter

theorem existsUnique_pathTo (tree : LinkedTree live children parent root) (isLive : live address) :
    ∃! path, PathTo children root address path := by
  obtain ⟨path, reached⟩ := tree.reached address isLive
  exact ⟨path, reached, fun other otherReached => tree.pathTo_unique otherReached reached⟩

theorem length_lt_of_pathTo (tree : LinkedTree live children parent root)
    (reached : PathTo children root address path) {objects : List Address}
    (complete : ∀ other, live other -> other ∈ objects) : path.length < objects.length := by
  have among : address :: path ⊆ objects := by
    intro other onWay
    apply complete
    rcases List.mem_cons.mp onWay with rfl | onPath
    · exact tree.live_of_pathTo reached
    · obtain ⟨shorter, otherPath, -⟩ := exists_shorter_of_mem reached onPath
      exact tree.live_of_pathTo otherPath
  exact (tree.nodup_of_pathTo reached).length_le_of_subset among

end LinkedTree

variable {children : Address -> List Address} {address : Address}

theorem PathTo.eq_root {root : Address} (reached : PathTo children root address []) :
    address = root := by
  cases reached
  rfl

variable {path : List Address}

theorem PathTo.above {root above : Address} (reached : PathTo children root address (above :: path))
    :
    PathTo children root above path ∧ address ∈ children above := by
  cases reached with
  | child abovePath isChild => exact ⟨abovePath, isChild⟩

theorem PathTo.exists_first {root above : Address}
    (reached : PathTo children root address (above :: path)) :
    ∃ child ∈ children root, ∃ rest,
      PathTo children child address rest ∧ rest.length = path.length := by
  induction path generalizing address above with
  | nil =>
    cases reached with
    | child abovePath isChild =>
      cases abovePath
      exact ⟨address, isChild, [], .root, rfl⟩
  | cons next path ih =>
    cases reached with
    | child abovePath isChild =>
      obtain ⟨child, isFirst, rest, restPath, sameLength⟩ := ih abovePath
      exact ⟨child, isFirst, above :: rest, restPath.child isChild, by simp [sameLength]⟩

theorem PathTo.mono {more : Address -> List Address} {root : Address}
    (grows : ∀ above address, address ∈ children above -> address ∈ more above)
    (reached : PathTo children root address path) : PathTo more root address path := by
  induction reached with
  | root => exact .root
  | child _ isChild ih => exact ih.child (grows _ _ isChild)

variable [DecidableEq Address]

theorem LinkedTree.attach {live attachedLive : Address -> Prop}
    {children attachedChildren : Address -> List Address}
    {parent attachedParent : Address -> Option Address} {root leaf above : Address}
    (tree : LinkedTree live children parent root) (fresh : ¬live leaf) (aboveLive : live above)
    (livesAfter : ∀ address, attachedLive address ↔ live address ∨ address = leaf)
    (childrenAfter : ∀ address, attachedChildren address =
      if address = above then children address ++ [leaf] else children address)
    (parentAfter : ∀ address, attachedParent address =
      if address = leaf then some above else parent address) :
    LinkedTree attachedLive attachedChildren attachedParent root := by
  have notChild : ∀ address, leaf ∉ children address := fun address isChild =>
    fresh (tree.liveEnds _ _ isChild).2
  have memAfter : ∀ address other, other ∈ attachedChildren address ↔
      other ∈ children address ∨ (address = above ∧ other = leaf) := by
    intro address other
    rw [childrenAfter]
    by_cases same : address = above
    all_goals simp [same]
  have rootNotLeaf : root ≠ leaf := by
    rintro rfl
    exact fresh tree.rootLive
  refine ⟨(livesAfter root).mpr (.inl tree.rootLive), ?_, ?_, ?_, ?_, ?_⟩
  · rw [parentAfter, if_neg rootNotLeaf]
    exact tree.rootParent
  · intro address other
    rw [memAfter, parentAfter]
    by_cases isLeaf : other = leaf
    · subst isLeaf
      simp [notChild, eq_comm]
    · simp [isLeaf, tree.links]
  · intro address other isChild
    rw [livesAfter, livesAfter]
    rcases (memAfter address other).mp isChild with before | ⟨rfl, rfl⟩
    · exact ⟨.inl (tree.liveEnds _ _ before).1, .inl (tree.liveEnds _ _ before).2⟩
    · exact ⟨.inl aboveLive, .inr rfl⟩
  · intro address
    rw [childrenAfter]
    split
    · exact (tree.nodup address).append (List.nodup_singleton leaf) (by
        simpa using notChild address)
    · exact tree.nodup address
  · have grown : ∀ {address path}, PathTo children root address path ->
        PathTo attachedChildren root address path := fun reached =>
      reached.mono fun address other isChild => (memAfter address other).mpr (.inl isChild)
    intro address isLive
    rcases (livesAfter address).mp isLive with before | rfl
    · obtain ⟨path, reached⟩ := tree.reached address before
      exact ⟨path, grown reached⟩
    · obtain ⟨path, reached⟩ := tree.reached above aboveLive
      exact ⟨_, (grown reached).child ((memAfter above address).mpr (.inr ⟨rfl, rfl⟩))⟩

theorem LinkedTree.detach {live detachedLive : Address -> Prop}
    {children detachedChildren : Address -> List Address}
    {parent detachedParent : Address -> Option Address} {root leaf : Address}
    (tree : LinkedTree live children parent root) (notRoot : leaf ≠ root)
    (isLeaf : children leaf = [])
    (livesAfter : ∀ address, detachedLive address ↔ live address ∧ address ≠ leaf)
    (childrenAfter : ∀ address, detachedChildren address =
      (children address).filter fun other => other ≠ leaf)
    (parentAfter : ∀ address, detachedParent address =
      if address = leaf then none else parent address) :
    LinkedTree detachedLive detachedChildren detachedParent root := by
  have memAfter : ∀ address other, other ∈ detachedChildren address ↔
      other ∈ children address ∧ other ≠ leaf := by
    intro address other
    rw [childrenAfter]
    simp
  refine ⟨(livesAfter root).mpr ⟨tree.rootLive, notRoot.symm⟩, ?_, ?_, ?_, ?_, ?_⟩
  · rw [parentAfter, if_neg notRoot.symm]
    exact tree.rootParent
  · intro address other
    rw [memAfter, parentAfter, tree.links]
    by_cases same : other = leaf <;> simp [same]
  · intro address other isChild
    obtain ⟨before, differs⟩ := (memAfter address other).mp isChild
    obtain ⟨aboveLive, isLive⟩ := tree.liveEnds _ _ before
    rw [livesAfter, livesAfter]
    refine ⟨⟨aboveLive, ?_⟩, isLive, differs⟩
    rintro rfl
    rw [isLeaf] at before
    cases before
  · intro address
    rw [childrenAfter]
    exact (tree.nodup address).filter _
  · have kept : ∀ {address path}, PathTo children root address path -> address ≠ leaf ->
        PathTo detachedChildren root address path := by
      intro address path reached
      induction reached with
      | root => exact fun _ => .root
      | @child above address path _ isChild ih =>
        intro differs
        have aboveDiffers : above ≠ leaf := by
          rintro rfl
          rw [isLeaf] at isChild
          cases isChild
        exact (ih aboveDiffers).child ((memAfter above address).mpr
          ⟨isChild, differs⟩)
    intro address isLive
    obtain ⟨before, differs⟩ := (livesAfter address).mp isLive
    obtain ⟨path, reached⟩ := tree.reached address before
    exact ⟨path, kept reached differs⟩

end Foundation
