import Mathlib.Data.List.Basic

/-!
# Singly linked queues

The cells of a memory hold an item and the address of the next cell.  The cells
that are reached from a link, with their items, are a chain.  A cell is added
behind the last one, and the first one is taken away.
-/

namespace Foundation

/-- A cell of a linked list. -/
structure Cell (Address Item : Type*) where
  /-- The address of the cell that follows. -/
  next : Option Address
  /-- What the cell holds. -/
  item : Item

variable {Address Item : Type*}

/-- The address of the first cell. -/
def firstAddress (entries : List (Address × Item)) : Option Address := entries.head?.map Prod.fst

/-- The cells that are reached from a link, with their items. -/
def Chain (memory : Address -> Option (Cell Address Item)) :
    Option Address -> List (Address × Item) -> Prop
  | link, [] => link = none
  | link, (address, item) :: rest =>
      link = some address ∧ ∃ next, memory address = some ⟨next, item⟩ ∧ Chain memory next rest

/-- At least so many cells are reached from a link. -/
def reaches (memory : Address -> Option (Cell Address Item)) : Nat -> Option Address -> Bool
  | 0, _ => true
  | _ + 1, none => false
  | count + 1, some address => (memory address).any fun cell => reaches memory count cell.next

variable {memory other : Address -> Option (Cell Address Item)} {link : Option Address}
  {entries before after : List (Address × Item)} {address : Address} {item : Item}

/-- A chain starts at the link. -/
theorem Chain.link_eq (chain : Chain memory link entries) : link = firstAddress entries := by
  cases entries with
  | nil => exact chain
  | cons entry rest => exact chain.1

/-- A chain is kept by every change of the memory outside its cells. -/
theorem Chain.congr (chain : Chain memory link entries)
    (same : ∀ address ∈ entries.map Prod.fst, other address = memory address) :
    Chain other link entries := by
  induction entries generalizing link with
  | nil => exact chain
  | cons entry rest ih =>
    obtain ⟨isFirst, next, held, later⟩ := chain
    refine ⟨isFirst, next, (same _ (by simp)).trans held, ih later fun address mem => ?_⟩
    exact same address (List.mem_cons_of_mem _ mem)

/-- A cell of a chain points to the next one. -/
theorem Chain.cell (chain : Chain memory link (before ++ (address, item) :: after)) :
    memory address = some ⟨firstAddress after, item⟩ := by
  induction before generalizing link with
  | nil =>
    obtain ⟨-, next, held, later⟩ := chain
    rw [held, later.link_eq]
  | cons entry rest ih =>
    obtain ⟨-, next, -, later⟩ := chain
    exact ih later

/-- The cells of a chain are allocated. -/
theorem Chain.isSome (chain : Chain memory link entries) (mem : address ∈ entries.map Prod.fst) :
    (memory address).isSome := by
  obtain ⟨⟨same, item⟩, isEntry, rfl⟩ := List.mem_map.mp mem
  obtain ⟨before, after, rfl⟩ := List.append_of_mem isEntry
  rw [chain.cell]
  rfl

/-- The length of a chain is counted along its links. -/
theorem Chain.reaches (chain : Chain memory link entries) (count : Nat) :
    reaches memory count link = decide (count ≤ entries.length) := by
  induction entries generalizing link count with
  | nil => cases count <;> simp [reaches, show link = none from chain]
  | cons entry rest ih =>
    obtain ⟨rfl, next, held, later⟩ := chain
    cases count with
    | zero => simp [reaches]
    | succ count => simp [reaches, held, ih later count]

/-- A new cell is linked behind the last one. -/
theorem Chain.append [DecidableEq Address] {newAddress : Address} {newItem : Item}
    (chain : Chain memory link (before ++ [(address, item)]))
    (nodup : ((before ++ [(address, item)]).map Prod.fst).Nodup)
    (held : memory newAddress = some ⟨none, newItem⟩) (isNew : newAddress ≠ address) :
    Chain (Function.update memory address (some ⟨some newAddress, item⟩)) link
      (before ++ [(address, item), (newAddress, newItem)]) := by
  induction before generalizing link with
  | nil =>
    obtain ⟨rfl, -⟩ := chain
    refine ⟨rfl, some newAddress, Function.update_self .., rfl, none, ?_, rfl⟩
    rw [Function.update_of_ne isNew, held]
  | cons entry rest ih =>
    obtain ⟨rfl, next, heldFirst, later⟩ := chain
    rw [List.cons_append, List.map_cons, List.nodup_cons] at nodup
    refine ⟨rfl, next, ?_, ih later nodup.2⟩
    rw [Function.update_of_ne (fun same => nodup.1 (by simp [same])), heldFirst]

end Foundation
