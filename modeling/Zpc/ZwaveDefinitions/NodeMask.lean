import Mathlib.Data.List.Basic
import Mathlib.Data.Nat.Bitwise

/-!
# Node ids and node masks

A node mask is an array of bytes with one bit per node.  The bits of the classic nodes
start with node 1 in the first byte, those of the Long Range nodes stand where their ids
say, and the ids between them have no bit.
-/

namespace ZwaveDefinitions

def zwMaxNodes : Nat := 232

def zwLrMinNodeId : Nat := 256

def zwLrMaxNodeId : Nat := 4000

/-- `ZW_LR_MAX_NODEMASK_LENGTH`, the number of bytes of a `zwave_nodemask_t`. -/
def zwLrMaxNodemaskLength : Nat := zwLrMaxNodeId / 8 + 1

def zwMaxNodemaskLength : Nat := zwMaxNodes / 8

def zwLrNodemaskOffset : Nat := zwLrMinNodeId / 8

def isZwaveNodeId (node : Nat) : Bool := decide (0 < node) && decide (node ≤ zwMaxNodes)

def isZwaveExtendedNodeId (node : Nat) : Bool :=
  decide (zwLrMinNodeId ≤ node) && decide (node ≤ zwLrMaxNodeId)

variable {node : Nat}

theorem isZwaveNodeId_iff : isZwaveNodeId node = true ↔ 0 < node ∧ node ≤ 232 := by
  unfold isZwaveNodeId
  rw [Bool.and_eq_true, decide_eq_true_iff, decide_eq_true_iff]
  rfl

theorem isZwaveExtendedNodeId_iff :
    isZwaveExtendedNodeId node = true ↔ 256 ≤ node ∧ node ≤ 4000 := by
  unfold isZwaveExtendedNodeId
  rw [Bool.and_eq_true, decide_eq_true_iff, decide_eq_true_iff]
  rfl

variable (mask : List UInt8)

/-- A bit of a byte of a mask. -/
def maskBit (position : Nat) : Bool :=
  (mask.getD (position / 8) 0).toNat.testBit (position % 8)

/-- `ZW_IS_NODE_IN_MASK`. -/
def isNodeInMask (node : Nat) (mask : List UInt8) : Bool :=
  if isZwaveNodeId node then maskBit mask (node - 1)
  else if isZwaveExtendedNodeId node then maskBit mask node
  else false

/-- A mask with a bit set. -/
def setMaskBit (position : Nat) : List UInt8 :=
  mask.set (position / 8) (mask.getD (position / 8) 0 ||| UInt8.ofNat (2 ^ (position % 8)))

/-- `ZW_ADD_NODE_TO_MASK`. -/
def addNodeToMask (node : Nat) (mask : List UInt8) : List UInt8 :=
  if isZwaveNodeId node then setMaskBit mask (node - 1)
  else if isZwaveExtendedNodeId node then setMaskBit mask node
  else mask

/-- A mask without nodes. -/
def emptyMask : List UInt8 := List.replicate zwLrMaxNodemaskLength 0

/-- The nodes of a mask in the order of their ids. -/
def nodesInMask : List Nat :=
  (List.range' 1 zwLrMaxNodeId).filter fun node => isNodeInMask node mask

theorem not_isNodeInMask_zero : isNodeInMask 0 mask = false := rfl

end ZwaveDefinitions
