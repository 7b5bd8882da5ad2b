import Zpc.SerialApi.RoundTrip
import Zpc.SerialApi.Session

/-!
# Frames for the upper layer

`zwave_api_protocol_rx_dispatch` takes the fields of a received frame apart and
hands them to a callback.  The modelled cases are those that hand over commands
and the start-up payload; the other function ids use other callbacks.
-/

namespace SerialApi

/-- `zwapi_get_node_id_basetype`. -/
inductive NodeIdBasetype
  | nodeId8Bits
  | nodeId16Bits
  deriving DecidableEq

def requestBufferSize : Nat := 180

def rssiNotAvailable : UInt8 := 127

def funcIdApplicationCommandHandler : UInt8 := 0x04

def funcIdSerialApiStarted : UInt8 := 0x0A

def funcIdApplicationCommandHandlerBridge : UInt8 := 0xA8

def funcIdPromiscuousApplicationCommandHandler : UInt8 := 0xD1

/-- What a callback is handed. -/
inductive Delivery
  | zwapiStarted (data : List UInt8)
  | applicationCommandHandler
      (rxStatus : UInt8) (destination source : Nat) (command : List UInt8) (rssi : UInt8)
  | applicationCommandHandlerBridge
      (rxStatus : UInt8) (destination source : Nat) (command : List UInt8) (rssi : UInt8)

/-- A byte of the buffer of a frame. -/
def byteAt (pData : List UInt8) (index : Nat) : UInt8 := pData.getD index 0

/-- An index has 8 bits. -/
def wrap (index : Nat) : Nat := index % 256

/-- `zwapi_read_node_id`: the node id and the next index. -/
def readNodeId (basetype : NodeIdBasetype) (pData : List UInt8) (index : Nat) : Nat × Nat :=
  match basetype with
  | .nodeId16Bits =>
      (256 * (byteAt pData index).toNat + (byteAt pData (wrap (index + 1))).toNat, wrap (index + 2))
  | .nodeId8Bits => ((byteAt pData index).toNat, wrap (index + 1))

/-- The command that is copied to `zwapi_command_buffer`, and the next index. -/
def readCommand (pData : List UInt8) (index length : Nat) : List UInt8 × Nat :=
  ((List.range length).map fun offset => byteAt pData (wrap (index + offset)),
    wrap (index + length))

/-- The RSSI, when the frame has a byte for it. -/
def readRssi (pData : List UInt8) (len index : Nat) : UInt8 :=
  if index < len then byteAt pData index else rssiNotAvailable

/-- The index after a node mask whose length byte is at an index. -/
def skipNodeMask (pData : List UInt8) (index : Nat) : Nat :=
  wrap (index + ((byteAt pData index).toNat + 1))

/-- The length of the start-up payload.  The checksum is stripped off once more. -/
def startedLength (len : Nat) : Nat := min ((len + 256 - 3 - 1) % 256) requestBufferSize

/-- `zwave_api_protocol_rx_dispatch`, for a frame at the start of a buffer and its
length, with all callbacks registered. -/
def dispatch (basetype : NodeIdBasetype) (pData : List UInt8) (len : Nat) : Option Delivery :=
  if byteAt pData 1 = frameTypeResponse then none
  else if byteAt pData 2 = funcIdApplicationCommandHandler then
    let source := readNodeId basetype pData 4
    let length := (byteAt pData source.2).toNat
    if requestBufferSize < length then none
    else
      let command := readCommand pData (wrap (source.2 + 1)) length
      some (.applicationCommandHandler (byteAt pData 3) 0 source.1 command.1
        (readRssi pData len command.2))
  else if byteAt pData 2 = funcIdPromiscuousApplicationCommandHandler then
    let length := (byteAt pData 5).toNat
    if requestBufferSize < length then none
    else
      let command := readCommand pData 6 length
      some (.applicationCommandHandler (byteAt pData 3) (byteAt pData command.2).toNat
        (byteAt pData 4).toNat command.1
        (readRssi pData len (skipNodeMask pData (wrap (command.2 + 1)))))
  else if byteAt pData 2 = funcIdApplicationCommandHandlerBridge then
    let destination := readNodeId basetype pData 4
    let source := readNodeId basetype pData destination.2
    let length := (byteAt pData source.2).toNat
    if requestBufferSize < length then none
    else
      let command := readCommand pData (wrap (source.2 + 1)) length
      some (.applicationCommandHandlerBridge (byteAt pData 3) destination.1 source.1 command.1
        (readRssi pData len (skipNodeMask pData command.2)))
  else if byteAt pData 2 = funcIdSerialApiStarted then
    some (.zwapiStarted ((List.range (startedLength len)).map fun offset =>
      byteAt pData (3 + offset)))
  else none

theorem bytesOf_map_byte (bytes : List UInt8) : bytesOf (bytes.map .byte) = bytes := by
  induction bytes with
  | nil => rfl
  | cons byte rest ih => simp [ih]

theorem prompt_map_byte (bytes : List UInt8) : Prompt 0 (bytes.map .byte) := by
  induction bytes with
  | nil => trivial
  | cons byte rest ih => exact ih

/-- `zwapi_write_node_id`. -/
def writeNodeId (basetype : NodeIdBasetype) (nodeId : Nat) : List UInt8 :=
  match basetype with
  | .nodeId16Bits => [UInt8.ofNat (nodeId / 256), UInt8.ofNat nodeId]
  | .nodeId8Bits => [UInt8.ofNat nodeId]

/-- The node ids of a base type. -/
def NodeIdBasetype.Fits : NodeIdBasetype -> Nat -> Prop
  | .nodeId16Bits, nodeId => nodeId < 65536
  | .nodeId8Bits, nodeId => nodeId < 256

/-- The frames that carry commands and the start-up payload, with their fields.
`offset` is bits 5 to 7 of `multiDestsOffset_NodeMaskLen`. -/
inductive Report
  | serialApiStarted
      (wakeupReason watchdogStarted deviceOptionMask generic specific : UInt8)
      (cmdClasses : List UInt8)
  | applicationCommandHandler
      (rxStatus : UInt8) (source : Nat) (command : List UInt8) (rssi : Option UInt8)
  | applicationCommandHandlerBridge
      (rxStatus : UInt8) (destination source : Nat) (command : List UInt8)
      (offset : Nat) (nodeMask : List UInt8) (rssi : Option UInt8)

namespace Report

/-- The function id of a frame. -/
def funcId : Report -> UInt8
  | .serialApiStarted .. => funcIdSerialApiStarted
  | .applicationCommandHandler .. => funcIdApplicationCommandHandler
  | .applicationCommandHandlerBridge .. => funcIdApplicationCommandHandlerBridge

/-- The payload of a frame, in the layout of the comments. -/
def payload (basetype : NodeIdBasetype) : Report -> List UInt8
  | .serialApiStarted wakeupReason watchdogStarted deviceOptionMask generic specific cmdClasses =>
      [wakeupReason, watchdogStarted, deviceOptionMask, generic, specific,
        UInt8.ofNat cmdClasses.length] ++ cmdClasses
  | .applicationCommandHandler rxStatus source command rssi =>
      [rxStatus] ++ (writeNodeId basetype source ++
        ([UInt8.ofNat command.length] ++ (command ++ rssi.toList)))
  | .applicationCommandHandlerBridge rxStatus destination source command offset nodeMask rssi =>
      [rxStatus] ++ (writeNodeId basetype destination ++ (writeNodeId basetype source ++
        ([UInt8.ofNat command.length] ++ (command ++
          ([UInt8.ofNat (32 * offset + nodeMask.length)] ++ (nodeMask ++ rssi.toList))))))

/-- The frame without its checksum. -/
def frame (basetype : NodeIdBasetype) (report : Report) : List UInt8 :=
  frameOf report.funcId frameTypeRequest (report.payload basetype)

/-- The fields are in their ranges. -/
def InRange (basetype : NodeIdBasetype) : Report -> Prop
  | .serialApiStarted .. => True
  | .applicationCommandHandler _ source command _ =>
      basetype.Fits source ∧ command.length ≤ requestBufferSize
  | .applicationCommandHandlerBridge _ destination source command offset nodeMask _ =>
      basetype.Fits destination ∧ basetype.Fits source ∧ command.length ≤ requestBufferSize ∧
        offset < 8 ∧ nodeMask.length ≤ 29

/-- The fields are in their ranges, and the frame can be encoded. -/
structure WellFormed (basetype : NodeIdBasetype) (report : Report) : Prop where
  encodes : (report.payload basetype).length ≤ 250
  fields : report.InRange basetype

/-- What the upper layer is to be handed. -/
def delivery (basetype : NodeIdBasetype) (report : Report) : Delivery :=
  match report with
  | .serialApiStarted .. => .zwapiStarted (report.payload basetype)
  | .applicationCommandHandler rxStatus source command rssi =>
      .applicationCommandHandler rxStatus 0 source command (rssi.getD rssiNotAvailable)
  | .applicationCommandHandlerBridge rxStatus destination source command _ _ rssi =>
      .applicationCommandHandlerBridge rxStatus destination source command
        (rssi.getD rssiNotAvailable)

/-- Where the length byte of the node mask of a bridge frame is. -/
def nodeMaskIndex (basetype : NodeIdBasetype) (command : List UInt8) : Nat :=
  5 + 2 * (writeNodeId basetype 0).length + command.length

/-- The upper layer is handed what was encoded.  The start-up payload never is.
The length of a node mask is taken from the whole byte, its offset included: unless
the offset is zero, the RSSI is looked for behind the frame, or, where the index
wraps, among the bytes before it. -/
def Reaches (basetype : NodeIdBasetype) (report : Report) : Prop :=
  match report with
  | .serialApiStarted .. => False
  | .applicationCommandHandler .. => True
  | .applicationCommandHandlerBridge _ _ _ command offset nodeMask rssi =>
      let skipped := nodeMaskIndex basetype command + 1 + 32 * offset + nodeMask.length
      offset = 0 ∨
        (skipped < 256 ∧ rssi.getD rssiNotAvailable = rssiNotAvailable) ∨
        (256 ≤ skipped ∧ rssi.getD rssiNotAvailable =
          byteAt (report.frame basetype) (skipped - 256))

end Report

/-- The buffer has some bytes at an index. -/
def Holds (pData : List UInt8) (index : Nat) (bytes : List UInt8) : Prop :=
  bytes <+: pData.drop index

theorem holds_append (pData : List UInt8) (index : Nat) (first second : List UInt8) :
    Holds pData index (first ++ second) ↔
      Holds pData index first ∧ Holds pData (index + first.length) second := by
  unfold Holds
  rw [← List.drop_drop]
  constructor
  · rintro ⟨rest, equal⟩
    rw [← equal, List.append_assoc]
    exact ⟨List.prefix_append _ _, by simp⟩
  · rintro ⟨⟨rest, equal⟩, within⟩
    rw [← equal, List.drop_left] at within
    rw [← equal]
    exact (List.prefix_append_right_inj first).mpr within

theorem Holds.getElem? {pData : List UInt8} {index : Nat} {bytes : List UInt8}
    (holds : Holds pData index bytes) {offset : Nat} (within : offset < bytes.length) :
    pData[index + offset]? = some bytes[offset] := by
  obtain ⟨rest, equal⟩ := holds
  rw [← List.getElem?_drop, ← equal, List.getElem?_append_left within,
    List.getElem?_eq_getElem within]

theorem Holds.byteAt {pData : List UInt8} {index : Nat} {byte : UInt8}
    (holds : Holds pData index [byte]) : byteAt pData index = byte := by
  have found := @Holds.getElem? _ _ _ holds 0 (by simp)
  rw [Nat.add_zero] at found
  simp [SerialApi.byteAt, List.getD, found]

theorem Holds.readNodeId {basetype : NodeIdBasetype} {pData : List UInt8} {index nodeId : Nat}
    (holds : Holds pData index (writeNodeId basetype nodeId)) (fits : basetype.Fits nodeId)
    (small : index + (writeNodeId basetype 0).length < 256) :
    readNodeId basetype pData index = (nodeId, index + (writeNodeId basetype 0).length) := by
  cases basetype with
  | nodeId8Bits =>
    have byte := holds.byteAt
    simp only [writeNodeId, List.length_singleton] at small ⊢
    simp only [SerialApi.readNodeId, byte, wrap, NodeIdBasetype.Fits] at fits ⊢
    simp only [UInt8.toNat_ofNat', Prod.mk.injEq]
    omega
  | nodeId16Bits =>
    obtain ⟨high, low⟩ := (holds_append pData index [_] [_]).mp holds
    have highByte : SerialApi.byteAt pData index = UInt8.ofNat (nodeId / 256) := high.byteAt
    have lowByte : SerialApi.byteAt pData (index + 1) = UInt8.ofNat nodeId := low.byteAt
    have next : wrap (index + 1) = index + 1 := Nat.mod_eq_of_lt (Nat.lt_of_succ_lt small)
    have last : wrap (index + 2) = index + 2 := Nat.mod_eq_of_lt small
    have value : 256 * (nodeId / 256 % 256) + nodeId % 256 = nodeId := by
      unfold NodeIdBasetype.Fits at fits
      omega
    simp only [SerialApi.readNodeId, highByte, next, lowByte, last, UInt8.toNat_ofNat']
    exact Prod.ext value rfl

theorem Holds.readCommand {pData : List UInt8} {index : Nat} {command : List UInt8}
    (holds : Holds pData index command) (small : index + command.length < 256) :
    readCommand pData index command.length = (command, index + command.length) := by
  unfold SerialApi.readCommand
  congr 1
  · apply List.ext_getElem (by simp)
    intro offset _ within
    have found := holds.getElem? within
    have next : wrap (index + offset) = index + offset := Nat.mod_eq_of_lt (by omega)
    simp [next, SerialApi.byteAt, List.getD, found]
  · exact Nat.mod_eq_of_lt small

theorem writeNodeId_length (basetype : NodeIdBasetype) (nodeId : Nat) :
    (writeNodeId basetype nodeId).length = (writeNodeId basetype 0).length := by
  cases basetype <;> rfl

theorem readRssi_toList {pData : List UInt8} {index len : Nat} {rssi : Option UInt8}
    (holds : Holds pData index rssi.toList) (ends : len = index + rssi.toList.length) :
    readRssi pData len index = rssi.getD rssiNotAvailable := by
  cases rssi with
  | none => simp [readRssi, ends]
  | some value =>
    have byte := holds.byteAt
    simp [readRssi, ends, byte]

theorem toNat_ofNat_length {command : List UInt8} (small : command.length ≤ requestBufferSize) :
    (UInt8.ofNat command.length).toNat = command.length := by
  exact Nat.mod_eq_of_lt (by unfold requestBufferSize at small; omega)

theorem writeNodeId_length_le (basetype : NodeIdBasetype) :
    (writeNodeId basetype 0).length ≤ 2 := by
  cases basetype <;> decide

section Buffers

variable {basetype : NodeIdBasetype} {pData : List UInt8} {len : Nat} {rxStatus : UInt8}
  {destination source : Nat} {command : List UInt8} {rssi : Option UInt8}

theorem dispatch_applicationCommandHandler (type : byteAt pData 1 = frameTypeRequest)
    (funcId : byteAt pData 2 = funcIdApplicationCommandHandler)
    (payload : Holds pData 3 ([rxStatus] ++ (writeNodeId basetype source ++
      ([UInt8.ofNat command.length] ++ (command ++ rssi.toList)))))
    (ends : len = 5 + (writeNodeId basetype 0).length + command.length + rssi.toList.length)
    (fits : basetype.Fits source)
    (short : command.length ≤ requestBufferSize) :
    dispatch basetype pData len =
      some (.applicationCommandHandler rxStatus 0 source command
        (rssi.getD rssiNotAvailable)) := by
  have width := writeNodeId_length_le basetype
  have size : command.length ≤ 180 := short
  simp only [holds_append, List.length_singleton, writeNodeId_length] at payload
  obtain ⟨status, sourceId, count, copied, rssiByte⟩ := payload
  have statusRead := status.byteAt
  have sourceRead := sourceId.readNodeId fits (by omega)
  have counted := count.byteAt
  have next : wrap (3 + 1 + (writeNodeId basetype 0).length + 1) =
    3 + 1 + (writeNodeId basetype 0).length + 1 := Nat.mod_eq_of_lt (by omega)
  have copy := copied.readCommand (by omega)
  have rssiRead := readRssi_toList rssiByte (ends.trans (by omega))
  have other : ¬ frameTypeRequest = frameTypeResponse := by decide
  simp only [dispatch, type, funcId, if_neg other, if_true, sourceRead, counted,
    toNat_ofNat_length short, if_neg (Nat.not_lt.mpr short), next, copy, rssiRead, statusRead]

theorem dispatch_applicationCommandHandlerBridge {nodeMask : List UInt8} {offset : Nat}
    (type : byteAt pData 1 = frameTypeRequest)
    (funcId : byteAt pData 2 = funcIdApplicationCommandHandlerBridge)
    (payload : Holds pData 3 ([rxStatus] ++ (writeNodeId basetype destination ++
      (writeNodeId basetype source ++ ([UInt8.ofNat command.length] ++ (command ++
        ([UInt8.ofNat (32 * offset + nodeMask.length)] ++ (nodeMask ++ rssi.toList))))))))
    (fitsDestination : basetype.Fits destination)
    (fits : basetype.Fits source)
    (short : command.length ≤ requestBufferSize)
    (small : offset < 8)
    (shortMask : nodeMask.length ≤ 29) :
    dispatch basetype pData len =
      some (.applicationCommandHandlerBridge rxStatus destination source command
        (readRssi pData len
          (wrap (Report.nodeMaskIndex basetype command + 1 + 32 * offset + nodeMask.length)))) ∧
      Holds pData (Report.nodeMaskIndex basetype command + 1 + nodeMask.length) rssi.toList := by
  have width := writeNodeId_length_le basetype
  have size : command.length ≤ 180 := short
  simp only [holds_append, List.length_singleton, writeNodeId_length] at payload
  obtain ⟨status, destinationId, sourceId, count, copied, maskLength, mask, rssiByte⟩ := payload
  have statusRead := status.byteAt
  have destinationRead := destinationId.readNodeId fitsDestination (by omega)
  have sourceRead := sourceId.readNodeId fits (by omega)
  have counted := count.byteAt
  have next : wrap (3 + 1 + (writeNodeId basetype 0).length + (writeNodeId basetype 0).length + 1) =
      3 + 1 + (writeNodeId basetype 0).length + (writeNodeId basetype 0).length + 1 :=
    Nat.mod_eq_of_lt (by omega)
  have copy := copied.readCommand (by omega)
  have maskIndex : 3 + 1 + (writeNodeId basetype 0).length + (writeNodeId basetype 0).length + 1 +
      command.length = Report.nodeMaskIndex basetype command := by
    unfold Report.nodeMaskIndex
    omega
  rw [maskIndex] at maskLength rssiByte copy
  have masked := maskLength.byteAt
  have value : (UInt8.ofNat (32 * offset + nodeMask.length)).toNat =
      32 * offset + nodeMask.length := by
    exact Nat.mod_eq_of_lt (by omega)
  have skipped : skipNodeMask pData (Report.nodeMaskIndex basetype command) =
      wrap (Report.nodeMaskIndex basetype command + 1 + 32 * offset + nodeMask.length) := by
    unfold skipNodeMask
    rw [masked]
    congr 1
    omega
  have other : ¬ frameTypeRequest = frameTypeResponse := by decide
  have otherHandler :
      ¬ funcIdApplicationCommandHandlerBridge = funcIdApplicationCommandHandler := by decide
  have otherPromiscuous : ¬ funcIdApplicationCommandHandlerBridge =
      funcIdPromiscuousApplicationCommandHandler := by decide
  refine ⟨?_, rssiByte⟩
  simp only [dispatch, type, funcId, if_neg other, if_neg otherHandler, if_neg otherPromiscuous,
    if_true, destinationRead, sourceRead, counted, toNat_ofNat_length short,
    if_neg (Nat.not_lt.mpr short), next, copy, skipped, statusRead]

end Buffers

theorem readRssi_skipped_iff {frame rest : List UInt8} {index maskLength offset : Nat}
    {rssi : Option UInt8} (ends : frame.length = index + 1 + maskLength + rssi.toList.length)
    (early : index ≤ 189) (small : offset < 8) (shortMask : maskLength ≤ 29)
    (rssiByte : Holds (frame ++ rest) (index + 1 + maskLength) rssi.toList) :
    readRssi (frame ++ rest) frame.length (wrap (index + 1 + 32 * offset + maskLength)) =
        rssi.getD rssiNotAvailable ↔
      offset = 0 ∨
        (index + 1 + 32 * offset + maskLength < 256 ∧
          rssi.getD rssiNotAvailable = rssiNotAvailable) ∨
        (256 ≤ index + 1 + 32 * offset + maskLength ∧
          rssi.getD rssiNotAvailable =
            byteAt frame (index + 1 + 32 * offset + maskLength - 256)) := by
  have short : rssi.toList.length ≤ 1 := by cases rssi <;> simp
  by_cases none : offset = 0
  · refine iff_of_true ?_ (.inl none)
    have reached : wrap (index + 1 + 32 * offset + maskLength) = index + 1 + maskLength := by
      unfold wrap
      omega
    rw [reached]
    exact readRssi_toList rssiByte ends
  · by_cases wraps : 256 ≤ index + 1 + 32 * offset + maskLength
    · have reached : wrap (index + 1 + 32 * offset + maskLength) =
          index + 1 + 32 * offset + maskLength - 256 := by
        unfold wrap
        omega
      have within : index + 1 + 32 * offset + maskLength - 256 < frame.length := by omega
      have read : readRssi (frame ++ rest) frame.length
          (index + 1 + 32 * offset + maskLength - 256) =
          byteAt frame (index + 1 + 32 * offset + maskLength - 256) := by
        simp only [readRssi, if_pos within, byteAt, List.getD_eq_getElem?_getD,
          List.getElem?_append_left within]
      rw [reached, read]
      constructor
      · exact fun same => .inr (.inr ⟨wraps, same.symm⟩)
      · rintro (zero | ⟨unwrapped, -⟩ | ⟨-, same⟩)
        · exact absurd zero none
        · omega
        · exact same.symm
    · have reached : wrap (index + 1 + 32 * offset + maskLength) =
          index + 1 + 32 * offset + maskLength := Nat.mod_eq_of_lt (by omega)
      have read : readRssi (frame ++ rest) frame.length
          (index + 1 + 32 * offset + maskLength) = rssiNotAvailable := by
        simp only [readRssi]
        rw [if_neg (by omega)]
      rw [reached, read]
      constructor
      · exact fun same => .inr (.inl ⟨by omega, same.symm⟩)
      · rintro (zero | ⟨-, same⟩ | ⟨wrapped, -⟩)
        · exact absurd zero none
        · exact same.symm
        · exact absurd wrapped wraps

namespace Report

theorem frame_fields (basetype : NodeIdBasetype) (report : Report) (rest : List UInt8) :
    byteAt (report.frame basetype ++ rest) 1 = frameTypeRequest ∧
      byteAt (report.frame basetype ++ rest) 2 = report.funcId ∧
      Holds (report.frame basetype ++ rest) 3 (report.payload basetype) := by
  refine ⟨rfl, rfl, ?_⟩
  simp [Holds, frame, frameOf]

theorem frame_length (basetype : NodeIdBasetype) (report : Report) :
    (report.frame basetype).length = 3 + (report.payload basetype).length := by
  simp only [frame, frameOf, List.length_cons]
  omega

theorem dispatch_serialApiStarted_ne {basetype : NodeIdBasetype} {report : Report}
    (isStarted : report.funcId = funcIdSerialApiStarted)
    (nonempty : 0 < (report.payload basetype).length)
    (encodes : (report.payload basetype).length ≤ 250) (rest : List UInt8) :
    dispatch basetype (report.frame basetype ++ rest) (report.frame basetype).length ≠
      some (.zwapiStarted (report.payload basetype)) := by
  obtain ⟨type, funcId, -⟩ := report.frame_fields basetype rest
  have other : ¬ frameTypeRequest = frameTypeResponse := by decide
  have otherHandler : ¬ funcIdSerialApiStarted = funcIdApplicationCommandHandler := by decide
  have otherPromiscuous :
      ¬ funcIdSerialApiStarted = funcIdPromiscuousApplicationCommandHandler := by decide
  have otherBridge : ¬ funcIdSerialApiStarted = funcIdApplicationCommandHandlerBridge := by decide
  rw [isStarted] at funcId
  simp only [dispatch, type, funcId, if_neg other, if_neg otherHandler, if_neg otherPromiscuous,
    if_neg otherBridge, if_true]
  intro same
  have data := Delivery.zwapiStarted.inj (Option.some.inj same)
  have lengths := congrArg List.length data
  rw [List.length_map, List.length_range, frame_length, startedLength] at lengths
  omega

theorem dispatch_frame_iff {basetype : NodeIdBasetype} {report : Report}
    (wellFormed : report.WellFormed basetype) (rest : List UInt8) :
    dispatch basetype (report.frame basetype ++ rest) (report.frame basetype).length =
        some (report.delivery basetype) ↔
      report.Reaches basetype := by
  obtain ⟨type, funcId, payload⟩ := report.frame_fields basetype rest
  have length := report.frame_length basetype
  have width := writeNodeId_length_le basetype
  cases report with
  | serialApiStarted wakeupReason watchdogStarted deviceOptionMask generic specific cmdClasses =>
    refine iff_of_false ?_ (fun reaches => reaches)
    exact dispatch_serialApiStarted_ne rfl (by simp [Report.payload]) wellFormed.encodes rest
  | applicationCommandHandler rxStatus source command rssi =>
    refine iff_of_true ?_ trivial
    apply dispatch_applicationCommandHandler type funcId payload _ wellFormed.fields.1
      wellFormed.fields.2
    rw [length]
    simp only [Report.payload, List.length_append, List.length_singleton, writeNodeId_length]
    omega
  | applicationCommandHandlerBridge rxStatus destination source command offset nodeMask rssi =>
    obtain ⟨fitsDestination, fits, short, small, shortMask⟩ := wellFormed.fields
    have size : command.length ≤ 180 := short
    obtain ⟨handed, rssiByte⟩ := @dispatch_applicationCommandHandlerBridge basetype _
      (frame basetype (.applicationCommandHandlerBridge rxStatus destination source command
        offset nodeMask rssi)).length rxStatus destination source command rssi nodeMask offset
      type funcId payload fitsDestination fits short small shortMask
    have ends : (frame basetype (.applicationCommandHandlerBridge rxStatus destination source
        command offset nodeMask rssi)).length =
        nodeMaskIndex basetype command + 1 + nodeMask.length + rssi.toList.length := by
      rw [length]
      simp only [Report.payload, nodeMaskIndex, List.length_append, List.length_singleton,
        writeNodeId_length]
      omega
    have early : nodeMaskIndex basetype command ≤ 189 := by
      unfold nodeMaskIndex
      omega
    rw [handed]
    simp only [delivery, Option.some.injEq, Delivery.applicationCommandHandlerBridge.injEq,
      true_and, Reaches]
    exact readRssi_skipped_iff ends early small shortMask rssiByte

/-- A caller that polls while the frame arrives, and dispatches the REQUEST frames
it is told about, hands on what was encoded in these cases, and in no other.  What
lies behind a frame in its buffer does not matter. -/
theorem dispatch_listen_iff {basetype : NodeIdBasetype} {report : Report}
    (wellFormed : report.WellFormed basetype) {connection : Connection}
    (hunts : connection.state = .sofHunt) {feed : Feed}
    (incoming : connection.line.incoming = feed.signals) (command : feed.command = report.funcId)
    (type : feed.type = frameTypeRequest) (payload : feed.payload = report.payload basetype)
    (rest : List UInt8) :
    ((connection.listen.1.filter isRequest).map fun frame =>
        dispatch basetype (frame ++ rest) frame.length) =
        [some (report.delivery basetype)] ↔
      report.Reaches basetype := by
  obtain ⟨later, -, ended, hears⟩ := Connection.hears_feed feed connection hunts []
    (by rw [incoming, List.append_nil])
  have frame : feed.frame = report.frame basetype := by
    rw [Feed.frame, command, type, payload, frame]
  have queued : isRequest (report.frame basetype) = true := rfl
  rw [hears.listen ended, frame, ← dispatch_frame_iff wellFormed rest]
  simp [queued]

/-- A frame whose bytes arrive one after the other, without a silence. -/
def feed (basetype : NodeIdBasetype) (report : Report) (encodes : report.WellFormed basetype) :
    Feed where
  noise := []
  pause := []
  length := UInt8.ofNat (report.payload basetype).length + 3
  rest := ((encode report.funcId frameTypeRequest (report.payload basetype)).drop 2).map .byte
  isNoise := ⟨by simp, by simp⟩
  isSilent := ⟨by simp, by simp⟩
  isPrompt := prompt_map_byte _
  command := report.funcId
  type := frameTypeRequest
  payload := report.payload basetype
  fits := encodes.encodes
  encoded := by
    rw [Arrival.body, bytesOf_map_byte]
    rfl

/-- A bridge frame with a node mask of one byte. -/
def maskedBridgeFrame : Report :=
  .applicationCommandHandlerBridge 0 1 5 [0x25, 0x01, 0xFF] 0 [0x80] (some 0xC0)

theorem maskedBridgeFrame_wellFormed : maskedBridgeFrame.WellFormed .nodeId8Bits :=
  ⟨by decide, by simp [maskedBridgeFrame, InRange, NodeIdBasetype.Fits, requestBufferSize]⟩

theorem dispatch_listen_iff_maskedBridgeFrame :
    ((Connection.initial ⟨(maskedBridgeFrame.feed .nodeId8Bits
        maskedBridgeFrame_wellFormed).signals, [], 0⟩).listen.1.filter isRequest).map
        (fun frame => dispatch .nodeId8Bits (frame ++ []) frame.length) =
      [some (.applicationCommandHandlerBridge 0 1 5 [0x25, 0x01, 0xFF] 0xC0)] :=
  (@dispatch_listen_iff .nodeId8Bits maskedBridgeFrame maskedBridgeFrame_wellFormed
    (.initial ⟨(maskedBridgeFrame.feed .nodeId8Bits maskedBridgeFrame_wellFormed).signals, [], 0⟩)
    rfl (maskedBridgeFrame.feed .nodeId8Bits maskedBridgeFrame_wellFormed) rfl rfl rfl rfl
    []).mpr (.inl rfl)

/-- The start of a controller that supports one command class. -/
def startedFrame : Report := .serialApiStarted 0x07 0x00 0x01 0x02 0x07 [0x5E]

theorem startedFrame_wellFormed : startedFrame.WellFormed .nodeId8Bits := ⟨by decide, trivial⟩

/-- The upper layer is not told the last command class. -/
theorem not_dispatch_listen :
    ¬ ∀ (basetype : NodeIdBasetype) (report : Report), report.WellFormed basetype ->
      ∀ (connection : Connection) (feed : Feed), connection.state = .sofHunt ->
        connection.line.incoming = feed.signals -> feed.command = report.funcId ->
        feed.type = frameTypeRequest -> feed.payload = report.payload basetype ->
        ∀ rest : List UInt8,
          ((connection.listen.1.filter isRequest).map fun frame =>
            dispatch basetype (frame ++ rest) frame.length) =
            [some (report.delivery basetype)] := by
  intro claim
  have handed := claim .nodeId8Bits startedFrame startedFrame_wellFormed
    (.initial ⟨(startedFrame.feed .nodeId8Bits startedFrame_wellFormed).signals, [], 0⟩)
    (startedFrame.feed .nodeId8Bits startedFrame_wellFormed) rfl rfl rfl rfl rfl []
  have reaches := (@dispatch_frame_iff .nodeId8Bits startedFrame startedFrame_wellFormed []).mp
  obtain ⟨later, -, ended, hears⟩ := Connection.hears_feed
    (startedFrame.feed .nodeId8Bits startedFrame_wellFormed)
    (.initial ⟨(startedFrame.feed .nodeId8Bits startedFrame_wellFormed).signals, [], 0⟩) rfl []
    (List.append_nil _).symm
  rw [hears.listen ended] at handed
  exact reaches (List.singleton_inj.mp handed)

end Report

end SerialApi
