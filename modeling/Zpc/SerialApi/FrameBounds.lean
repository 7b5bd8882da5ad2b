import Zpc.SerialApi.RxDispatch

/-!
# Frames whose lengths agree

When `zwave_api_protocol_rx_dispatch` keeps to the bytes of the frame and to its buffer.  The
checks differ from case to case: the length of a field is compared with the buffer and not
with the frame, three bytes more than the length of a node information are copied, and where
a frame is too short for its fields the code reads behind it.
-/

namespace SerialApi

namespace RxDispatch

/-- A part of the code ends without a fault. -/
def Succeeds {α : Type} (code : Checked α) : Prop := ∃ result, code = .ok result

section Parts

variable {α β : Type} {basetype : NodeIdBasetype} {frame : List UInt8} {index start count : Nat}

@[simp] theorem succeeds_pure (result : α) : Succeeds (pure result : Checked α) := ⟨result, rfl⟩

@[simp] theorem not_succeeds_throw (fault : Fault) : ¬ Succeeds (throw fault : Checked α) := by
  rintro ⟨result, isResult⟩
  cases isResult

@[simp] theorem pure_bind_eq (result : α) (next : α -> Checked β) :
    ((pure result : Checked α) >>= next) = next result := rfl

theorem value_eq (inside : index < frame.length) :
    FrameByte.value ⟨index, inside⟩ = byteAt frame index := by
  unfold FrameByte.value byteAt
  rw [List.get_eq_getElem, List.getD_eq_getElem?_getD, List.getElem?_eq_getElem inside,
    Option.getD_some]

theorem byteOf_of_lt (inside : index < frame.length) :
    byteOf frame index = .ok ⟨index, inside⟩ := dif_pos inside

theorem succeeds_byteOf_bind {next : FrameByte frame -> Checked β} :
    Succeeds (byteOf frame index >>= next) ↔
      ∃ inside : index < frame.length, Succeeds (next ⟨index, inside⟩) := by
  by_cases inside : index < frame.length
  · rw [byteOf_of_lt inside]
    exact ⟨fun succeeds => ⟨inside, succeeds⟩, fun succeeds => succeeds.2⟩
  · refine iff_of_false ?_ fun succeeds => inside succeeds.1
    rw [byteOf, dif_neg inside]
    rintro ⟨result, isResult⟩
    cases isResult

/-- The value of a node id in a frame. -/
def nodeIdAt (basetype : NodeIdBasetype) (frame : List UInt8) (index : Nat) : Nat :=
  match basetype with
  | .nodeId16Bits => 256 * (byteAt frame index).toNat + (byteAt frame (index + 1)).toNat
  | .nodeId8Bits => (byteAt frame index).toNat

theorem width_bounds (basetype : NodeIdBasetype) : 1 ≤ width basetype ∧ width basetype ≤ 2 := by
  cases basetype <;> decide

theorem wrap_of_lt (small : index < 256) : wrap index = index := Nat.mod_eq_of_lt small

theorem succeeds_readNodeId_bind (small : index < 250) {next : Nat × Nat -> Checked β} :
    Succeeds (readNodeId basetype frame index >>= next) ↔
      index + width basetype ≤ frame.length ∧
        Succeeds (next (nodeIdAt basetype frame index, index + width basetype)) := by
  cases basetype with
  | nodeId8Bits =>
    unfold readNodeId
    rw [wrap_of_lt (by omega)]
    simp only [bind_assoc, pure_bind_eq, succeeds_byteOf_bind, value_eq, exists_prop]
    rfl
  | nodeId16Bits =>
    unfold readNodeId
    rw [wrap_of_lt (by omega), wrap_of_lt (by omega)]
    simp only [bind_assoc, pure_bind_eq, succeeds_byteOf_bind, value_eq, exists_prop]
    constructor
    · rintro ⟨-, inside, succeeds⟩
      exact ⟨inside, succeeds⟩
    · rintro ⟨inside, succeeds⟩
      exact ⟨Nat.lt_of_succ_lt inside, inside, succeeds⟩

theorem succeeds_bind {code : Checked α} {next : α -> Checked β} :
    Succeeds (code >>= next) ↔ ∃ result, code = .ok result ∧ Succeeds (next result) := by
  cases code with
  | error fault => exact iff_of_false nofun nofun
  | ok result =>
    constructor
    · exact fun succeeds => ⟨result, rfl, succeeds⟩
    · rintro ⟨_, ⟨⟩, succeeds⟩
      exact succeeds

variable {condition : Prop} {code : Checked β} {result : β} {present : Bool}
  {next : List (FrameByte frame) -> Checked β}

theorem succeeds_if_registered [Decidable condition] :
    Succeeds (if condition then code else pure result) ↔ (condition -> Succeeds code) := by
  split
  next holds => exact ⟨fun succeeds _ => succeeds, fun succeeds => succeeds holds⟩
  next fails => exact iff_of_true (succeeds_pure result) fun holds => absurd holds fails

theorem succeeds_if_dropped [Decidable condition] :
    Succeeds (if condition then pure result else code) ↔ condition ∨ Succeeds code := by
  split
  next holds => exact iff_of_true (succeeds_pure result) (.inl holds)
  next fails => exact ⟨.inr, fun either => either.resolve_left fails⟩

theorem succeeds_ite [Decidable condition] {first second : Checked β} :
    Succeeds (if condition then first else second) ↔
      (condition -> Succeeds first) ∧ (¬ condition -> Succeeds second) := by
  split
  next holds => exact ⟨fun succeeds => ⟨fun _ => succeeds, absurd holds⟩, fun both => both.1 holds⟩
  next fails =>
    exact ⟨fun succeeds => ⟨fun holds => absurd holds fails, fun _ => succeeds⟩,
      fun both => both.2 fails⟩

theorem exists_slice_eq :
    (∃ bytes : List (FrameByte frame), slice frame start count = .ok bytes) ↔
      count = 0 ∨ start + count ≤ frame.length := by
  induction count with
  | zero => exact iff_of_true ⟨[], rfl⟩ (.inl rfl)
  | succ count ih =>
    constructor
    · intro succeeds
      obtain ⟨bytes, -, succeeds⟩ := succeeds_bind.mp succeeds
      obtain ⟨inside, -⟩ := succeeds_byteOf_bind.mp succeeds
      exact .inr inside
    · intro within
      have inside : start + count < frame.length := by omega
      obtain ⟨bytes, isBytes⟩ := ih.mpr (.inr (by omega))
      refine ⟨bytes ++ [⟨start + count, inside⟩], ?_⟩
      unfold slice
      rw [isBytes, byteOf_of_lt inside]
      rfl

theorem exists_copy_eq :
    (∃ bytes : List (FrameByte frame), copy frame start count = .ok bytes) ↔
      count ≤ requestBufferSize ∧ (count = 0 ∨ start + count ≤ frame.length) := by
  change Succeeds (copy frame start count) ↔ _
  unfold copy
  rw [succeeds_bind]
  by_cases tooLong : requestBufferSize < count
  · refine iff_of_false ?_ fun fits => absurd fits.1 (Nat.not_le.mpr tooLong)
    rintro ⟨bytes, -, result, isResult⟩
    rw [if_pos tooLong] at isResult
    cases isResult
  · simp only [if_neg tooLong, succeeds_pure, and_true]
    rw [exists_slice_eq]
    exact ⟨fun within => ⟨Nat.not_lt.mp tooLong, within⟩, And.right⟩

theorem exists_byteOr_eq :
    (∃ byte : Option (FrameByte frame), byteOr frame present index = .ok byte) ↔
      (present = true -> index < frame.length) := by
  change Succeeds (byteOr frame present index) ↔ _
  unfold byteOr
  cases present with
  | true =>
    simp only [if_true, succeeds_byteOf_bind, succeeds_pure, exists_prop, and_true, forall_const]
  | false => exact iff_of_true ⟨none, rfl⟩ nofun

theorem succeeds_slice_bind :
    Succeeds (slice frame start count >>= next) ↔
      ∃ bytes, slice frame start count = .ok bytes ∧ Succeeds (next bytes) :=
  succeeds_bind

theorem succeeds_copy_bind :
    Succeeds (copy frame start count >>= next) ↔
      ∃ bytes, copy frame start count = .ok bytes ∧ Succeeds (next bytes) :=
  succeeds_bind

theorem succeeds_byteOr_bind {next : Option (FrameByte frame) -> Checked β} :
    Succeeds (byteOr frame present index >>= next) ↔
      ∃ byte, byteOr frame present index = .ok byte ∧ Succeeds (next byte) :=
  succeeds_bind

end Parts

/-- The field with its length at an index is too long for the buffer, and the frame is dropped;
or the field and some bytes behind it are inside of the frame. -/
def FieldFits (frame : List UInt8) (index behind : Nat) : Prop :=
  index < frame.length ∧
    (requestBufferSize < (byteAt frame index).toNat ∨
      index + (byteAt frame index).toNat + behind < frame.length)

namespace Module

variable (module : Module) (frame : List UInt8)

/-- What a status needs: its byte. -/
def StatusFits (callback : Callback) : Prop := module.registered callback = true -> 4 < frame.length

variable (callback : Callback)

theorem succeeds_reportStatus :
    Succeeds (module.reportStatus frame callback) ↔ module.StatusFits frame callback := by
  unfold reportStatus StatusFits
  simp only [succeeds_if_registered, succeeds_byteOf_bind, succeeds_pure, exists_prop, and_true]

theorem succeeds_reportDone : Succeeds (module.reportDone frame callback) := by
  exact succeeds_if_registered.mpr fun _ => succeeds_pure _

theorem succeeds_commandHandler :
    Succeeds (module.commandHandler frame) ↔
      (module.registered .applicationCommandHandler = true ->
        FieldFits frame (4 + width module.basetype) 0) := by
  have widths := width_bounds module.basetype
  unfold commandHandler
  simp only [succeeds_if_registered, succeeds_if_dropped, succeeds_byteOf_bind,
    succeeds_readNodeId_bind (show 4 < 250 by decide), succeeds_copy_bind, succeeds_byteOr_bind,
    succeeds_pure, and_true, exists_prop, exists_copy_eq, exists_byteOr_eq, value_eq,
    decide_eq_true_eq, imp_self]
  refine imp_congr_right fun _ => ?_
  rw [wrap_of_lt (show 4 + width module.basetype + 1 < 256 by omega)]
  unfold FieldFits
  omega

theorem succeeds_promiscuousCommandHandler :
    Succeeds (module.promiscuousCommandHandler frame) ↔
      (module.registered .applicationCommandHandler = true -> FieldFits frame 5 2) := by
  unfold promiscuousCommandHandler
  simp only [succeeds_if_registered, succeeds_if_dropped, succeeds_byteOf_bind,
    succeeds_copy_bind, succeeds_byteOr_bind, succeeds_pure, and_true, exists_prop,
    exists_and_right, exists_copy_eq, exists_byteOr_eq, value_eq, decide_eq_true_eq, imp_self]
  refine imp_congr_right fun _ => ?_
  unfold FieldFits wrap requestBufferSize
  omega

theorem succeeds_commandHandlerBridge :
    Succeeds (module.commandHandlerBridge frame) ↔
      (module.registered .applicationCommandHandlerBridge = true ->
        FieldFits frame (4 + 2 * width module.basetype) 1) := by
  have widths := width_bounds module.basetype
  unfold commandHandlerBridge
  simp only [succeeds_if_registered, succeeds_if_dropped, succeeds_byteOf_bind,
    succeeds_readNodeId_bind (show 4 < 250 by decide),
    succeeds_readNodeId_bind (show 4 + width module.basetype < 250 by omega),
    succeeds_copy_bind, succeeds_byteOr_bind, succeeds_pure, and_true, exists_prop,
    exists_and_right, exists_copy_eq, exists_byteOr_eq, value_eq, decide_eq_true_eq, imp_self]
  refine imp_congr_right fun _ => ?_
  rw [Nat.two_mul, ← Nat.add_assoc]
  unfold FieldFits wrap requestBufferSize
  omega

/-- What a learn information needs: its node id inside of the frame when there is a byte of
it. -/
def LearnedFits (callback : Callback) : Prop :=
  module.registered callback = true -> frame.length ≤ 5 ∨ 5 + width module.basetype ≤ frame.length

theorem succeeds_learned :
    Succeeds (module.learned frame callback) ↔ module.LearnedFits frame callback := by
  unfold learned LearnedFits
  rw [succeeds_if_registered]
  refine imp_congr_right fun _ => ?_
  simp only [succeeds_ite, succeeds_byteOf_bind, succeeds_readNodeId_bind (show 5 < 250 by decide),
    succeeds_copy_bind, succeeds_byteOr_bind, succeeds_pure, and_true, exists_prop,
    exists_and_right, exists_copy_eq, exists_byteOr_eq, value_eq, decide_eq_true_eq, imp_self,
    true_and, implies_true]
  omega

theorem succeeds_learnMode :
    Succeeds (module.learnMode frame) ↔
      (module.registered .setLearnMode = true ->
        FieldFits frame (5 + width module.basetype) 0) := by
  have isWidth : (if module.basetype = .nodeId16Bits then 7 else 6) =
      5 + width module.basetype := by
    cases module.basetype <;> rfl
  unfold learnMode
  rw [succeeds_if_registered]
  refine imp_congr_right fun _ => ?_
  simp only [succeeds_ite, succeeds_byteOf_bind, succeeds_readNodeId_bind (show 5 < 250 by decide),
    succeeds_copy_bind, succeeds_pure, and_true, exists_prop, exists_copy_eq, value_eq,
    not_succeeds_throw, isWidth, imp_false, and_false, implies_true, true_and]
  unfold FieldFits requestBufferSize
  omega

theorem succeeds_slaveLearnMode :
    Succeeds (module.slaveLearnMode frame) ↔
      (module.registered .setVirtualNodeToLearnMode = true ->
        5 + 2 * width module.basetype ≤ frame.length) := by
  have widths := width_bounds module.basetype
  unfold slaveLearnMode
  simp only [succeeds_if_registered, succeeds_byteOf_bind,
    succeeds_readNodeId_bind (show 5 < 250 by decide),
    succeeds_readNodeId_bind (show 5 + width module.basetype < 250 by omega), succeeds_pure,
    and_true, exists_prop]
  refine imp_congr_right fun _ => ?_
  omega

theorem succeeds_started (long : 3 ≤ frame.length) (short : frame.length ≤ 254) :
    Succeeds (module.started frame) ↔
      (module.registered .zwapiStarted = true -> 3 < frame.length) := by
  unfold started
  simp only [succeeds_if_registered, succeeds_copy_bind, succeeds_pure, and_true, exists_copy_eq]
  refine imp_congr_right fun _ => ?_
  unfold startedLength requestBufferSize
  omega

theorem succeeds_readTxReport (long : 24 ≤ frame.length) : Succeeds (readTxReport frame) := by
  unfold readTxReport
  simp only [succeeds_byteOf_bind, succeeds_slice_bind, succeeds_byteOr_bind, succeeds_pure,
    and_true, exists_prop, exists_and_right, exists_slice_eq, exists_byteOr_eq,
    decide_eq_true_eq]
  omega

theorem succeeds_transmitted : Succeeds (module.transmitted frame callback) ↔ 4 < frame.length := by
  unfold transmitted
  rw [succeeds_byteOf_bind]
  constructor
  · exact fun succeeds => succeeds.1
  · intro inside
    refine ⟨inside, ?_⟩
    split
    next long =>
      obtain ⟨report, isReport⟩ := succeeds_readTxReport frame long
      refine succeeds_bind.mpr ⟨report, isReport, ?_⟩
      split <;> exact succeeds_pure _
    next =>
      split <;> exact succeeds_pure _

/-- What the information about a node needs, by its status: the clipped node information with
its length, the node id, or three bytes more than a length that leaves room for them. -/
def UpdateFits : Prop :=
  let status := byteAt frame 3
  let index := 4 + width module.basetype
  if status = updateStateNodeInfoForeignHomeidReceived ∨
      status = updateStateNodeInfoSmartstartHomeidReceivedLr then
    index + 5 < frame.length ∧
      index + 6 + min (byteAt frame (index + 5)).toNat requestBufferSize ≤ frame.length
  else if status = updateStateIncludedNodeInfoReceived then index ≤ frame.length
  else
    index < frame.length ∧
      (requestBufferSize < (byteAt frame index).toNat ∨
        (byteAt frame index).toNat + 3 ≤ requestBufferSize ∧
          index + (byteAt frame index).toNat + 3 < frame.length)

theorem succeeds_controllerUpdate :
    Succeeds (module.controllerUpdate frame) ↔
      (module.registered .applicationControllerUpdate = true ->
        3 < frame.length ∧ module.UpdateFits frame) := by
  have widths := width_bounds module.basetype
  unfold controllerUpdate UpdateFits
  rw [succeeds_if_registered]
  refine imp_congr_right fun _ => ?_
  simp only [succeeds_byteOf_bind, value_eq]
  rw [← exists_prop]
  refine exists_congr fun _ => ?_
  split
  · simp only [succeeds_byteOf_bind, succeeds_readNodeId_bind (show 4 < 250 by decide),
      succeeds_slice_bind, succeeds_copy_bind, succeeds_pure, and_true, exists_prop,
      exists_and_right, exists_slice_eq, exists_copy_eq, value_eq]
    rw [wrap_of_lt (show 4 + width module.basetype + 1 < 256 by omega),
      wrap_of_lt (show 4 + width module.basetype + 5 < 256 by omega),
      wrap_of_lt (show 4 + width module.basetype + 6 < 256 by omega)]
    omega
  · split
    · simp only [succeeds_readNodeId_bind (show 4 < 250 by decide), succeeds_ite,
        succeeds_slice_bind, succeeds_pure, and_true, exists_slice_eq, implies_true]
      omega
    · simp only [succeeds_readNodeId_bind (show 4 < 250 by decide), succeeds_byteOf_bind,
        succeeds_if_dropped, succeeds_copy_bind, succeeds_pure, and_true, exists_prop,
        exists_copy_eq, value_eq]
      rw [wrap_of_lt (show 4 + width module.basetype + 1 < 256 by omega)]
      omega

/-- What an encryption request needs: the payload with its length, the metadata with theirs,
and two bytes more. -/
def RequestFits : Prop :=
  let index := 3 + width module.basetype
  index < frame.length ∧
    (requestBufferSize < (byteAt frame index).toNat ∨
      let metadataIndex := index + (byteAt frame index).toNat + 1
      metadataIndex < frame.length ∧
        metadataIndex + (byteAt frame metadataIndex).toNat + 2 < frame.length)

theorem succeeds_encryptionRequest (short : frame.length ≤ 254) :
    Succeeds (module.encryptionRequest frame) ↔
      (module.registered .protocolCcEncryptionRequest = true -> module.RequestFits frame) := by
  have widths := width_bounds module.basetype
  unfold encryptionRequest RequestFits
  rw [succeeds_if_registered]
  refine imp_congr_right fun _ => ?_
  simp only [succeeds_if_dropped, succeeds_byteOf_bind,
    succeeds_readNodeId_bind (show 3 < 250 by decide), succeeds_slice_bind, succeeds_pure,
    and_true, exists_prop, exists_and_right, exists_slice_eq, value_eq]
  rw [wrap_of_lt (show 3 + width module.basetype + 1 < 256 by omega)]
  generalize (byteAt frame (3 + width module.basetype)).toNat = length
  by_cases dropped : requestBufferSize < length
  · simp only [dropped, true_or, and_true]
    omega
  · have fits : length ≤ 180 := Nat.not_lt.mp dropped
    rw [wrap_of_lt (show 3 + width module.basetype + 1 + length < 256 by omega),
      Nat.add_right_comm (3 + width module.basetype) 1 length,
      wrap_of_lt (show 3 + width module.basetype + length + 1 + 1 < 256 by omega)]
    unfold wrap
    omega

/-- The lengths in a frame agree with its own length, by its function id, as far as there is a
callback that makes the code look at them. -/
def LengthsAgree : FuncId -> Prop
  | .applicationControllerUpdate =>
      module.registered .applicationControllerUpdate = true ->
        3 < frame.length ∧ module.UpdateFits frame
  | .applicationCommandHandler =>
      module.registered .applicationCommandHandler = true ->
        FieldFits frame (4 + width module.basetype) 0
  | .promiscuousApplicationCommandHandler =>
      module.registered .applicationCommandHandler = true -> FieldFits frame 5 2
  | .applicationCommandHandlerBridge =>
      module.registered .applicationCommandHandlerBridge = true ->
        FieldFits frame (4 + 2 * width module.basetype) 1
  | .sendNodeInformation => module.StatusFits frame .sendNodeInformation
  | .sendProtocolData => 4 < frame.length
  | .sendDataBridge => 4 < frame.length
  | .sendData => 4 < frame.length
  | .sendNop => 4 < frame.length
  | .sendTestFrame => module.StatusFits frame .sendTestFrame
  | .sendDataMultiBridge => module.StatusFits frame .sendDataMultiBridge
  | .sendDataMulti => module.StatusFits frame .sendDataMulti
  | .memoryPutBuffer => True
  | .setDefault => True
  | .controllerChange => module.LearnedFits frame .transferPrimaryCtrlRole
  | .createNewPrimary => module.LearnedFits frame .createNewPrimarlyCtrl
  | .removeNodeFromNetwork => module.LearnedFits frame .removeNodeFromNetwork
  | .removeNodeIdFromNetwork => module.LearnedFits frame .removeNodeFromNetwork
  | .addNodeToNetwork => module.LearnedFits frame .addNodeToNetwork
  | .replicationSendData => module.StatusFits frame .sendControllerReplication
  | .assignReturnRoute => module.StatusFits frame .assignReturnRoute
  | .deleteReturnRoute => module.StatusFits frame .deleteReturnRoute
  | .assignSucReturnRoute => module.StatusFits frame .assignSucReturnRoute
  | .deleteSucReturnRoute => module.StatusFits frame .deleteSucReturnRoute
  | .setLearnMode =>
      module.registered .setLearnMode = true -> FieldFits frame (5 + width module.basetype) 0
  | .setSlaveLearnMode =>
      module.registered .setVirtualNodeToLearnMode = true ->
        5 + 2 * width module.basetype ≤ frame.length
  | .setSucNodeId => module.StatusFits frame .setSucNodeId
  | .requestNodeNeighborUpdate => module.StatusFits frame .requestNeighborUpdate
  | .requestNetworkUpdate => module.StatusFits frame .requestNetworkUpdate
  | .removeFailedNodeId => module.StatusFits frame .removeFailedNode
  | .replaceFailedNode => module.StatusFits frame .replaceFailedNode
  | .serialApiStarted => module.registered .zwapiStarted = true -> 3 < frame.length
  | .requestProtocolCcEncryption =>
      module.registered .protocolCcEncryptionRequest = true -> module.RequestFits frame

/-- The handler of a frame stays inside exactly if the lengths agree. -/
theorem succeeds_handle (long : 3 ≤ frame.length) (short : frame.length ≤ 254) (funcId : FuncId) :
    Succeeds (module.handle frame funcId) ↔ module.LengthsAgree frame funcId := by
  cases funcId with
  | applicationControllerUpdate => exact module.succeeds_controllerUpdate frame
  | applicationCommandHandler => exact module.succeeds_commandHandler frame
  | promiscuousApplicationCommandHandler => exact module.succeeds_promiscuousCommandHandler frame
  | applicationCommandHandlerBridge => exact module.succeeds_commandHandlerBridge frame
  | sendProtocolData | sendDataBridge | sendData | sendNop =>
    exact module.succeeds_transmitted frame _
  | memoryPutBuffer | setDefault => exact iff_of_true (module.succeeds_reportDone frame _) trivial
  | controllerChange | createNewPrimary | removeNodeFromNetwork | removeNodeIdFromNetwork
  | addNodeToNetwork => exact module.succeeds_learned frame _
  | setLearnMode => exact module.succeeds_learnMode frame
  | setSlaveLearnMode => exact module.succeeds_slaveLearnMode frame
  | serialApiStarted => exact module.succeeds_started frame long short
  | requestProtocolCcEncryption => exact module.succeeds_encryptionRequest frame short
  | _ => exact module.succeeds_reportStatus frame _

/-- A dispatch keeps to the frame: it reads no byte behind it, writes none behind the buffer,
and hands over nothing but bytes of the frame. -/
def StaysInside : Prop := ∃ upcall after, module.rxDispatch frame = .ok (upcall, after)

/-- The frame is a response, or nothing is registered, or its function id is not dispatched, or
its lengths agree. -/
def FrameAgrees : Prop :=
  byteAt frame 1 = frameTypeResponse ∨ module.hasCallbacks = false ∨
    ∀ funcId, funcIdOf (byteAt frame 2) = some funcId -> module.LengthsAgree frame funcId

/-- A frame is dispatched with its own bytes only exactly when the lengths in it agree with
its length. -/
theorem staysInside_iff_frameAgrees (long : 3 ≤ frame.length) (short : frame.length ≤ 254) :
    module.StaysInside frame ↔ module.FrameAgrees frame := by
  have isSucceeds : module.StaysInside frame ↔ Succeeds (module.rxDispatch frame) :=
    ⟨fun ⟨upcall, after, isResult⟩ => ⟨(upcall, after), isResult⟩,
      fun ⟨(upcall, after), isResult⟩ => ⟨upcall, after, isResult⟩⟩
  rw [isSucceeds]
  unfold rxDispatch FrameAgrees
  have first : 1 < frame.length := by omega
  have second : 2 < frame.length := by omega
  rw [succeeds_byteOf_bind, exists_prop_of_true first, value_eq, succeeds_if_dropped,
    succeeds_if_registered]
  refine or_congr_right ?_
  rw [succeeds_byteOf_bind, exists_prop_of_true second, value_eq]
  cases isRegistered : module.hasCallbacks with
  | false => exact iff_of_true nofun (.inl rfl)
  | true =>
    cases found : funcIdOf (byteAt frame 2) with
    | none => exact iff_of_true (fun _ => succeeds_pure _) (.inr nofun)
    | some funcId =>
      simp only [succeeds_bind, succeeds_pure, and_true, forall_const, Bool.true_eq_false,
        false_or, Option.some.injEq, forall_eq']
      exact module.succeeds_handle frame long short funcId

/-- A module with all callbacks registered. -/
def allRegistered : Module := ⟨.nodeId8Bits, true, fun _ => true, false⟩

/-- A Basic Set from node 5. -/
def basicSet : List UInt8 := [9, 0x00, 0x04, 0x00, 0x05, 0x03, 0x20, 0x01, 0xFF]

/-- The node information of node 5, of four bytes. -/
def nodeInformation : List UInt8 := [10, 0x00, 0x49, 0x84, 0x05, 0x04, 0x02, 0x02, 0x01, 0x5E]

theorem staysInside_basicSet : allRegistered.StaysInside basicSet := by
  apply (staysInside_iff_frameAgrees allRegistered basicSet (by decide) (by decide)).mpr
  refine .inr (.inr fun funcId found => ?_)
  cases found
  intro _
  exact ⟨by decide, .inr (by decide)⟩

/-- Of the node information of node 5 seven bytes are copied. -/
theorem not_staysInside_nodeInformation : ¬ allRegistered.StaysInside nodeInformation := by
  rintro ⟨upcall, after, isResult⟩
  cases isResult

end Module

end RxDispatch

end SerialApi
