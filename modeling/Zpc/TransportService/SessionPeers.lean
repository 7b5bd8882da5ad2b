import Zpc.TransportService.SendCompletions
import Zpc.TransportService.SessionData

/-!
# The node of a session

The node of the session being sent and the node of the session being received are remembered
in eight bits each, with zero for none, while node ids have sixteen.  A frame is taken for
one of the session's node unless one of the remembered nodes says otherwise.
-/

namespace TransportService

open Foundation

/-- The node ids of Z-Wave and of Z-Wave Long Range. -/
def IsNodeId (node : Nat) : Prop := (1 ≤ node ∧ node ≤ 232) ∨ (256 ≤ node ∧ node ≤ 4000)

instance (node : Nat) : Decidable (IsNodeId node) := inferInstanceAs (Decidable (_ ∨ _))

namespace Service

/-- A session is being received. -/
def IsOpen (service : Service) : Prop :=
  service.flagInitializeOnce = false ∧ service.rcb.cmn.sessionId ≠ noSessionId

instance (service : Service) : Decidable service.IsOpen := inferInstanceAs (Decidable (_ ∧ _))

/-- A frame is taken for one of the node of the current session. -/
def TakesForPeer (service : Service) (source : Nat) (rxType : ReceiveType) : Prop :=
  ¬(service.isThirdNode source ∧ (rxType = .singlecast ∨ rxType = .broadcast))

instance (service : Service) (source : Nat) (rxType : ReceiveType) :
    Decidable (service.TakesForPeer source rxType) :=
  inferInstanceAs (Decidable (¬_))

/-- The frames of a node, and no others, are taken for those of the node. -/
def TellsApart (service : Service) (peer : Nat) (rxType : ReceiveType) : Prop :=
  ∀ source, IsNodeId source -> (service.TakesForPeer source rxType ↔ source = peer)

/-- One of the remembered nodes is the given one, and neither is another node. -/
structure Remembers (service : Service) (peer : Nat) : Prop where
  currentSnode : service.rcb.currentSnode = 0 ∨ service.rcb.currentSnode = peer
  currentDnode : service.scb.currentDnode = 0 ∨ service.scb.currentDnode = peer
  either : service.rcb.currentSnode ≠ 0 ∨ service.scb.currentDnode ≠ 0

variable {service : Service} {source peer : Nat} {rxType : ReceiveType}

/-- The remembered nodes have eight bits, and the one of the sending side is the destination
or forgotten. -/
structure Narrow (service : Service) : Prop where
  currentSnode : service.rcb.currentSnode < 2 ^ 8
  currentDnode :
    service.scb.currentDnode = 0 ∨ service.scb.currentDnode = service.scb.cmn.dest % 2 ^ 8

theorem Narrow.currentDnode_lt (narrow : service.Narrow) : service.scb.currentDnode < 2 ^ 8 := by
  rcases narrow.currentDnode with forgotten | isDest <;> omega

theorem Narrow.closes {before after : Service} (narrow : before.Narrow)
    (closes : before.Closes after) : after.Narrow where
  currentSnode := by
    rcases closes.session with ⟨_, same⟩ | ⟨_, cleared⟩
    · exact same ▸ narrow.currentSnode
    · rw [cleared]
      decide
  currentDnode := by
    rcases closes.currentDnode with same | cleared
    · rw [same, closes.dest]
      exact narrow.currentDnode
    · exact .inl cleared

theorem stable_narrow : Stable Narrow where
  closes := Narrow.closes
  initializes {service} narrow := by
    unfold initializeOnce
    split
    · exact ⟨Nat.two_pow_pos 8, narrow.currentDnode⟩
    · exact narrow
  measures narrow _ _ := ⟨narrow.currentSnode, narrow.currentDnode⟩
  opens narrow _ _ := ⟨Nat.mod_lt _ (by decide), narrow.currentDnode⟩
  begins narrow _ := ⟨narrow.currentSnode, .inr rfl⟩

theorem exists_other_nodeId (peer : Nat) : ∃ source, IsNodeId source ∧ source ≠ peer := by
  by_cases isFirst : peer = 1
  · exact ⟨2, by decide, by omega⟩
  · exact ⟨1, by decide, fun same => isFirst same.symm⟩

theorem Remembers.not_takesForPeer (remembers : service.Remembers peer) (isOther : source ≠ peer)
    (isSingle : rxType ≠ .multicast) : ¬service.TakesForPeer source rxType := by
  intro takes
  refine takes ⟨?_, ?_⟩
  · rcases remembers.either with receives | sends
    · have isPeer := remembers.currentSnode.resolve_left receives
      exact .inl ⟨fun same => isOther (same.trans isPeer), receives⟩
    · have isPeer := remembers.currentDnode.resolve_left sends
      exact .inr ⟨fun same => isOther (same.trans isPeer), sends⟩
  · cases rxType with
    | singlecast => exact .inl rfl
    | broadcast => exact .inr rfl
    | multicast => exact absurd rfl isSingle

theorem Remembers.takesForPeer (remembers : service.Remembers peer) (rxType : ReceiveType) :
    service.TakesForPeer peer rxType := by
  rintro ⟨⟨isOther, receives⟩ | ⟨isOther, sends⟩, _⟩
  · exact isOther (remembers.currentSnode.resolve_left receives).symm
  · exact isOther (remembers.currentDnode.resolve_left sends).symm

theorem TellsApart.remembers (tells : service.TellsApart peer rxType) (isNodeId : IsNodeId peer)
    (isSingle : rxType ≠ .multicast) : service.Remembers peer := by
  have isDropped : rxType = .singlecast ∨ rxType = .broadcast := by
    cases rxType with
    | singlecast => exact .inl rfl
    | broadcast => exact .inr rfl
    | multicast => exact absurd rfl isSingle
  have takes := (tells peer isNodeId).mpr rfl
  have notThird : ¬service.isThirdNode peer := fun isThird => takes ⟨isThird, isDropped⟩
  refine ⟨?_, ?_, ?_⟩
  · by_contra isOther
    rw [not_or] at isOther
    exact notThird (.inl ⟨fun same => isOther.2 same.symm, isOther.1⟩)
  · by_contra isOther
    rw [not_or] at isOther
    exact notThird (.inr ⟨fun same => isOther.2 same.symm, isOther.1⟩)
  · by_contra neither
    obtain ⟨source, isSource, isOther⟩ := exists_other_nodeId peer
    refine isOther ((tells source isSource).mp ?_)
    rintro ⟨⟨_, receives⟩ | ⟨_, sends⟩, _⟩
    · exact neither (.inl receives)
    · exact neither (.inr sends)

theorem tellsApart_iff (narrow : service.Narrow) (isNodeId : IsNodeId peer) (rxType : ReceiveType) :
    service.TellsApart peer rxType ↔
      rxType ≠ .multicast ∧ peer < 2 ^ 8 ∧ service.Remembers peer := by
  constructor
  · intro tells
    have isSingle : rxType ≠ .multicast := by
      intro isMulticast
      obtain ⟨source, isSource, isOther⟩ := exists_other_nodeId peer
      refine isOther ((tells source isSource).mp ?_)
      rintro ⟨_, dropped⟩
      rw [isMulticast] at dropped
      rcases dropped with dropped | dropped <;> cases dropped
    have remembers := tells.remembers isNodeId isSingle
    refine ⟨isSingle, ?_, remembers⟩
    rcases remembers.either with receives | sends
    · exact remembers.currentSnode.resolve_left receives ▸ narrow.currentSnode
    · exact remembers.currentDnode.resolve_left sends ▸ narrow.currentDnode_lt
  · rintro ⟨isSingle, _, remembers⟩ source _
    constructor
    · intro takes
      by_contra isOther
      exact remembers.not_takesForPeer isOther isSingle takes
    · rintro rfl
      exact remembers.takesForPeer rxType

end Service

/-- The wrapper, with the node that opened the session being received. -/
structure TrackedWrapper where
  wrapper : Wrapper
  opener : Option Nat

namespace TrackedWrapper

/-- Nothing was received. -/
def initial : TrackedWrapper := ⟨Wrapper.initial, none⟩

/-- The node whose frame an action brings. -/
def sourceOf : Wrapper.Action -> Option Nat
  | .frameReceived source _ _ _ _ _ _ => some source
  | _ => none

/-- One step.  The node of the frame that opens a session is kept until it is closed. -/
def step (tracked : TrackedWrapper) (action : Wrapper.Action) : TrackedWrapper :=
  let next := tracked.wrapper.step action
  { wrapper := next
    opener :=
      if next.service.IsOpen then
        if tracked.wrapper.service.IsOpen then tracked.opener else sourceOf action
      else none }

/-- The node id the current session was opened with. -/
def peer (tracked : TrackedWrapper) : Option Nat :=
  if tracked.wrapper.service.currentState.isSending then
    some tracked.wrapper.service.scb.cmn.dest
  else tracked.opener

/-- The node of the session is remembered on one of the sides, and no other node is.  While a
session is being sent, its side remembers no other node. -/
structure Remembers (tracked : TrackedWrapper) (node : Nat) : Prop where
  currentSnode :
    tracked.wrapper.service.rcb.currentSnode = 0 ∨ tracked.wrapper.service.rcb.currentSnode = node
  currentDnode :
    tracked.wrapper.service.currentState.isSending = false ->
      tracked.wrapper.service.scb.currentDnode = 0 ∨ tracked.wrapper.service.scb.currentDnode = node
  either :
    tracked.wrapper.service.rcb.currentSnode ≠ 0 ∨ tracked.wrapper.service.scb.currentDnode ≠ 0

theorem remembers_iff {tracked : TrackedWrapper} (narrow : tracked.wrapper.service.Narrow)
    {node : Nat} (isPeer : tracked.peer = some node) (isNarrow : node < 2 ^ 8) :
    tracked.wrapper.service.Remembers node ↔ tracked.Remembers node := by
  constructor
  · intro remembers
    exact ⟨remembers.currentSnode, fun _ => remembers.currentDnode, remembers.either⟩
  · intro remembers
    refine ⟨remembers.currentSnode, ?_, remembers.either⟩
    cases isSending : tracked.wrapper.service.currentState.isSending with
    | false => exact remembers.currentDnode isSending
    | true =>
      have isDest : tracked.wrapper.service.scb.cmn.dest = node := by
        unfold peer at isPeer
        rw [if_pos isSending] at isPeer
        exact Option.some.inj isPeer
      have remembered := narrow.currentDnode
      rwa [isDest, Nat.mod_eq_of_lt isNarrow] at remembered

/-- In every run the stored peers fit into eight bits. -/
theorem narrow_run (actions : List Wrapper.Action) :
    (run step initial actions).wrapper.service.Narrow := by
  have narrow : Service.Narrow initial.wrapper.service := ⟨by decide, .inl rfl⟩
  exact run_invariant (fun tracked : TrackedWrapper => tracked.wrapper.service.Narrow)
    (fun _ action holds => Wrapper.step_stable Service.stable_narrow holds action) narrow actions

/-- In every state of a run in which there is a session, the frames of its node and no others
are taken for those of the node exactly when the frames are not multicasts and the node id
fits into eight bits, is remembered, and no other node is. -/
theorem tells_peer_apart_iff (actions : List Wrapper.Action) {node : Nat}
    (isPeer : (run step initial actions).peer = some node) (isNodeId : IsNodeId node)
    (rxType : ReceiveType) :
    (run step initial actions).wrapper.service.TellsApart node rxType ↔
      rxType ≠ .multicast ∧ node < 2 ^ 8 ∧ (run step initial actions).Remembers node := by
  rw [Service.tellsApart_iff (narrow_run actions) isNodeId rxType]
  constructor
  · rintro ⟨isSingle, isNarrow, remembers⟩
    exact ⟨isSingle, isNarrow, (remembers_iff (narrow_run actions) isPeer isNarrow).mp remembers⟩
  · rintro ⟨isSingle, isNarrow, remembers⟩
    exact ⟨isSingle, isNarrow, (remembers_iff (narrow_run actions) isPeer isNarrow).mpr remembers⟩

/-- A datagram is sent to a node. -/
def sendingRun (node : Nat) : List Wrapper.Action :=
  [.sendData Wrapper.sampleSurroundings { Wrapper.sampleRequest with remoteNodeId := node } 40
    true]

theorem tells_peer_apart_sample :
    (run step initial (sendingRun 5)).wrapper.service.TellsApart 5 .singlecast :=
  (tells_peer_apart_iff (sendingRun 5) (by decide +kernel) (by decide) .singlecast).mpr
    ⟨by decide, by decide, ⟨by decide +kernel, by decide +kernel, by decide +kernel⟩⟩

/-- A Long Range node is taken for a third node in its own session, and the node with the
lower eight bits of its id for the node of the session. -/
theorem not_tellsApart_longRange :
    (run step initial (sendingRun 261)).peer = some 261 ∧
      ¬(run step initial (sendingRun 261)).wrapper.service.TakesForPeer 261 .singlecast ∧
      (run step initial (sendingRun 261)).wrapper.service.TakesForPeer 5 .singlecast ∧
      ¬(run step initial (sendingRun 261)).wrapper.service.TellsApart 261 .singlecast := by
  have isStranger :
      ¬(run step initial (sendingRun 261)).wrapper.service.TakesForPeer 261 .singlecast := by
    decide +kernel
  refine ⟨by decide +kernel, isStranger, by decide +kernel, fun tells => ?_⟩
  exact isStranger ((tells 261 (by decide)).mpr rfl)

end TrackedWrapper

end TransportService
