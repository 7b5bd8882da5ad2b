import Zpc.ApiTransports.Outcomes
import Zpc.Associations.AllGroups
import Zpc.AttributeResolver.Rearms
import Zpc.AttributeResolver.Retries
import Zpc.AttributeResolver.RuleSlots
import Zpc.AttributeResolver.ScanOrder
import Zpc.AttributeResolver.Settlements
import Zpc.AttributeStore.DeletionMarks
import Zpc.AttributeStore.FailingSaves
import Zpc.AttributeStore.Restoration
import Zpc.AttributeTimeouts.WatchTimer
import Zpc.MulticastFollowUps.GroupAssignments
import Zpc.MulticastFollowUps.Sessions
import Zpc.NetworkManagement.Inclusions
import Zpc.NetworkManagement.Requests
import Zpc.NetworkManagement.ReturnRoutes
import Zpc.NetworkManagement.StatusUpdates
import Zpc.NetworkManagement.Timeouts
import Zpc.NodeInformation.ControlMarks
import Zpc.Ota.Deliveries
import Zpc.Ota.SessionTable
import Zpc.S0.BootstrapOutcomes
import Zpc.S0.Confirmations
import Zpc.S0.Exchange
import Zpc.S0.NonceUses
import Zpc.S0.PendingSequences
import Zpc.S0.SessionCallbacks
import Zpc.S2.EchoedKexSets
import Zpc.S2.NlsReports
import Zpc.S2.NonceManagement
import Zpc.S2.TransportSessions
import Zpc.SerialApi.FrameBounds
import Zpc.SerialApi.LengthBytes
import Zpc.SerialApi.Receptions
import Zpc.SerialApi.SerialMutex
import Zpc.Smartstart.DskTexts
import Zpc.Smartstart.ProvisionedAdds
import Zpc.Supervision.FailedSends
import Zpc.TransportService.CorruptFragments
import Zpc.TransportService.RejectedRequests
import Zpc.TransportService.SegmentReplies
import Zpc.TransportService.SegmentWaits
import Zpc.TransportService.SessionIds
import Zpc.TransportService.SessionPeers
import Zpc.ZwaveFrames.FrameParser
import Zpc.ZwaveTx.Completions
import Zpc.ZwaveTx.EvictedFrames
import Zpc.ZwaveTx.EvictedParents
import Zpc.ZwaveTx.FailedRequests
import Zpc.ZwaveTx.ReceivedFrames
import Zpc.ZwaveTx.StuckFamilies
import Zpc.ZwaveTx.WakeUps
