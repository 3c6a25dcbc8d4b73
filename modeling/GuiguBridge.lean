import GuiguBridge.A2a.Saga
import GuiguBridge.Lib.Totals
import GuiguBridge.ReferenceLaws
import GuiguBridge.Storage.OutputQuota
import GuiguBridge.Storage.OwnerEvidence
import GuiguBridge.Storage.Workflow
import GuiguBridge.Runtime.DurableLog
import GuiguBridge.Runtime.LeaseFencing
import GuiguBridge.Runtime.WorkspaceClaims
import GuiguBridge.Runtime.LeaseCoherence
import GuiguBridge.Runtime.LeasedDispatcher
import GuiguBridge.Bus.LifecycleRefinement
import GuiguBridge.Bus.CancelHistory
import GuiguBridge.Bus.FailStop
import GuiguBridge.App.AdmissionCas
import GuiguBridge.App.DeliveryCursor
import GuiguBridge.App.GatewayReplay
import GuiguBridge.App.Idempotence
import GuiguBridge.App.Outbox
import GuiguBridge.App.Prompts
import GuiguBridge.App.QueueCapacity
import GuiguBridge.Gateway.PhaseMachine
import GuiguBridge.Lib.Eviction
import GuiguBridge.Bus.Control
import GuiguBridge.Bus.Retirement
import GuiguBridge.Acp.SessionBindings
import GuiguBridge.Acp.SessionContinuity
import GuiguBridge.A2a.Outbound
import GuiguBridge.A2a.Cleanup
import GuiguBridge.Acp.Transport
import GuiguBridge.App.QueueTracking
import GuiguBridge.Acp.SpawnGate
import GuiguBridge.App.Reload
import GuiguBridge.Admission.Guard
import GuiguBridge.App.WorkflowReplay
import GuiguBridge.Admission.Exclusion
import GuiguBridge.Admission.RecordCodec
import GuiguBridge.Admission.Reclaim
import GuiguBridge.Lib.ByteCodec
import GuiguBridge.StateBackup.Codec
import GuiguBridge.Matrix.CommandLedger
import GuiguBridge.Matrix.CommandRuns
import GuiguBridge.Storage.Cycle
import GuiguBridge.Bus.Serving
import GuiguBridge.Bus.QueueLoop
import GuiguBridge.Bus.QueueOrder
import GuiguBridge.App.Reservations
import GuiguBridge.Acp.PublishFile
import GuiguBridge.Acp.OutputParts
import GuiguBridge.Acp.OutputPublication
import GuiguBridge.Acp.OutputRoundTrip
import GuiguBridge.Acp.OutputStream
import GuiguBridge.App.DeliveryAttempts
import GuiguBridge.A2a.Normalize
import GuiguBridge.Acp.ChildBinding
import GuiguBridge.Acp.Classification
import GuiguBridge.Acp.Framing
import GuiguBridge.Acp.TurnText
import GuiguBridge.Gateway.Takeover
import GuiguBridge.Lib.JsonStream
import GuiguBridge.Lib.Search
import GuiguBridge.Storage.TimestampOrder
import GuiguBridge.Storage.WorkflowGrammar
import GuiguBridge.Lib.Cursor
import GuiguBridge.StateBackup.Cursor
import GuiguBridge.StateBackup.Witness
import GuiguBridge.PrivilegedProc.Codec
import GuiguBridge.PrivilegedProc.Protocol
import GuiguBridge.App.Replies
import GuiguBridge.Config.Load
import GuiguBridge.Lib.Batch
import GuiguBridge.Observer.Trace
import GuiguBridge.Runtime.OfflineDelivery
