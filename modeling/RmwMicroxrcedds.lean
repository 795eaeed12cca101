import RmwMicroxrcedds.Pool.Discipline
import RmwMicroxrcedds.Pool.Growth
import RmwMicroxrcedds.Spec.ExactlyOnce
import RmwMicroxrcedds.Spec.Expiry
import RmwMicroxrcedds.Spec.HalfCreated
import RmwMicroxrcedds.Spec.Lifetimes
import RmwMicroxrcedds.Spec.Readiness
import RmwMicroxrcedds.Spec.Routing
import RmwMicroxrcedds.Spec.ArrivalOrder
import RmwMicroxrcedds.Spec.BoundedQueue
import RmwMicroxrcedds.Spec.Naming
import RmwMicroxrcedds.Spec.ExactExpiry
import RmwMicroxrcedds.Spec.MemoryPressure
import RmwMicroxrcedds.Spec.OptionBlocks
import RmwMicroxrcedds.Spec.GraphQueries
import RmwMicroxrcedds.Spec.GuardHandles
import RmwMicroxrcedds.Spec.Shutdown
import RmwMicroxrcedds.Spec.FailingCreations
import RmwMicroxrcedds.Spec.NodeRemoval
import RmwMicroxrcedds.Spec.DestroyResults
import RmwMicroxrcedds.Spec.ObjectIds
import RmwMicroxrcedds.Spec.AgentBalance
import RmwMicroxrcedds.Spec.FailedReceptions
import RmwMicroxrcedds.Spec.TakeSequences
import RmwMicroxrcedds.Spec.RequestIdentity
import RmwMicroxrcedds.Spec.WaitTimeouts
import RmwMicroxrcedds.Spec.Documents
import RmwMicroxrcedds.Spec.TransportOptions
import RmwMicroxrcedds.Spec.FailedOpenings
import RmwMicroxrcedds.Spec.WaitReports
import RmwMicroxrcedds.Spec.WholeNames
import RmwMicroxrcedds.Spec.NodeNames
import RmwMicroxrcedds.Spec.ParserSafety
import RmwMicroxrcedds.Spec.GraphDecoding
import RmwMicroxrcedds.Spec.Sends
import RmwMicroxrcedds.Spec.DeadHandles
import RmwMicroxrcedds.Spec.LockBalance
import RmwMicroxrcedds.Spec.Gids
import RmwMicroxrcedds.Spec.Protocol
import RmwMicroxrcedds.Spec.MessageFates
import RmwMicroxrcedds.Base.ThreadProgress
import RmwMicroxrcedds.Base.Templates
import RmwMicroxrcedds.Spec.ConcurrentPools
import RmwMicroxrcedds.Spec.ItemCustody
import RmwMicroxrcedds.Proof.UnmovedCreations
import RmwMicroxrcedds.Spec.Records
import RmwMicroxrcedds.Spec.Budgets
import RmwMicroxrcedds.Concurrent.Buffers
import RmwMicroxrcedds.Spec.ConcurrentBuffers
import RmwMicroxrcedds.Spec.ConcurrentMessages
import RmwMicroxrcedds.Spec.WireNames
import RmwMicroxrcedds.Spec.ReadDocuments
import RmwMicroxrcedds.Spec.GraphAnswers
