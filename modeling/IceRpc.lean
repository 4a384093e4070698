import IceRpc.Proofs.RemoteCancel
import IceRpc.Proofs.ProtocolVersion
import IceRpc.Proofs.CancellablePoll
import IceRpc.Proofs.MethodNames
import IceRpc.Proofs.SubjectReplay
import IceRpc.Proofs.PushLoop
import IceRpc.Proofs.AmbientCall
import IceRpc.Proofs.PendingTable
import IceRpc.Proofs.DrainOrder
import IceRpc.Proofs.OperatorGrammar
import IceRpc.Proofs.OperatorWakeups
import IceRpc.Proofs.MonitorBalance
import IceRpc.Proofs.SampleLoss
import IceRpc.Proofs.PastTheEnd
import IceRpc.Proofs.CatchRecovery
import IceRpc.Proofs.ListFunctions
import IceRpc.Proofs.MergeShuffle
import IceRpc.Proofs.SwitchLatest
import IceRpc.Proofs.DelayShift
import IceRpc.Proofs.RetryAttempts
import IceRpc.Proofs.HistogramAlgebra
import IceRpc.Proofs.OneProxy
import IceRpc.Proofs.OriginLabels
import IceRpc.Proofs.QueryStrings
import IceRpc.Proofs.StartupOrder
import IceRpc.Proofs.RegistryCounts
import IceRpc.Proofs.TraceFraming
import IceRpc.Proofs.Coalescing
import IceRpc.Proofs.CorrelationHash
import IceRpc.Proofs.SpanIds
import IceRpc.Proofs.EndToEnd
import IceRpc.Proofs.ReceiveLoop
