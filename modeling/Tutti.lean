import Tutti.Index.Recency
import Tutti.Engine.Reconcile
import Tutti.Engine.Attempts
import Tutti.Engine.AsyncReadPlan
import Tutti.Vllm.LoadCoverage
import Tutti.Vllm.AsyncOutcome
import Tutti.Vllm.StoreVisibility
import Tutti.Storage.CheckpointCodec
import Tutti.Storage.Reclamation
import Tutti.Storage.ExactSizes
import Tutti.Storage.CrossRank
import Tutti.Storage.Precreation
import Tutti.Storage.Reconfiguration
import Tutti.Runtime.FailureAttribution
import Tutti.Runtime.Fleet
import Tutti.Runtime.Shutdown
import Tutti.Python.TerminalWindow
import Tutti.Nvme.CommitIntegrity
import Tutti.Striped.TargetGuard
import Tutti.Striped.WorkerPool
import Tutti.LocalNvme.PrpRetention
import Tutti.LocalNvme.SubmissionQueue
import Tutti.Snvme.QidPool
import Tutti.Nvme.SubmitRetry
import Tutti.Daemon.Unmount
import Tutti.Libnvm.BringUp
import Tutti.Resource.Lease
import Tutti.Runtime.CreditTables
import Tutti.Runtime.Credits
