import Dreamscroll.Task.Linear
import Dreamscroll.Task.HandOver
import Dreamscroll.Task.Hints
import Dreamscroll.Webhook.Contract
import Dreamscroll.Logic.CatchUp
import Dreamscroll.Webui.Reconnect
import Dreamscroll.Backfill.Coverage
import Dreamscroll.Service.ReadBack
import Dreamscroll.Logic.Exposed
import Dreamscroll.Task.Replay
import Dreamscroll.Webui.Content
import Dreamscroll.Sse.Codec
import Dreamscroll.Export.Server
import Dreamscroll.Export.Client
import Dreamscroll.Webui.Progress
import Dreamscroll.Webui.ProgressSettled
import Dreamscroll.Common.Rfc3339
import Dreamscroll.Webui.Snapshot
import Dreamscroll.Service.Annotation
import Dreamscroll.Common.Overlap
import Dreamscroll.Service.InsertCapture
import Dreamscroll.Export.Digest
import Dreamscroll.Common.OneShotQueue
import Dreamscroll.Task.LocalQueue
import Dreamscroll.Task.LocalShutdown
import Dreamscroll.Logic.Payload
import Dreamscroll.Common.LockedTransaction
import Dreamscroll.Database.SyncSchema
import Dreamscroll.Backfill.Accounting
import Dreamscroll.Service.InsertSpark
import Dreamscroll.Task.Timing
import Dreamscroll.Logic.Spark
import Dreamscroll.Service.DeleteCapture
import Dreamscroll.Service.Upload
import Dreamscroll.Common.Budget
import Dreamscroll.Service.SparkAtomic
import Dreamscroll.Webhook.Spark
import Dreamscroll.Common.Fields
import Dreamscroll.Illumination.Markdown
import Dreamscroll.Llms.Inference
import Dreamscroll.Search.CaptureSearcher
import Dreamscroll.Llms.Responses
import Dreamscroll.Common.Url
import Dreamscroll.Webui.Redirect
import Dreamscroll.Task.LocalBackend
import Dreamscroll.Task.LocalPlaces
import Dreamscroll.Task.Stranded
import Dreamscroll.Search.VectorStore
import Dreamscroll.Common.JsonSchema
import Dreamscroll.Illumination.FromRaw
import Dreamscroll.Logic.RawResults
import Dreamscroll.UtilCmds.Illuminate
import Dreamscroll.Common.Timeouts
import Dreamscroll.Webui.Connection
import Dreamscroll.Webui.ConnectionTimes
import Dreamscroll.Common.Aggregate
import Dreamscroll.Task.Columns
import Dreamscroll.Stats.Queue
import Dreamscroll.Stats.Failures
import Dreamscroll.Auth.Traced
import Dreamscroll.Service.Imports
