import Vantyr.Agent.Permissions
import Vantyr.Data.Json
import Vantyr.Data.Uuid
import Vantyr.Protocol.Modules
import Vantyr.Protocol.Commands
import Vantyr.Protocol.ServerCommand
import Vantyr.Agent.Fence
import Vantyr.Data.Table
import Vantyr.Server.ModuleReport
import Vantyr.Server.Sessions
import Vantyr.Server.State
import Vantyr.Server.Capture
import Vantyr.Server.Runtime
import Vantyr.Server.Clipboard
import Vantyr.Server.Connection
import Vantyr.Server.System
import Vantyr.Server.Actions
import Vantyr.Server.Coherence
import Vantyr.Server.Refinement.Leases
import Vantyr.Server.Refinement.Capture
import Vantyr.Server.ClipboardFence
import Vantyr.Server.Placement
import Vantyr.Server.Succession
import Vantyr.Agent.BinaryFence
import Vantyr.Agent.Disable
import Vantyr.Agent.Routes
import Vantyr.Agent.Spool
import Vantyr.Data.Keyset
import Vantyr.Recall.Upload
import Vantyr.Server.Agreement
import Vantyr.Server.Recall.Cursor
import Vantyr.Server.Recall.Retention
import Vantyr.Server.Stamps
import Vantyr.Data.Latch
import Vantyr.Server.CaptureAgreement
import Vantyr.Server.Recall.Context
import Vantyr.Server.Recall.Noninterference
import Vantyr.Server.Enrollment.Delivery
import Vantyr.Dashboard.LeaseAgreement
import Vantyr.Dashboard.StreamReader
import Vantyr.Server.Disables
import Vantyr.Agent.Curfew
import Vantyr.Agent.WsClient
import Vantyr.Agent.InputAgreement
import Vantyr.Agent.DesktopRect
import Vantyr.Server.Leases.Held
import Vantyr.Server.Accounts.Admins
import Vantyr.Server.Accounts.RecoveryCodes
import Vantyr.Server.Accounts.LockoutBound
import Vantyr.Server.Accounts.TrustedProxy
import Vantyr.Server.Visits
import Vantyr.Server.FreshFrames
import Vantyr.Data.Runs
import Vantyr.Data.Base64
import Vantyr.Data.Decimal
import Vantyr.Agent.CaptureGeometry
import Vantyr.Agent.FileTransfer
import Vantyr.Agent.FileUpload
import Vantyr.Agent.SpoolBudget
import Vantyr.Agent.SpoolFile
import Vantyr.Agent.SpoolRuns
import Vantyr.Dashboard.FileDownload
import Vantyr.Server.Recall.AuditThrottle
import Vantyr.Server.Recall.Segments
import Vantyr.Server.Policy.Rules
import Vantyr.Server.Policy.AppBlock
import Vantyr.Server.Policy.InternetBlock
import Vantyr.Server.Policy.AlertCooldown
import Vantyr.Server.Policy.AlertScreenshot
import Vantyr.Data.Unique
import Vantyr.Server.KeySessions
import Vantyr.Server.CategoryLookup
import Vantyr.Server.ScheduledScripts
import Vantyr.Server.Accounts.RetryAfter
import Vantyr.Server.Accounts.ReturnTo
import Vantyr.Dashboard.JpegWalk
import Vantyr.Dashboard.ActivitySessions
import Vantyr.Dashboard.ActivityAttribution
import Vantyr.Dashboard.ActivityRows
import Vantyr.Data.Civil
import Vantyr.Data.Ranking
import Vantyr.Data.Strip
import Vantyr.Data.Query
import Vantyr.Server.Recall.LiteralLike
import Vantyr.Server.Recall.LocalDay
import Vantyr.Server.Recall.DaySummary
import Vantyr.Dashboard.RecallPlayback
import Vantyr.Dashboard.DeviceTime
import Vantyr.Dashboard.RecallFilters
import Vantyr.Dashboard.RecallSearch
import Vantyr.Data.Rollup
import Vantyr.Server.CustomCategories
import Vantyr.Dashboard.CategoryDraft
import Vantyr.Dashboard.CategorySave
import Vantyr.Dashboard.FileSending
import Vantyr.Agent.HistoryCapture
import Vantyr.Agent.HistoryFrames
import Vantyr.Agent.UrlSessions
import Vantyr.Dashboard.RemoteInput
import Vantyr.Dashboard.RemoteHeld
import Vantyr.Dashboard.RecallPaging
