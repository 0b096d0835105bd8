import Pollbook.Lib.Map
import Pollbook.Lib.Run
import Pollbook.Lib.Text
import Pollbook.Lib.Call
import Pollbook.Lib.Json
import Pollbook.Lib.Codec
import Pollbook.Lib.JsonText
import Pollbook.Lib.Base64
import Pollbook.Lib.Reference
import Pollbook.Lib.Utf8
import Pollbook.Lib.PyJson
import Pollbook.Lib.Framing
import Pollbook.Lib.Interleaving
import Pollbook.Lib.Simulation
import Pollbook.Abstract.PollingPlace
import Pollbook.Messages
import Pollbook.Common
import Pollbook.Checkin.State
import Pollbook.Checkin.FaultTracker
import Pollbook.Checkin.Roll
import Pollbook.Checkin.Handlers
import Pollbook.Checkin.Loop
import Pollbook.Keys
import Pollbook.Checkin.Startup
import Pollbook.IdService.Handlers
import Pollbook.IdService.Loop
import Pollbook.Client.Handlers
import Pollbook.Rehearsal
import Pollbook.Verify.Outcomes
import Pollbook.Verify.Steps
import Pollbook.Verify.Sessions
import Pollbook.Verify.Statuses
import Pollbook.Verify.Approvals
import Pollbook.Verify.Authorisation
import Pollbook.Verify.Tickets
import Pollbook.Verify.Freshness
import Pollbook.Verify.Rejections
import Pollbook.Verify.Survival
import Pollbook.Verify.Isolation
import Pollbook.Verify.Faults
import Pollbook.Verify.FaultRecords
import Pollbook.Verify.Agreement
import Pollbook.Verify.Payloads
import Pollbook.Verify.IdOutcomes
import Pollbook.Verify.IdSurvival
import Pollbook.Verify.IdSteps
import Pollbook.Verify.KeySteps
import Pollbook.Verify.Pinning
import Pollbook.Verify.Identity
import Pollbook.Verify.Listener
import Pollbook.Verify.KeyFiles
import Pollbook.Verify.Restarts
import Pollbook.Verify.PollingPlace
import Pollbook.Verify.Views
import Pollbook.Verify.Secrets
import Pollbook.Verify.Timestamps
import Pollbook.Verify.Rolls
import Pollbook.Verify.Endorsements
import Pollbook.Verify.TicketFile
import Pollbook.Verify.Trusted
import Pollbook.Verify.Framing
import Pollbook.Verify.Decisions
import Pollbook.Warnings.Server
import Pollbook.Verify.Warnings
import Pollbook.Client.Loop
import Pollbook.Verify.Requests
import Pollbook.Client.Python
import Pollbook.Verify.SignedBytes
import Pollbook.System
import Pollbook.Verify.Signers
import Pollbook.Verify.Provenance
import Pollbook.Verify.Genuine
import Pollbook.Verify.Drain
import Pollbook.Verify.Answers
import Pollbook.Warnings.Sessions
import Pollbook.Verify.WarningSessions
import Pollbook.Verify.Interference
import Pollbook.Verify.Completeness
