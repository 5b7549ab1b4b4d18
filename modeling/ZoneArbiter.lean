import ZoneArbiter.Device.Watched
import ZoneArbiter.Json.Reader
import ZoneArbiter.Json.Shown
import ZoneArbiter.Log.Sink
import ZoneArbiter.Preferences.Basic
import ZoneArbiter.Proofs.AnyOrder
import ZoneArbiter.Proofs.Convergence
import ZoneArbiter.Proofs.DebugLines
import ZoneArbiter.Proofs.FailedStore
import ZoneArbiter.Proofs.Forgetting
import ZoneArbiter.Proofs.Freshness
import ZoneArbiter.Proofs.Isolation
import ZoneArbiter.Proofs.Lingering
import ZoneArbiter.Proofs.Loading
import ZoneArbiter.Proofs.LogTail
import ZoneArbiter.Proofs.Movement
import ZoneArbiter.Proofs.Notification
import ZoneArbiter.Proofs.Picks
import ZoneArbiter.Proofs.Queries
import ZoneArbiter.Proofs.Recall
import ZoneArbiter.Proofs.Redelivery
import ZoneArbiter.Proofs.Refusal
import ZoneArbiter.Proofs.Repetition
import ZoneArbiter.Proofs.Reporting
import ZoneArbiter.Proofs.Settings
import ZoneArbiter.Proofs.StatusPage
import ZoneArbiter.Proofs.Superseded
import ZoneArbiter.Proofs.Wire.RoundTrip
import ZoneArbiter.Proofs.Withdrawal
import ZoneArbiter.Session.Run
import ZoneArbiter.Wire.Assign
