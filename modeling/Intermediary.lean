import Intermediary.Main
import Intermediary.Proofs.Admin.Keyless
import Intermediary.Proofs.Blocklist
import Intermediary.Proofs.Cache.Census
import Intermediary.Proofs.Cache.Directives
import Intermediary.Proofs.Cache.Expiry
import Intermediary.Proofs.Cache.TimedMap
import Intermediary.Proofs.Forwarding
import Intermediary.Proofs.Header.Cycle
import Intermediary.Proofs.Header.Gathering
import Intermediary.Proofs.Header.Ordered
import Intermediary.Proofs.Header.Receivers
import Intermediary.Proofs.Payload.Intake
import Intermediary.Proofs.Request.Framing
import Intermediary.Proofs.Request.Reread
import Intermediary.Proofs.Response.Interim
import Intermediary.Proofs.Response.Reread
import Intermediary.Proofs.Scheduler.Once
import Intermediary.Proofs.Service.Balance
import Intermediary.Proofs.Service.Deadline
import Intermediary.Proofs.Service.Discipline
import Intermediary.Proofs.Service.OneHost
import Intermediary.Proofs.Service.Provenance
import Intermediary.Proofs.Service.Purge
import Intermediary.Proofs.Service.Reception
import Intermediary.Proofs.Service.Transparent
import Intermediary.Proofs.Service.Verdict
import Intermediary.Proofs.Settings.Overrides
import Intermediary.Proofs.Settings.Trial
import Intermediary.Proofs.Target.Agreement
import Intermediary.Proofs.Tunnel.Bridge
import Intermediary.Proofs.Tunnel.HalfClose
import Intermediary.Rehearsal.Launch
import Intermediary.Rehearsal.Session
