import Intermediary.Settings
import Intermediary.SocketAddress

/-!
# Constraints on settings

Settings are sound when every constraint holds.  A constraint concerns one
field, is independent of the others, and has a place in a fixed order in which
violations are reported.
-/

namespace Intermediary

open Text

theorem lt_of_mod_ne_zero {n d : UInt64} (hle : d ≤ n) (hrest : n % d ≠ 0) : d < n := by
  refine UInt64.lt_of_le_of_ne hle ?_
  rintro rfl
  exact hrest (UInt64.mod_self)

theorem toNat_add_one {n d : UInt64} (hlt : d < n) : (d + 1).toNat = d.toNat + 1 := by
  have hd := UInt64.lt_iff_toNat_lt.1 hlt
  have hn := n.toNat_lt
  rw [UInt64.toNat_add]
  exact Nat.mod_eq_of_lt (Nat.lt_of_le_of_lt hd hn)

theorem add_one_le {n d : UInt64} (hlt : d < n) : d + 1 ≤ n := by
  rw [UInt64.le_iff_toNat_le, toNat_add_one hlt]
  exact UInt64.lt_iff_toNat_lt.1 hlt

/--
No number from `d` on divides `n` before the first whose square is above `n`.
Squares are words: that of a number from 2³² on wraps.
-/
def hasNoDivisorFrom (n d : UInt64) (hle : d ≤ n) : Bool :=
  if n < d * d then true
  else if hrest : n % d = 0 then false
  else hasNoDivisorFrom n (d + 1) (add_one_le (lt_of_mod_ne_zero hle hrest))
  termination_by n.toNat - d.toNat
  decreasing_by
    have hlt := lt_of_mod_ne_zero hle hrest
    rw [toNat_add_one hlt]
    have hd := UInt64.lt_iff_toNat_lt.1 hlt
    omega

/-- Whether a number is prime, by trial division. -/
def isPrime (n : UInt64) : Bool :=
  if hle : 2 ≤ n then hasNoDivisorFrom n 2 hle else false

/-- A constraint, named for the field that it concerns. -/
inductive Constraint where
  | listenerAddress
  | workers
  | queueDepth
  | stripes
  | idleTimeout
  | bufferSize
  | connectTimeout
  | readTimeout
  | writeTimeout
  | lineBytes
  | headerFields
  | parentHost
  | parentPort
  | metricsAddress
  | adminAddress
  | adminKey
  deriving DecidableEq, Repr

namespace Constraint

/-- Every constraint, in the order of reports. -/
def all : List Constraint :=
  [.listenerAddress, .workers, .queueDepth, .stripes, .idleTimeout, .bufferSize,
    .connectTimeout, .readTimeout, .writeTimeout, .lineBytes, .headerFields,
    .parentHost, .parentPort, .metricsAddress, .adminAddress, .adminKey]

def isAddress (text : String) : Bool :=
  (SocketAddress.ofText? text).isSome

def holds (settings : Settings) : Constraint -> Bool
  | .listenerAddress => isAddress settings.listener.address
  | .workers => settings.scheduler.workers != 0
  | .queueDepth => settings.scheduler.queueDepth != 0
  | .stripes => isPrime (UInt64.ofNat settings.cache.stripes)
  | .idleTimeout => settings.tunnel.idleTimeout != 0
  | .bufferSize => settings.tunnel.bufferSize != 0
  | .connectTimeout => settings.timeouts.connect != 0
  | .readTimeout => settings.timeouts.read != 0
  | .writeTimeout => settings.timeouts.write != 0
  | .lineBytes => settings.limits.lineBytes != 0
  | .headerFields => settings.limits.headerFields != 0
  | .parentHost => settings.parent.all (·.host != "")
  | .parentPort => settings.parent.all (·.port != 0)
  | .metricsAddress =>
      ! settings.report.metricsEnabled || isAddress settings.report.metricsAddress
  | .adminAddress => ! settings.admin.enabled || isAddress settings.admin.address
  | .adminKey =>
      ! settings.admin.enabled ||
        settings.admin.key != "" && settings.admin.key != placeholderKey

/-- The field that a constraint concerns, as it is named in a document. -/
def field : Constraint -> String
  | .listenerAddress => "listener.bind_address"
  | .workers => "scheduler.workers"
  | .queueDepth => "scheduler.queue_depth"
  | .stripes => "cache.stripes"
  | .idleTimeout => "tunnel.idle_timeout_secs"
  | .bufferSize => "tunnel.buffer_size"
  | .connectTimeout => "timeouts.connect_secs"
  | .readTimeout => "timeouts.read_secs"
  | .writeTimeout => "timeouts.write_secs"
  | .lineBytes => "limits.max_line_bytes"
  | .headerFields => "limits.max_headers"
  | .parentHost => "upstream.host"
  | .parentPort => "upstream.port"
  | .metricsAddress => "observability.metrics_address"
  | .adminAddress => "admin.bind_address"
  | .adminKey => "admin.api_key"

def notAnAddress (text : String) : String :=
  quoted text ++ " is not a socket address"

/-- What is said about settings that violate a constraint. -/
def complaint (settings : Settings) : Constraint -> String
  | .listenerAddress => notAnAddress settings.listener.address
  | .stripes => decimal settings.cache.stripes ++ " is not a prime number"
  | .parentHost => "must not be empty"
  | .parentPort => "must be a valid port"
  | .metricsAddress => notAnAddress settings.report.metricsAddress
  | .adminAddress => notAnAddress settings.admin.address
  | .adminKey => "must be set when the admin API is enabled"
  | _ => "must be greater than zero"

end Constraint

/-- One violated constraint: its field and what is said about it. -/
structure Violation where
  field : String
  complaint : String
  deriving DecidableEq, Repr

namespace Violation

def message (violation : Violation) : String :=
  violation.field ++ ": " ++ violation.complaint

end Violation

namespace Settings

/-- The violated constraints, in the order of reports. -/
def violated (settings : Settings) : List Constraint :=
  Constraint.all.filter fun constraint => ! constraint.holds settings

/-- What is to be said about these settings; nothing, when they are sound. -/
def violations (settings : Settings) : List Violation :=
  settings.violated.map fun constraint =>
    { field := constraint.field, complaint := constraint.complaint settings }

theorem mem_violated {settings : Settings} {constraint : Constraint} :
    constraint ∈ settings.violated ↔ constraint.holds settings = false := by
  unfold violated
  rw [List.mem_filter]
  constructor
  · rintro ⟨_, h⟩
    simpa using h
  · intro h
    refine ⟨?_, by simpa using h⟩
    cases constraint <;> decide

end Settings

end Intermediary
