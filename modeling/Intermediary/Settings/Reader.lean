import Intermediary.Bytes
import Intermediary.Settings.Constraint
import Intermediary.Toml.Reader

/-!
# Reading settings

Settings are read from a document.  What the document leaves out keeps its
default, names that mean nothing are passed over, and a value of the wrong kind
is refused.  A section may also be written as an array, its settings in their
fixed order.
-/

namespace Intermediary

inductive Section where
  /-- Its settings stand under their names. -/
  | named (fields : Toml.Fields)
  /-- Its settings stand one after another. -/
  | listed (items : List Toml.Value)

namespace Section

/-- The section that a value writes.  A date counts as one without settings. -/
def ofValue? : Toml.Value -> Option Section
  | .table _ fields => some (.named fields)
  | .array items => some (.listed items)
  | .tables members => some (.listed (members.map (.table .header)))
  | .moment _ => some (.named [])
  | _ => none

def find? (place : Nat) (name : String) : Section -> Option Toml.Value
  | .named fields => fields.find? name
  | .listed items => items[place]?

/-- A setting that keeps its default when it is left out. -/
def get {α : Type} (read : Toml.Value -> Option α) (default : α) (place : Nat)
    (name : String) (part : Section) : Option α :=
  match part.find? place name with
  | none => some default
  | some value => read value

def need {α : Type} (read : Toml.Value -> Option α) (place : Nat) (name : String)
    (part : Section) : Option α :=
  (part.find? place name).bind read

end Section

namespace Settings

def asText : Toml.Value -> Option String
  | .text content => some content
  | _ => none

def asBoolean : Toml.Value -> Option Bool
  | .boolean b => some b
  | _ => none

def asNumber : Toml.Value -> Option Nat
  | .integer (.ofNat n) => some n
  | _ => none

def asPort (value : Toml.Value) : Option Nat :=
  (asNumber value).filter (· < Text.portBound)

/-- A setting that need not be there and has no default. -/
def asOptional {α : Type} (read : Toml.Value -> Option α) (value : Toml.Value) :
    Option (Option α) :=
  (read value).map some

def listenerOf (part : Section) : Option ListenerSettings := do
  let address <- part.get asText ({} : ListenerSettings).address 0 "bind_address"
  return { address }

/-- How many connections are served at once and how many may wait. -/
def schedulerOf (part : Section) : Option SchedulerSettings := do
  let unset : SchedulerSettings := {}
  let workers <- part.get asNumber unset.workers 0 "workers"
  let queueDepth <- part.get asNumber unset.queueDepth 1 "queue_depth"
  return { workers, queueDepth }

def cacheOf (part : Section) : Option CacheSettings := do
  let unset : CacheSettings := {}
  let enabled <- part.get asBoolean unset.enabled 0 "enabled"
  let stripes <- part.get asNumber unset.stripes 1 "stripes"
  let ceiling <- part.get (asOptional asNumber) unset.ceiling 2 "max_age_secs"
  return { enabled, stripes, ceiling }

/-- When a silent tunnel ends, and how much of it is read at once. -/
def tunnelOf (part : Section) : Option TunnelSettings := do
  let unset : TunnelSettings := {}
  let idleTimeout <- part.get asNumber unset.idleTimeout 0 "idle_timeout_secs"
  let bufferSize <- part.get asNumber unset.bufferSize 1 "buffer_size"
  return { idleTimeout, bufferSize }

def timeoutsOf (part : Section) : Option TimeoutSettings := do
  let unset : TimeoutSettings := {}
  let connect <- part.get asNumber unset.connect 0 "connect_secs"
  let read <- part.get asNumber unset.read 1 "read_secs"
  let write <- part.get asNumber unset.write 2 "write_secs"
  return { connect, read, write }

def limitsOf (part : Section) : Option Limits := do
  let unset := Limits.default
  let lineBytes <- part.get asNumber unset.lineBytes 0 "max_line_bytes"
  let headerFields <- part.get asNumber unset.headerFields 1 "max_headers"
  let payloadBytes <- part.get asNumber unset.payloadBytes 2 "max_payload_bytes"
  return { lineBytes, headerFields, payloadBytes }

def blocklistOf (part : Section) : Option BlocklistSettings := do
  let path <- part.get (asOptional asText) none 0 "path"
  return { path }

/-- The parent, both of whose settings are needed. -/
def parentOf (part : Section) : Option Parent := do
  let host <- part.need asText 0 "host"
  let port <- part.need asPort 1 "port"
  return { host, port }

def reportOf (part : Section) : Option ReportSettings := do
  let unset : ReportSettings := {}
  let logLevel <- part.get asText unset.logLevel 0 "log_level"
  let metricsEnabled <- part.get asBoolean unset.metricsEnabled 1 "metrics_enabled"
  let metricsAddress <- part.get asText unset.metricsAddress 2 "metrics_address"
  return { logLevel, metricsEnabled, metricsAddress }

def adminOf (part : Section) : Option AdminSettings := do
  let unset : AdminSettings := {}
  let enabled <- part.get asBoolean unset.enabled 0 "enabled"
  let key <- part.get asText unset.key 1 "api_key"
  let address <- part.get asText unset.address 2 "bind_address"
  return { enabled, key, address }

/-- A section of a document, which keeps its defaults when it is left out. -/
def part {α : Type} (fields : Toml.Fields) (name : String) (unset : α)
    (read : Section -> Option α) : Option α :=
  match fields.find? name with
  | none => some unset
  | some value => (Section.ofValue? value).bind read

/-- The settings that the table of a document describes. -/
def ofFields? (fields : Toml.Fields) : Option Settings := do
  let unset : Settings := {}
  let listener <- part fields "listener" unset.listener listenerOf
  let scheduler <- part fields "scheduler" unset.scheduler schedulerOf
  let cache <- part fields "cache" unset.cache cacheOf
  let tunnel <- part fields "tunnel" unset.tunnel tunnelOf
  let timeouts <- part fields "timeouts" unset.timeouts timeoutsOf
  let limits <- part fields "limits" unset.limits limitsOf
  let blocklist <- part fields "blocklist" unset.blocklist blocklistOf
  let parent <- part fields "upstream" unset.parent fun given => (parentOf given).map some
  let report <- part fields "observability" unset.report reportOf
  let admin <- part fields "admin" unset.admin adminOf
  return {
    listener, scheduler, cache, tunnel, timeouts, limits, blocklist, parent,
    report, admin }

end Settings

inductive FileFault where
  | missing
  /-- Its bytes are no text. -/
  | encoding
  deriving DecidableEq, Repr

namespace FileFault

def message : FileFault -> String
  | .missing => "No such file or directory (os error 2)"
  | .encoding => "stream did not contain valid UTF-8"

end FileFault

/-- The text of a file; a file that is not there has no bytes. -/
def fileText (content : Option Bytes) : Except FileFault String :=
  match content with
  | none => .error .missing
  | some bytes =>
      match Bytes.text? bytes with
      | some text => .ok text
      | none => .error .encoding

inductive SettingsError where
  | unreadable (path : String) (fault : FileFault)
  /-- The document breaks the format, or a value has the wrong kind. -/
  | malformed
  | invalid (violations : List Violation)
  deriving DecidableEq, Repr

namespace SettingsError

def message : SettingsError -> String
  | .unreadable path fault => "failed to read " ++ path ++ ": " ++ fault.message
  | .malformed => "parse error"
  | .invalid violations =>
      "validation failed: " ++ ", ".intercalate (violations.map Violation.message)

end SettingsError

namespace Settings

def sound (settings : Settings) : Except SettingsError Settings :=
  match settings.violations with
  | [] => .ok settings
  | violations => .error (.invalid violations)

def ofDocument (document : String) : Except SettingsError Settings :=
  match (Toml.read document).bind ofFields? with
  | none => .error .malformed
  | some settings => settings.sound

/-- The sound settings in the file at a path, given what the file holds. -/
def ofFile (path : String) (content : Option Bytes) :
    Except SettingsError Settings :=
  match fileText content with
  | .error fault => .error (.unreadable path fault)
  | .ok document => ofDocument document

end Settings

end Intermediary
