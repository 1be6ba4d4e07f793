import Intermediary.Blocklist
import Intermediary.CommandLine
import Intermediary.Endpoint
import Intermediary.LogFilter
import Intermediary.Program
import Intermediary.Shutdown

/-!
# From the command line to the end

What the proxy does besides serving connections: it reads its settings, says
what is wrong with them, reads the blocklist, listens, serves until it is told
to stop, and writes all of this to the log.
-/

namespace Intermediary

open Text

/-- What is written to the log about the proxy as a whole. -/
inductive StartupEvent where
  | starting
  | loaded (settings : Settings)
  | metricsListening (endpoint : String)
  | metricsFailed (error : ListenError)
  | blocklistLoaded (path : String) (patterns : Nat)
  | workersStarted (settings : SchedulerSettings)
  /-- The socket for clients is there. -/
  | bound (endpoint : String)
  | listening (endpoint : String)
  | adminListening (endpoint : String)
  | accepting (endpoint : String)
  | signalled (signal : Signal)
  | triggered
  | refusing
  | workersStopped
  | complete
  deriving DecidableEq, Repr

namespace StartupEvent

def level : StartupEvent -> LogLevel
  | .metricsFailed _ => .error
  | _ => .info

def part : StartupEvent -> List String
  | .metricsListening _ => ["observability", "metrics"]
  | .blocklistLoaded _ _ => ["security", "blocklist"]
  | .workersStarted _ | .workersStopped => ["scheduler"]
  | .bound _ => ["net", "listener"]
  | .adminListening _ => ["admin"]
  | .accepting _ | .refusing => ["proxy", "server"]
  | .signalled _ => ["lifecycle", "signals"]
  | .triggered => ["lifecycle", "shutdown"]
  | _ => []

def target (event : StartupEvent) : String :=
  "::".intercalate ("forward_proxy" :: event.part)

def message : StartupEvent -> String
  | .starting => "forward-proxy starting"
  | .loaded _ => "Configuration loaded"
  | .metricsListening _ => "Metrics endpoint listening"
  | .metricsFailed _ => "Failed to start metrics exporter"
  | .blocklistLoaded _ _ => "Blocklist loaded"
  | .workersStarted _ => "Scheduler started"
  | .bound _ => "Listener bound"
  | .listening _ => "Listening for connections"
  | .adminListening _ => "Admin API listening"
  | .accepting _ => "Listening for proxy traffic"
  | .signalled .terminate => "Received SIGTERM"
  | .signalled .interrupt => "Received Ctrl-C"
  | .triggered => "Shutdown triggered"
  | .refusing => "Stopped accepting connections"
  | .workersStopped => "Scheduler stopped"
  | .complete => "Shutdown complete"

def truth (b : Bool) : String :=
  if b then "true" else "false"

def optional : Option String -> String
  | none => "None"
  | some text => "Some(" ++ text ++ ")"

def parentText (parent : Parent) : String :=
  "UpstreamConfig \x7b host: " ++ quoted parent.host ++ ", port: " ++
    decimal parent.port ++ " \x7d"

def version : String := "0.1.0"

def fields : StartupEvent -> List (String × String)
  | .starting => [("version", quoted version)]
  | .loaded settings => [
      ("bind_address", settings.listener.address),
      ("workers", decimal settings.scheduler.workers),
      ("cache_enabled", truth settings.cache.enabled),
      ("max_age_secs", optional (settings.cache.ceiling.map decimal)),
      ("upstream", optional (settings.parent.map parentText))]
  | .metricsListening endpoint | .bound endpoint | .listening endpoint
  | .adminListening endpoint | .accepting endpoint => [("address", endpoint)]
  | .metricsFailed error => [("error", error.message)]
  | .blocklistLoaded path patterns =>
      [("path", path), ("patterns", decimal patterns)]
  | .workersStarted settings => [
      ("workers", decimal (max settings.workers 1)),
      ("queue_depth", decimal (max settings.queueDepth 1))]
  | _ => []

def fieldText (event : StartupEvent) : String :=
  " ".intercalate (event.fields.map fun (name, value) => name ++ "=" ++ value)

end StartupEvent

inductive Role where
  | clients
  | metrics
  | administration
  deriving DecidableEq, Repr

inductive Deed where
  /-- Read a file, if it is there. -/
  | read (path : String)
  /-- Say that a setting is unsound. -/
  | complain (violation : Violation)
  /-- Begin to log; the environment may ask for another filter. -/
  | openLog (filter : String)
  | log (event : StartupEvent)
  | listen (role : Role) (endpoint : String)
  /-- Serve connections until a signal comes, and finish those in service. -/
  | serve (settings : Settings) (blocklist : Blocklist)

def Deed.Reply : Deed -> Type
  | .read _ => Option Bytes
  | .listen _ _ => Except ListenError Unit
  | .complain _ | .openLog _ | .log _ => Unit
  | .serve _ _ => Signal

abbrev Running (α : Type) : Type := Program Deed.Reply α

def Running.perform (deed : Deed) : Running deed.Reply :=
  Program.perform deed

inductive StartupError where
  | settings (error : SettingsError)
  /-- The arguments made so many settings unsound. -/
  | invalid (count : Nat)
  | blocklist (error : BlocklistError)
  | listen (error : ListenError)
  /-- The administration interface cannot be listened on. -/
  | administration (fault : EndpointFault)
  deriving DecidableEq, Repr

def StartupError.message : StartupError -> String
  | .settings error => error.message
  | .invalid count => decimal count ++ " invalid setting(s)"
  | .blocklist error => error.message
  | .listen error => error.message
  | .administration fault => fault.message

/-- The kind of an error in one word; the number of unsound settings is quoted. -/
def StartupError.kind : StartupError -> String
  | .settings .malformed => "Parse"
  | .settings (.unreadable ..) => "Io"
  | .settings (.invalid _) => "Validation"
  | error@(.invalid _) => quoted error.message
  | .blocklist .pattern => "Pattern"
  | .blocklist _ => "Read"
  | .listen _ => "Bind"
  | .administration _ => "Os"

namespace Startup

open Running

def complaint (violation : Violation) : String :=
  "invalid configuration: " ++ violation.message

def readSettings (line : CommandLine) :
    Running (Except StartupError Settings) := do
  match line.config with
  | none => return .ok {}
  | some path =>
      let content <- perform (.read path)
      match Settings.ofFile path content with
      | .ok settings => return .ok settings
      | .error error => return .error (.settings error)

def complainAll : List Violation -> Running Unit
  | [] => return ()
  | violation :: rest => do
      perform (.complain violation)
      complainAll rest

/-- The settings with what the command line puts in their place, if they are sound. -/
def override (line : CommandLine) (settings : Settings) :
    Running (Except StartupError Settings) := do
  let changed := line.overrides.apply settings
  match changed.violations with
  | [] => return .ok changed
  | violations =>
      complainAll violations
      return .error (.invalid violations.length)

/-- Report metrics if that is wanted; failing to do so is no reason to stop. -/
def openMetrics (settings : ReportSettings) : Running Unit := do
  if settings.metricsEnabled then
    match <- perform (.listen .metrics settings.metricsAddress) with
    | .ok () => perform (.log (.metricsListening settings.metricsAddress))
    | .error error => perform (.log (.metricsFailed error))

def readBlocklist (settings : BlocklistSettings) :
    Running (Except StartupError Blocklist) := do
  match settings.path with
  | none => return .ok .empty
  | some path =>
      let content <- perform (.read path)
      match Blocklist.ofFile path content with
      | .error error => return .error (.blocklist error)
      | .ok blocklist =>
          perform (.log (.blocklistLoaded path blocklist.patterns.length))
          return .ok blocklist

def openListener (settings : Settings) : Running (Except StartupError Unit) := do
  let endpoint := settings.listener.address
  perform (.log (.workersStarted settings.scheduler))
  match <- perform (.listen .clients endpoint) with
  | .error error => return .error (.listen error)
  | .ok () =>
      perform (.log (.bound endpoint))
      perform (.log (.listening endpoint))
      return .ok ()

/-- Listen for administrators, if that is wanted. -/
def openAdmin (settings : AdminSettings) : Running (Except StartupError Unit) := do
  if settings.enabled then
    match <- perform (.listen .administration settings.address) with
    | .error error => return .error (.administration error.fault)
    | .ok () =>
        perform (.log (.adminListening settings.address))
        return .ok ()
  else return .ok ()

/-- Serve until the end. -/
def serve (settings : Settings) (blocklist : Blocklist) : Running Unit := do
  perform (.log (.accepting settings.listener.address))
  let signal <- perform (.serve settings blocklist)
  perform (.log (.signalled signal))
  perform (.log .triggered)
  perform (.log .refusing)
  perform (.log .workersStopped)
  perform (.log .complete)

def runWith (settings : Settings) : Running (Except StartupError Unit) := do
  perform (.openLog settings.report.logLevel)
  perform (.log .starting)
  perform (.log (.loaded settings))
  openMetrics settings.report
  match <- readBlocklist settings.blocklist with
  | .error error => return .error error
  | .ok blocklist =>
      match <- openListener settings with
      | .error error => return .error error
      | .ok () =>
          match <- openAdmin settings.admin with
          | .error error => return .error error
          | .ok () =>
              serve settings blocklist
              return .ok ()

def run (line : CommandLine) : Running (Except StartupError Unit) := do
  match <- readSettings line with
  | .error error => return .error error
  | .ok settings =>
      match <- override line settings with
      | .error error => return .error error
      | .ok settings => runWith settings

/-- What is said about an error at the end: its kind, and its words if they differ. -/
def report (error : StartupError) : String :=
  match error with
  | .invalid _ => error.kind
  | _ => error.kind ++ ": " ++ error.message

def exitCode : Except StartupError Unit -> Nat
  | .ok () => 0
  | .error _ => 1

end Startup

end Intermediary
