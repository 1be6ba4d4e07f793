import Intermediary.Startup

/-!
# Rehearsing a run

A run of the proxy from its arguments to its end, among files and sockets that
are announced beforehand.  The signal comes as soon as the proxy serves.
-/

namespace Intermediary

/-- What a run finds, and what it leaves behind. -/
structure Launch where
  files : List (String × Bytes)
  taken : List SocketAddress
  /-- The filter that the environment asks for. -/
  environment : Option String
  signal : Signal
  /-- The filter in force; nothing is written before there is one. -/
  filter : Option LogFilter
  /-- The events that were written to the log. -/
  shown : List StartupEvent
  /-- The settings that were said to be unsound. -/
  complaints : List Violation

inductive LaunchResult where
  | refused (refusal : Refusal)
  | ended (result : Except StartupError Unit)

def LaunchResult.exitCode : LaunchResult -> Nat
  | .refused refusal => refusal.exitCode
  | .ended result => Startup.exitCode result

namespace Launch

def before (files : List (String × Bytes)) (taken : List SocketAddress)
    (environment : Option String) (signal : Signal) : Launch where
  files := files
  taken := taken
  environment := environment
  signal := signal
  filter := none
  shown := []
  complaints := []

def shows (launch : Launch) (event : StartupEvent) : Bool :=
  launch.filter.any fun filter => filter.shows event.target event.level

def perform (launch : Launch) : (deed : Deed) -> deed.Reply × Launch
  | .read path =>
      ((launch.files.find? (·.1 == path)).map Prod.snd, launch)
  | .complain violation =>
      ((), { launch with complaints := launch.complaints ++ [violation] })
  | .openLog filter =>
      ((), { launch with filter := some (.choose launch.environment filter) })
  | .log event =>
      ((),
        if launch.shows event then
          { launch with shown := launch.shown ++ [event] }
        else launch)
  | .listen _ endpoint =>
      match Endpoint.listen launch.taken endpoint with
      | .error error => (.error error, launch)
      | .ok address =>
          (.ok (), { launch with taken := address :: launch.taken })
  | .serve _ _ => (launch.signal, launch)

def drive {α : Type} (launch : Launch) : Running α -> α × Launch
  | .done result => (result, launch)
  | .act deed next =>
      let (reply, after) := launch.perform deed
      after.drive (next reply)

def run (launch : Launch) (arguments : List String) :
    LaunchResult × Launch :=
  match CommandLine.ofArguments arguments with
  | .error refusal => (.refused refusal, launch)
  | .ok line =>
      let (result, after) := launch.drive (Startup.run line)
      (.ended result, after)

end Launch

end Intermediary
