import Intermediary.Arguments
import Intermediary.Settings

/-!
# The command line

Arguments name a file of settings, and override some of the settings in it.
-/

namespace Intermediary

open Text

/-- What arguments put in the place of settings. -/
structure Overrides where
  port : Option Nat := none
  blocklist : Option String := none
  parent : Option Parent := none
  ceiling : Option Nat := none
  deriving DecidableEq, Repr

namespace Overrides

def anyHost : String := "0.0.0.0"

/-- An address with another port: what follows its last colon is replaced. -/
def withPort (address : String) (port : Nat) : String :=
  let host := match cutAtLast ':' address with
    | some (host, _) => host
    | none => anyHost
  host ++ ":" ++ decimal port

def apply (overrides : Overrides) (settings : Settings) : Settings :=
  { settings with
    listener := match overrides.port with
      | some port => { address := withPort settings.listener.address port }
      | none => settings.listener
    blocklist := match overrides.blocklist with
      | some path => { path := some path }
      | none => settings.blocklist
    parent := overrides.parent <|> settings.parent
    cache := match overrides.ceiling with
      | some seconds => { settings.cache with ceiling := some seconds }
      | none => settings.cache }

end Overrides

/-- What the arguments of the proxy amount to. -/
structure CommandLine where
  /-- The file of settings. -/
  config : Option String
  overrides : Overrides
  deriving DecidableEq, Repr

namespace CommandLine

inductive Flag where
  | config
  | port
  | blocklist
  | parent
  | maxAge
  deriving DecidableEq, Repr

namespace Flag

def long : Flag -> String
  | .config => "config"
  | .port => "port"
  | .blocklist => "blocklist"
  | .parent => "upstream"
  | .maxAge => "max-age"

def short : Flag -> Char
  | .config => 'c'
  | .port => 'p'
  | .blocklist => 'b'
  | .parent => 'u'
  | .maxAge => 'm'

end Flag

/-- A port, which may carry a sign; only zero may be negative. -/
def port? (text : String) : Option Nat :=
  match text.toList with
  | '-' :: '+' :: _ => none
  | '-' :: digits => numeral? 10 1 (String.ofList digits)
  | _ => numeral? 10 portBound text

/-- A number of seconds. -/
def seconds? (text : String) : Option Nat :=
  numeral? 10 wordBound text

def parent? (text : String) : Option Parent :=
  (Parent.ofText text).toOption

def accepts (text : String) : Flag -> Bool
  | .config => text != ""
  | .port => (port? text).isSome
  | .blocklist => true
  | .parent => (parent? text).isSome
  | .maxAge => (seconds? text).isSome

def shape : ArgumentShape Flag where
  flags := [.config, .port, .blocklist, .parent, .maxAge]
  long := Flag.long
  short := Flag.short
  operand := none
  accepts := fun flag text => accepts text flag
  commands := []

def ofGiven (given : List (Flag × String)) : CommandLine where
  config := Arguments.value? given .config
  overrides := {
    port := (Arguments.value? given .port).bind port?
    blocklist := Arguments.value? given .blocklist
    parent := (Arguments.value? given .parent).bind parent?
    ceiling := (Arguments.value? given .maxAge).bind seconds? }

def ofArguments (arguments : List String) : Except Refusal CommandLine := do
  let (reading, _) <- Arguments.readFrom shape .fresh arguments
  let settled <- Arguments.settle shape reading
  return ofGiven settled.given

def help : String :=
  "\n".intercalate [
    "Caching forward HTTP proxy with CONNECT tunneling",
    "",
    "Usage: forward-proxy [OPTIONS]",
    "",
    "Options:",
    "  -c, --config <CONFIG>        TOML configuration file",
    "  -p, --port <PORT>            Listen port, overriding the configured bind address's port",
    "  -b, --blocklist <BLOCKLIST>  File of blocked host patterns, one per line",
    "  -u, --upstream <UPSTREAM>    Forward everything through another proxy (host:port)",
    "  -m, --max-age <MAX_AGE>      Ceiling in seconds on how long responses stay cached",
    "  -h, --help                   Print help"]

end CommandLine

end Intermediary
