import Intermediary.Arguments
import Intermediary.Bytes
import Intermediary.Method
import Intermediary.Text.Numeral

/-!
# The console

The console asks the administration interface of a running proxy for one thing.
-/

namespace Intermediary

open Text

inductive ConsoleCommand where
  | status
  | cache
  | clear
  | ceiling (seconds : Nat)
  deriving DecidableEq, Repr

/-- What the arguments of the console amount to. -/
structure Console where
  /-- Where the administration interface is. -/
  url : String
  key : String
  command : ConsoleCommand
  deriving DecidableEq, Repr

inductive ConsoleFault where
  /-- The key has characters that cannot be sent. -/
  | key
  /-- Nothing answers at the address, or it is none. -/
  | unreachable
  deriving DecidableEq, Repr

structure ConsoleRequest where
  method : Method
  url : String
  authorization : Bytes
  body : Option String
  deriving DecidableEq, Repr

namespace Console

/-- The flags of the console, and the operand of one command. -/
inductive Flag where
  | url
  | key
  | seconds
  deriving DecidableEq, Repr

/-- Where the administration interface is unless something else is given. -/
def defaultUrl : String := "http://localhost:8081"

def commands : List String := ["status", "cache", "clear-cache", "max-age"]

/-- A number of seconds. -/
def seconds? (text : String) : Option Nat :=
  numeral? 10 wordBound text

/-- The arguments that the console takes before a command. -/
def shape : ArgumentShape Flag where
  flags := [.url, .key]
  long := fun
    | .url => "url"
    | .key => "key"
    | .seconds => "seconds"
  short := fun
    | .url => 'u'
    | .key => 'k'
    | .seconds => 's'
  operand := none
  accepts := fun _ _ => true
  commands := commands

def commandShape (name : String) : ArgumentShape Flag :=
  { shape with
    flags := []
    operand := if name = "max-age" then some .seconds else none
    accepts := fun _ text => (seconds? text).isSome
    commands := [] }

def command? (name : String) (operand : Option String) : Option ConsoleCommand :=
  match name with
  | "status" => some .status
  | "cache" => some .cache
  | "clear-cache" => some .clear
  | "max-age" => (operand.bind seconds?).map .ceiling
  | _ => none

def readCommand (name : String) (arguments : List String) :
    Except Refusal ConsoleCommand := do
  let shape := commandShape name
  let (reading, _) <- Arguments.readFrom shape .fresh arguments
  let settled <- Arguments.settle shape reading
  match command? name (Arguments.value? settled.given .seconds) with
  | some command => return command
  | none => throw .misuse

/-- What the arguments of the console amount to; a key and a command are needed. -/
def ofArguments (arguments : List String) : Except Refusal Console := do
  let (reading, command) <- Arguments.readFrom shape .fresh arguments
  match command with
  | none => throw .misuse
  | some (name, rest) =>
      let command <- readCommand name rest
      let settled <- Arguments.settle shape reading
      match Arguments.value? settled.given .key with
      | none => throw .misuse
      | some key =>
          let url := (Arguments.value? settled.given .url).getD defaultUrl
          return { url, key, command }

def isSendable (b : UInt8) : Bool :=
  (32 ≤ b && b != 127) || b == 9

def route : ConsoleCommand -> Method × String
  | .status => (.get, "/admin/status")
  | .cache => (.get, "/admin/cache")
  | .clear => (.post, "/admin/cache/clear")
  | .ceiling _ => (.put, "/admin/cache/max-age")

def body? : ConsoleCommand -> Option String
  | .ceiling seconds => some ("\x7b\"seconds\":" ++ decimal seconds ++ "\x7d")
  | _ => none

/-- What the console sends, if its key can be sent. -/
def request (console : Console) : Except ConsoleFault ConsoleRequest :=
  let authorization := Bytes.ofText ("Bearer " ++ console.key)
  if authorization.all isSendable then
    let (method, path) := route console.command
    .ok {
      method
      url := console.url ++ path
      authorization
      body := body? console.command }
  else .error .key

def fate (console : Console) : ConsoleFault :=
  match console.request with
  | .error fault => fault
  | .ok _ => .unreachable

end Console

end Intermediary
