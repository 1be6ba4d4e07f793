import Intermediary.Header
import Intermediary.Host
import Intermediary.Method

/-!
# Targets

The target of a request names the host and port it is meant for, and the path
there.  A tunnel target is an authority; a target that is a path takes its
authority from the `Host` field; any other target is absolute.
-/

namespace Intermediary

open Text

/-- The field that names the host a request is meant for. -/
def hostField : String := "Host"

/-- The port of a host where none is given. -/
def defaultPort : Nat := 80

/-- The port of a tunnel where none is given. -/
def defaultTunnelPort : Nat := 443

structure Authority where
  host : String
  port : Nat
  deriving DecidableEq, Repr

structure Target where
  authority : Authority
  path : String
  deriving DecidableEq, Repr

namespace Authority

/-- The host and the port as they stand in the text of an authority. -/
def split (given : String) : Option (String × Option String) :=
  if startsWith given "[" then
    match cutAt ']' given with
    | none => none
    | some (inner, after) =>
        let host := inner ++ "]"
        match after.toList with
        | [] => some (host, none)
        | ':' :: port => some (host, some (String.ofList port))
        | _ => none
  else
    match cutAtLast ':' given with
    | some (host, port) => some (host, some port)
    | none => some (given, none)

def port? (default : Nat) : Option String -> Option Nat
  | some digits => numeral? 10 portBound digits
  | none => some default

/-- The host and port that an authority names, if it names any. -/
def ofText? (default : Nat) (given : String) : Option Authority := do
  let (host, digits) <- split given
  let port <- port? default digits
  if host = "" ∨ host.toList.any (fun c => c = '/' ∨ c = '@' ∨ c = ' ') then none
  else
    match Host.ofText host with
    | .ok parsed => some ⟨parsed.text, port⟩
    | .error _ => none

def ofText (default : Nat) (given : String) : Except MessageError Authority :=
  match ofText? default given with
  | some authority => .ok authority
  | none => .error (.malformed (.authority given))

end Authority

namespace Absolute

def isSlash (c : Char) : Bool :=
  c == '/' || c == '\\'

def endsAuthority (c : Char) : Bool :=
  isSlash c || c == '?' || c == '#'

/-- A control character or a space, which the end of a target may not have. -/
def isControl (c : Char) : Bool :=
  c.toNat ≤ 0x20

/-- The part of a target that stands where its authority should. -/
def authorityPart (afterScheme : List Char) : List Char :=
  ((dropEnd isControl afterScheme).dropWhile isSlash).takeWhile
    (! endsAuthority ·)

/-- An authority without the user information before its last at sign. -/
def withoutUser (authority : List Char) : List Char :=
  (authority.reverse.takeWhile (· != '@')).reverse

/--
Cut an authority at the colon before its port, which is the first one outside
brackets.
-/
def cutPort (bracketed : Bool) : List Char -> List Char × Option (List Char)
  | [] => ([], none)
  | c :: cs =>
      if c = ':' ∧ !bracketed then ([], some cs)
      else
        let inside :=
          if c = '[' then true else if c = ']' then false else bracketed
        let (host, port) := cutPort inside cs
        (c :: host, port)

/-- The port that the characters after the colon give. -/
def port : Option (List Char) -> Except HostError Nat
  | none => .ok defaultPort
  | some [] => .ok defaultPort
  | some digits =>
      match digits? 10 0 digits with
      | some n => if n < portBound then .ok n else .error .port
      | none => .error .port

/-- The host and port of an absolute target, given what follows its scheme. -/
def authority (afterScheme : List Char) : Except HostError Authority :=
  let (host, digits) :=
    cutPort false (withoutUser (authorityPart afterScheme))
  if host.isEmpty then .error .empty
  else do
    let parsed <- Host.ofText (String.ofList host)
    let n <- port digits
    return ⟨parsed.text, n⟩

/-- The path of an absolute target, given what follows its double slash. -/
def path (afterSlashes : List Char) : String :=
  match afterSlashes.dropWhile (fun c => c ≠ '/' ∧ c ≠ '?') with
  | [] => "/"
  | '/' :: cs => String.ofList ('/' :: cs)
  | cs => String.ofList ('/' :: cs)

/-- Cut a target after its scheme and the colon and double slash that follow. -/
def cutScheme : List Char -> Option (List Char × List Char)
  | [] => none
  | ':' :: '/' :: '/' :: rest => some ([], rest)
  | c :: cs =>
      (cutScheme cs).map fun (scheme, rest) => (c :: scheme, rest)

end Absolute

namespace Target

def ofAbsolute (given : String) : Except MessageError Target :=
  match Absolute.cutScheme given.toList with
  | none => .error (.malformed (.target given))
  | some (scheme, rest) =>
      if !sameIgnoringCase (String.ofList scheme) "http" then
        .error (.malformed (.scheme (String.ofList scheme)))
      else
        match Absolute.authority rest with
        | .error cause => .error (.malformed (.location given cause))
        | .ok authority => .ok ⟨authority, Absolute.path rest⟩

def ofPath (given : String) (header : Header) : Except MessageError Target :=
  match header.get? hostField with
  | none => .error (.malformed .hostMissing)
  | some host =>
      match Authority.ofText defaultPort host with
      | .error e => .error e
      | .ok authority => .ok ⟨authority, given⟩

/-- The target that a request with this method and header is meant for. -/
def resolve (method : Method) (given : String) (header : Header) :
    Except MessageError Target :=
  if method = .connect then
    match Authority.ofText defaultTunnelPort given with
    | .error e => .error e
    | .ok authority => .ok ⟨authority, ""⟩
  else if startsWith given "/" then ofPath given header
  else ofAbsolute given

end Target

end Intermediary
