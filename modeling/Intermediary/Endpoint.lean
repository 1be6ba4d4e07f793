import Intermediary.SocketAddress

/-!
# Endpoints

What a text must say to be listened on or connected to, and how the system
refuses it.  A text that is no socket address is taken apart at its last colon,
and its first part is looked up.
-/

namespace Intermediary

open Text

inductive EndpointFault where
  /-- Nothing separates a host from a port. -/
  | shape
  /-- What follows the last colon is no port. -/
  | port
  /-- The host has a character that no name has. -/
  | name
  /-- The host is not known. -/
  | unknown
  /-- Somebody else listens there. -/
  | inUse
  /-- No way leads there. -/
  | unreachable
  /-- The attempt to connect took too long. -/
  | timedOut (authority : String)
  /-- Any other fault, in its own words. -/
  | described (text : String)
  deriving DecidableEq, Repr

namespace EndpointFault

def message : EndpointFault -> String
  | .shape => "invalid socket address"
  | .port => "invalid port value"
  | .name => "file name contained an unexpected NUL byte"
  | .unknown =>
      "failed to lookup address information: Name or service not known"
  | .inUse => "Address already in use (os error 98)"
  | .unreachable => "Network is unreachable (os error 101)"
  | .timedOut authority => "connect to " ++ authority ++ " timed out"
  | .described text => text

end EndpointFault

namespace Endpoint

def numeric? (host : String) (port : Nat) : Option SocketAddress :=
  match Host.quad? host.toList with
  | some [high, low] => some (.ipv4 (high * 65536 + low) port)
  | _ => (Host.ipv6? host).map fun groups => .ipv6 groups 0 port

def lookUp (host : String) (port : Nat) : Except EndpointFault SocketAddress :=
  if host.toList.contains '\x00' then .error .name
  else
    match numeric? host port with
    | some address => .ok address
    | none => .error .unknown

def resolve (endpoint : String) : Except EndpointFault SocketAddress :=
  match SocketAddress.ofText? endpoint with
  | some address => .ok address
  | none =>
      match cutAtLast ':' endpoint with
      | none => .error .shape
      | some (host, port) =>
          match numeral? 10 portBound port with
          | none => .error .port
          | some port => lookUp host port

/-- An endpoint for a host and a port; a host with colons stands in brackets. -/
def authority (host : String) (port : Nat) : String :=
  let host := if host.toList.contains ':' then "[" ++ host ++ "]" else host
  host ++ ":" ++ decimal port

/--
How an attempt to connect fails where no network is.  A host has to be looked
up unless it is an address, which may take longer than is allowed.
-/
def connectFault (authority : String) (mayLookUp : Bool) : EndpointFault :=
  match SocketAddress.ofText? authority with
  | some _ => .unreachable
  | none =>
      if mayLookUp then
        match resolve authority with
        | .ok _ => .unreachable
        | .error fault => fault
      else .timedOut authority

end Endpoint

namespace SocketAddress

def port : SocketAddress -> Nat
  | .ipv4 _ port | .ipv6 _ _ port => port

/--
Whether the first address takes in the second one.  The address of zeros stands
for all addresses of its kind, and that of eight groups for all there are.
-/
def takesIn : SocketAddress -> SocketAddress -> Bool
  | .ipv6 groups _ _, other =>
      groups.all (· == 0) ||
        match other with
        | .ipv6 others _ _ => groups == others
        | .ipv4 _ _ => false
  | .ipv4 address _, .ipv4 other _ => address == 0 || address == other
  | .ipv4 _ _, .ipv6 _ _ _ => false

/-- Whether two sockets cannot be listened on at once; port zero is any free port. -/
def clashes (a b : SocketAddress) : Bool :=
  a.port != 0 && a.port == b.port && (a.takesIn b || b.takesIn a)

end SocketAddress

structure ListenError where
  endpoint : String
  fault : EndpointFault
  deriving DecidableEq, Repr

def ListenError.message (error : ListenError) : String :=
  "failed to bind " ++ error.endpoint ++ ": " ++ error.fault.message

def Endpoint.listen (taken : List SocketAddress) (endpoint : String) :
    Except ListenError SocketAddress :=
  match Endpoint.resolve endpoint with
  | .error fault => .error ⟨endpoint, fault⟩
  | .ok address =>
      if taken.any address.clashes then .error ⟨endpoint, .inUse⟩
      else .ok address

end Intermediary
