import Intermediary.Host.Ipv6
import Intermediary.Text.Blank

/-!
# Socket addresses

The address of a socket is an IPv4 or IPv6 address and a port.  It is written
without names, so that nothing has to be looked up to use it.
-/

namespace Intermediary

open Text

inductive SocketAddress where
  | ipv4 (address port : Nat)
  /-- The scope is the interface to which a local address belongs, or zero. -/
  | ipv6 (groups : List Nat) (scope port : Nat)
  deriving DecidableEq, Repr

namespace SocketAddress

/-- The first number too large for a scope. -/
def scopeBound : Nat := 4294967296

def digitsBelow? (bound : Nat) (cs : List Char) : Option Nat :=
  match cs with
  | [] => none
  | _ =>
      match digits? 10 0 cs with
      | some n => if n < bound then some n else none
      | none => none

/-- The four bytes with dots between them that stand before a colon. -/
def ofQuad? (quad port : List Char) : Option SocketAddress :=
  match Host.quad? quad, digitsBelow? portBound port with
  | some [high, low], some port => some (.ipv4 (high * 65536 + low) port)
  | _, _ => none

def ofBracketed? (inner port : List Char) : Option SocketAddress := do
  let port <- digitsBelow? portBound port
  match inner.span (· != '%') with
  | (address, []) =>
      let groups <- Host.ipv6? (String.ofList address)
      return .ipv6 groups 0 port
  | (address, _ :: scope) =>
      let groups <- Host.ipv6? (String.ofList address)
      let scope <- digitsBelow? scopeBound scope
      return .ipv6 groups scope port

def ofText? (text : String) : Option SocketAddress :=
  match text.toList with
  | '[' :: cs =>
      match cs.span (· != ']') with
      | (inner, ']' :: ':' :: port) => ofBracketed? inner port
      | _ => none
  | cs =>
      match cs.span (· != ':') with
      | (quad, ':' :: port) => ofQuad? quad port
      | _ => none

def ip : SocketAddress -> String
  | .ipv4 address _ => Host.renderIpv4 address
  | .ipv6 groups _ _ => Host.renderIpv6 groups

end SocketAddress

end Intermediary
