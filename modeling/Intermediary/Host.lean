import Intermediary.Host.Idna
import Intermediary.Host.Ipv6
import Intermediary.Text.Case

/-!
# Hosts

A host is a name in ASCII, an IPv4 address or an IPv6 address.  The many
spellings of one host are brought to one text, which is what every decision
about the host is made on.

In a name, a percent sign and two hexadecimal digits stand for one byte.  A
percent sign that is followed by anything else stands for itself.
-/

namespace Intermediary

open Text

inductive HostError where
  /-- Nothing stands where the host should be. -/
  | empty
  /-- The port is no number below 65536. -/
  | port
  /-- The last label is a number, and the whole is no IPv4 address. -/
  | ipv4
  /-- The brackets hold no IPv6 address, or are not closed. -/
  | ipv6
  /-- The name has no ASCII form, or its ASCII form holds a forbidden character. -/
  | name
  deriving DecidableEq, Repr

namespace HostError

def message : HostError -> String
  | .empty => "empty host"
  | .port => "invalid port number"
  | .ipv4 => "invalid IPv4 address"
  | .ipv6 => "invalid IPv6 address"
  | .name => "invalid international domain name"

end HostError

inductive Host where
  | name (text : String)
  | ipv4 (address : Nat)
  | ipv6 (groups : List Nat)
  deriving DecidableEq, Repr

namespace Host

/-- The one text of a host, an IPv6 address without brackets. -/
def text : Host -> String
  | .name text => lower text
  | .ipv4 address => renderIpv4 address
  | .ipv6 groups => renderIpv6 groups

/-- The value of a hexadecimal digit given as a byte. -/
def hexDigit? (b : UInt8) : Option UInt8 :=
  if 48 ≤ b ∧ b ≤ 57 then some (b - 48)
  else if 65 ≤ b ∧ b ≤ 70 then some (b - 55)
  else if 97 ≤ b ∧ b ≤ 102 then some (b - 87)
  else none

/-- The percent sign. -/
def percentSign : UInt8 := 37

def percentDecode : Bytes -> Bytes
  | [] => []
  | [a] => [a]
  | [a, b] => [a, b]
  | a :: b :: c :: rest =>
      if a = percentSign then
        match hexDigit? b, hexDigit? c with
        | some high, some low => (16 * high + low) :: percentDecode rest
        | _, _ => a :: percentDecode (b :: c :: rest)
      else a :: percentDecode (b :: c :: rest)

/-- The host that a name or an IPv4 address spells. -/
def ofName (spelled : String) : Except HostError Host :=
  match Bytes.text? (percentDecode (Bytes.ofText spelled)) with
  | none => .error .name
  | some decoded =>
      match Idna.toAscii decoded with
      | none => .error .name
      | some ascii =>
          if ascii = "" then .error .empty
          else if endsInNumber ascii then
            match ipv4? ascii with
            | some address => .ok (.ipv4 address)
            | none => .error .ipv4
          else .ok (.name ascii)

/-- The IPv6 address between two brackets. -/
def ofBracketed (inner : List Char) : Except HostError Host :=
  match inner.getLast? with
  | some ']' =>
      match ipv6? (String.ofList inner.dropLast) with
      | some groups => .ok (.ipv6 groups)
      | none => .error .ipv6
  | _ => .error .ipv6

def ofText (spelled : String) : Except HostError Host :=
  match spelled.toList with
  | '[' :: inner => ofBracketed inner
  | _ => ofName spelled

end Host

end Intermediary
