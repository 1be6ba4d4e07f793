import Intermediary.Service.Action

/-!
# Tunnels

A tunnel relays bytes between two peers, in two directions that are alike.  It
waits until a peer has something to be read, moves all of it to the other peer
in pieces, and waits again.  A direction ends when its peer has ended its
stream or a transfer fails; the half of the other connection that it wrote to
is then shut.  The tunnel is over when both directions have ended, or when
neither peer had anything to be read for too long.
-/

namespace Intermediary

/-- What one attempt to move bytes from one peer to the other comes to. -/
inductive Transfer where
  /-- A piece was read and written. -/
  | moved (piece : Bytes)
  /-- A piece was read, and writing it failed after this many bytes. -/
  | broken (piece : Bytes) (written : Nat)
  /-- There is nothing to be read for now. -/
  | nothing
  | ended
  | failed
  deriving DecidableEq, Repr

inductive Wait where
  /-- Neither peer had anything to be read within the time limit. -/
  | idle
  /-- A peer could be read, and these attempts to move bytes followed. -/
  | ready (side : Side) (transfers : List Transfer)
  deriving DecidableEq, Repr

structure Flow where
  isOpen : Bool
  /-- The pieces read from the peer that it comes from, the last first. -/
  taken : List Bytes
  /-- The pieces written to the peer that it leads to, the last first. -/
  given : List Bytes
  /-- The number of bytes that are reported as moved. -/
  moved : Nat
  /-- How often the half that it writes to was shut. -/
  shuts : Nat
  deriving DecidableEq, Repr

namespace Flow

/-- A direction in which nothing has happened yet. -/
def fresh : Flow := ⟨true, [], [], 0, 0⟩

def bytesTaken (flow : Flow) : Bytes :=
  flow.taken.reverse.flatten

def bytesGiven (flow : Flow) : Bytes :=
  flow.given.reverse.flatten

def shut (flow : Flow) : Flow :=
  { flow with isOpen := false, shuts := flow.shuts + 1 }

def transfer (flow : Flow) : Transfer -> Flow
  | .moved piece =>
      { flow with
        taken := piece :: flow.taken
        given := piece :: flow.given
        moved := flow.moved + piece.length }
  | .broken piece written =>
      { flow with
        taken := piece :: flow.taken
        given := piece.take written :: flow.given }
  | .nothing | .ended | .failed => flow

/--
The attempts that follow one wait, up to the first that moves nothing; the
direction is shut unless that one only found nothing to be read.
-/
def relay (flow : Flow) : List Transfer -> Flow
  | [] => flow
  | .moved piece :: rest => (flow.transfer (.moved piece)).relay rest
  | .nothing :: _ => flow
  | last :: _ => (flow.transfer last).shut

end Flow

/-- The two directions of a tunnel, and whether it ended for want of traffic. -/
structure Tunnel where
  fromClient : Flow
  fromOrigin : Flow
  timedOut : Bool
  deriving DecidableEq, Repr

namespace Tunnel

def fresh : Tunnel := ⟨.fresh, .fresh, false⟩

def flow (tunnel : Tunnel) : Side -> Flow
  | .client => tunnel.fromClient
  | .origin => tunnel.fromOrigin

/-- The tunnel with another direction that comes from a peer. -/
def withFlow (tunnel : Tunnel) (flow : Flow) : Side -> Tunnel
  | .client => { tunnel with fromClient := flow }
  | .origin => { tunnel with fromOrigin := flow }

def isOpen (tunnel : Tunnel) : Bool :=
  tunnel.fromClient.isOpen || tunnel.fromOrigin.isOpen

def isOver (tunnel : Tunnel) : Bool :=
  tunnel.timedOut || ! tunnel.isOpen

/-- The tunnel after one wait; a direction that has ended is not waited for. -/
def step (tunnel : Tunnel) : Wait -> Tunnel
  | .idle => { tunnel with timedOut := true }
  | .ready side transfers =>
      if (tunnel.flow side).isOpen then
        tunnel.withFlow ((tunnel.flow side).relay transfers) side
      else tunnel

/-- The tunnel after a sequence of waits, until it is over. -/
def run (tunnel : Tunnel) : List Wait -> Tunnel
  | [] => tunnel
  | next :: rest =>
      if tunnel.isOver then tunnel else (tunnel.step next).run rest

/-- The tunnel without an account of what passed, which nothing that follows needs. -/
def forget (tunnel : Tunnel) : Tunnel :=
  let blank (flow : Flow) : Flow := { flow with taken := [], given := [] }
  { tunnel with
    fromClient := blank tunnel.fromClient
    fromOrigin := blank tunnel.fromOrigin }

def relayed (tunnel : Tunnel) : Relayed where
  toOrigin := tunnel.fromClient.moved
  toClient := tunnel.fromOrigin.moved
  timedOut := tunnel.timedOut

end Tunnel

/-! ## Cutting into pieces -/

namespace Bytes

/-- Cut bytes into pieces of one size, before the pieces cut so far, last first. -/
def cutOnto (size : Nat) : Nat -> Bytes -> List Bytes -> List Bytes
  | 0, _, pieces => pieces
  | _ + 1, [], pieces => pieces
  | fuel + 1, bytes, pieces =>
      cutOnto size fuel (bytes.drop size) (bytes.take size :: pieces)

/--
The pieces in which a relay reads bytes that are there: one byte to find out
whether there are any, then as many as the buffer holds.
-/
def relayPieces (bufferSize : Nat) : Bytes -> List Bytes
  | [] => []
  | first :: rest =>
      [first] :: (cutOnto (max bufferSize 1) rest.length rest []).reverse

end Bytes

end Intermediary
