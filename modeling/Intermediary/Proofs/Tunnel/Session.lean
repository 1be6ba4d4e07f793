import Intermediary.Service
import Intermediary.Tunnel
import Mathlib.Logic.Function.Basic

/-!
# The passage of bytes through a tunnel

A tunnel is run over two connections by single reads and writes.  What a peer
sends comes in pieces of any size and at any time; a read takes as many of the
bytes that are there as it likes, and a write passes on as many as it likes, so
that it can fail after any of them.  One buffer holds the bytes between a read
and the writes that follow it, whichever direction they go.

A direction is worked on from the moment at which its peer seems to have
something to be read until nothing more is found: a read of one byte, a write
of it, and then reads and writes of as much as the buffer holds.
-/

namespace Intermediary

structure Lane where
  /-- All that has come from the peer that it comes from. -/
  came : Bytes
  /-- The bytes of it that were not read. -/
  unread : Bytes
  /-- That peer has ended its stream. -/
  isEnded : Bool
  endRead : Bool
  /-- All that was written to the peer that it leads to. -/
  written : Bytes
  deriving DecidableEq

namespace Lane

def fresh : Lane := ⟨[], [], false, false, []⟩

def arrive (lane : Lane) (bytes : Bytes) : Lane :=
  { lane with came := lane.came ++ bytes, unread := lane.unread ++ bytes }

/-- Bytes that were read ahead come before those that were not read. -/
def putBack (lane : Lane) (bytes : Bytes) : Lane :=
  { lane with unread := bytes ++ lane.unread }

def read (lane : Lane) (size : Nat) : Lane :=
  { lane with unread := lane.unread.drop size }

def atEnd (lane : Lane) : Prop :=
  lane.unread = [] ∧ lane.isEnded = true

def readEnd (lane : Lane) : Lane :=
  { lane with endRead := true }

def write (lane : Lane) (bytes : Bytes) : Lane :=
  { lane with written := lane.written ++ bytes }

end Lane

/-! ## One direction -/

/-- A direction that is worked on, with the buffer. -/
structure Transit where
  lane : Lane
  flow : Flow
  buffer : Bytes

namespace Transit

/-- Read bytes into the buffer, over those that it held. -/
def load (transit : Transit) (size : Nat) : Transit :=
  { transit with
    lane := transit.lane.read size
    buffer := transit.lane.unread.take size ++ transit.buffer.drop size }

/-- Write some bytes of the buffer, after those that were written already. -/
def pass (transit : Transit) (sent count : Nat) : Transit :=
  { transit with lane := transit.lane.write ((transit.buffer.drop sent).take count) }

def shut (transit : Transit) : Transit :=
  { transit with flow := transit.flow.shut }

/-- What an attempt to move the bytes of the buffer comes to. -/
def moved (transit : Transit) (transfer : Transfer) : Transit :=
  { transit with flow := transit.flow.transfer transfer }

/-- How far the work on a direction has come. -/
inductive Work where
  /-- One byte is to be read. -/
  | probing
  /-- The first `size` bytes of the buffer are to be written, and `sent` of them were. -/
  | writing (size sent : Nat)
  /-- As many bytes as the buffer holds are to be read. -/
  | draining
  /-- All was written that was read. -/
  | flushing (stillOpen : Bool)

/-- One read or write in a direction, and the work that is left. -/
inductive Step (transit : Transit) : Work -> Transit -> Option Work -> Prop where
  | probeBlocked : Step transit .probing transit none
  | probeFailed : Step transit .probing transit.shut none
  | probeEnded (h : transit.lane.atEnd) :
      Step transit .probing { transit with lane := transit.lane.readEnd }.shut none
  | probed (h : transit.lane.unread ≠ []) :
      Step transit .probing (transit.load 1) (some (.writing 1 0))
  | wrote {size sent} (count : Nat) (h : sent + count ≤ size) :
      Step transit (.writing size sent) (transit.pass sent count)
        (some (.writing size (sent + count)))
  | writeDone {size} :
      Step transit (.writing size size)
        (transit.moved (.moved (transit.buffer.take size))) (some .draining)
  | writeFailed {size sent} :
      Step transit (.writing size sent)
        (transit.moved (.broken (transit.buffer.take size) sent)).shut none
  | drained (size : Nat) (hpos : 0 < size) (hsize : size ≤ transit.buffer.length)
      (h : size ≤ transit.lane.unread.length) :
      Step transit .draining (transit.load size) (some (.writing size 0))
  | drainBlocked : Step transit .draining transit (some (.flushing true))
  | drainFailed : Step transit .draining transit (some (.flushing false))
  | drainEnded (h : transit.lane.atEnd) :
      Step transit .draining { transit with lane := transit.lane.readEnd }
        (some (.flushing false))
  | flushed : Step transit (.flushing true) transit none
  /-- Flushing failed, or there is nothing more to be read. -/
  | flushShut {stillOpen} : Step transit (.flushing stillOpen) transit.shut none

end Transit

/-! ## Both directions -/

/-- A tunnel that is run, with its buffer and the direction that is worked on. -/
structure Relaying where
  tunnel : Tunnel
  buffer : Bytes
  current : Option (Side × Transit.Work)

namespace Relaying

/-- A tunnel before its first wait.  The buffer has room for a byte at least. -/
def fresh (bufferSize : Nat) : Relaying :=
  ⟨.fresh, List.replicate (max bufferSize 1) 0, none⟩

/-- One step of a tunnel that is run: a wait, or a read or write in a direction. -/
inductive Step (lanes : Side -> Lane) : Relaying -> (Side -> Lane) -> Relaying -> Prop where
  /-- Neither peer had anything to be read for too long. -/
  | idle {tunnel buffer} (hover : tunnel.isOver = false) :
      Step lanes ⟨tunnel, buffer, none⟩ lanes ⟨tunnel.step .idle, buffer, none⟩
  /-- A peer seems to have something to be read. -/
  | ready {tunnel buffer} (side : Side) (hover : tunnel.isOver = false)
      (hopen : (tunnel.flow side).isOpen = true) :
      Step lanes ⟨tunnel, buffer, none⟩ lanes ⟨tunnel, buffer, some (side, .probing)⟩
  /-- Waiting for a peer failed. -/
  | unready {tunnel buffer} (side : Side) (hover : tunnel.isOver = false)
      (hopen : (tunnel.flow side).isOpen = true) :
      Step lanes ⟨tunnel, buffer, none⟩ lanes
        ⟨tunnel.withFlow (tunnel.flow side).shut side, buffer, none⟩
  | work {tunnel buffer side work transit left}
      (h : Transit.Step ⟨lanes side, tunnel.flow side, buffer⟩ work transit left) :
      Step lanes ⟨tunnel, buffer, some (side, work)⟩
        (Function.update lanes side transit.lane)
        ⟨tunnel.withFlow transit.flow side, transit.buffer, left.map fun work => (side, work)⟩

end Relaying

/-! ## The whole session -/

/-- Where the program that opens and runs a tunnel has come to. -/
inductive TunnelSession.Stage where
  /-- Before its next action. -/
  | acting (rest : Serving Unit)
  /-- Bytes are to be written in the direction that comes from a peer. -/
  | writing (side : Side) (bytes : Bytes)
      (next : Except TransportError Unit -> Serving Unit)
  | relaying (relaying : Relaying) (next : Relayed -> Serving Unit)

/-- A tunnel, from its handshake to its end. -/
structure TunnelSession where
  /-- The direction that comes from a peer. -/
  lanes : Side -> Lane
  stage : TunnelSession.Stage
  measures : List Measure
  events : List Event

namespace TunnelSession

/-- A tunnel that is to be opened, with what was read ahead from each peer. -/
def opened (fromClient fromOrigin : Held) : TunnelSession :=
  ⟨fun _ => .fresh, .acting (Service.bridge fromClient fromOrigin), [], []⟩

/-- The session with another direction that comes from a peer. -/
def withLane (session : TunnelSession) (side : Side) (lane : Lane) : TunnelSession :=
  { session with lanes := Function.update session.lanes side lane }

/-- The lanes of a relay: what was read ahead is read first. -/
def refill (lanes : Side -> Lane) (fromClient fromOrigin : Bytes) : Side -> Lane
  | .client => (lanes .client).putBack fromClient
  | .origin => (lanes .origin).putBack fromOrigin

inductive Step (bufferSize : Nat) (session : TunnelSession) : TunnelSession -> Prop where
  | arrive (side : Side) (bytes : Bytes) (h : (session.lanes side).isEnded = false) :
      Step bufferSize session (session.withLane side ((session.lanes side).arrive bytes))
  | finish (side : Side) :
      Step bufferSize session
        (session.withLane side { session.lanes side with isEnded := true })
  | greet {bytes next} (h : session.stage = .acting (.act (.greet bytes) next)) :
      Step bufferSize session { session with stage := .writing .origin bytes next }
  | send {bytes next} (h : session.stage = .acting (.act (.send bytes) next)) :
      Step bufferSize session { session with stage := .writing .client bytes next }
  | write {side bytes next} (h : session.stage = .writing side bytes next) (count : Nat) :
      Step bufferSize session
        { session.withLane side ((session.lanes side).write (bytes.take count)) with
          stage := .writing side (bytes.drop count) next }
  | wrote {side next} (h : session.stage = .writing side [] next) :
      Step bufferSize session { session with stage := .acting (next (.ok ())) }
  | writeFailed {side bytes next} (h : session.stage = .writing side bytes next)
      (cause : TransportError) :
      Step bufferSize session { session with stage := .acting (next (.error cause)) }
  | measure {recording next} (h : session.stage = .acting (.act (.measure recording) next)) :
      Step bufferSize session
        { session with
          stage := .acting (next ())
          measures := session.measures ++ [recording] }
  | log {event next} (h : session.stage = .acting (.act (.log event) next)) :
      Step bufferSize session
        { session with
          stage := .acting (next ())
          events := session.events ++ [event] }
  | relay {fromClient fromOrigin next}
      (h : session.stage = .acting (.act (.relay fromClient fromOrigin) next)) :
      Step bufferSize session
        { session with
          lanes := refill session.lanes fromClient fromOrigin
          stage := .relaying (.fresh bufferSize) next }
  | pass {relaying relaying' lanes next} (h : session.stage = .relaying relaying next)
      (hstep : Relaying.Step session.lanes relaying lanes relaying') :
      Step bufferSize session
        { session with lanes := lanes, stage := .relaying relaying' next }
  | close {tunnel buffer next} (h : session.stage = .relaying ⟨tunnel, buffer, none⟩ next)
      (hover : tunnel.isOver = true) :
      Step bufferSize session { session with stage := .acting (next tunnel.relayed) }

inductive Reaches (bufferSize : Nat) (start : TunnelSession) : TunnelSession -> Prop where
  | here : Reaches bufferSize start start
  | snoc {session next} (h : Reaches bufferSize start session)
      (hstep : Step bufferSize session next) : Reaches bufferSize start next

end TunnelSession

end Intermediary
