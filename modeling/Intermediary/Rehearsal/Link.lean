import Intermediary.Rehearsal.Script
import Intermediary.Tunnel

/-!
# Connections to rehearsed peers

A link is the proxy's end of a connection to a peer.  Most peers play a script;
the others leave, or never read.  What can be read from a link is what its peer
has said and was not read before.
-/

namespace Intermediary

inductive Peer where
  | player (script : Script)
  /-- It plays a script to itself and never reads. -/
  | deaf (script : Script)
  /-- It says something and then leaves as soon as it is spoken to, without reading. -/
  | resetting (words : Bytes)
  /-- It has said something and has left. -/
  | vanished (words : Bytes)
  deriving DecidableEq, Repr

structure Link where
  peer : Peer
  /-- What was written, in pieces, the last first. -/
  pieces : List Bytes
  /-- Nothing more will be written. -/
  isShut : Bool
  /-- The number of bytes read so far. -/
  taken : Nat
  hasLeft : Bool
  deriving DecidableEq, Repr

inductive Written where
  | done (link : Link)
  | failed (cause : TransportError)
  /-- The peer does not read, and there is no more room for what it is sent. -/
  | blocked
  deriving DecidableEq, Repr

namespace Link

def toPeer (peer : Peer) : Link where
  peer := peer
  pieces := []
  isShut := false
  taken := 0
  hasLeft := match peer with
    | .vanished _ => true
    | _ => false

def heard (link : Link) : Bytes :=
  Bytes.join link.pieces.reverse

/-- What the peer says it has received; a peer that leaves keeps no account. -/
def received (link : Link) : Bytes :=
  match link.peer with
  | .player _ => link.heard
  | .deaf _ | .resetting _ | .vanished _ => []

/-- How many bytes a connection holds for a peer that does not read them. -/
def room : Nat := 212992

/-- The peer has not said all yet, for want of room, and does nothing else before. -/
def isSpeaking (link : Link) : Bool :=
  match link.peer with
  | .resetting words => room < words.length - link.taken
  | _ => false

/-- Something was said to the peer, if only that there will be nothing more. -/
def isSpokenTo (link : Link) : Bool :=
  link.isShut || ! link.pieces.isEmpty

/-- All that the peer has said or will say, and how it comes to a stop. -/
def said (link : Link) : Inflow :=
  let stop (isOver : Bool) : Ending := if isOver then .closed else .silent
  match link.peer with
  | .player script =>
      let (words, isOver) := script.said link.heard link.isShut
      ⟨words, stop isOver⟩
  | .deaf script =>
      let (words, isOver) := script.said [] false
      ⟨words, stop isOver⟩
  | .resetting words =>
      let leaves := link.hasLeft || (link.isSpeaking && link.isSpokenTo)
      if leaves && ! link.pieces.isEmpty then ⟨words, .reset⟩
      else ⟨words, stop leaves⟩
  | .vanished words => ⟨words, .closed⟩

def inflow (link : Link) : Inflow :=
  let whole := link.said
  { whole with bytes := whole.bytes.drop link.taken }

def take (link : Link) (count : Nat) : Link :=
  { link with taken := link.taken + count }

def putBack (link : Link) (count : Nat) : Link :=
  { link with taken := link.taken - count }

def rest (link : Link) : Link :=
  match link.peer with
  | .resetting _ =>
      { link with
        hasLeft := link.hasLeft || (! link.isSpeaking && link.isSpokenTo) }
  | _ => link

/-- Write bytes; there is nothing to fail where there are none. -/
def write (link : Link) (bytes : Bytes) : Written :=
  if bytes.isEmpty then .done link
  else if link.hasLeft then .failed .brokenPipe
  else
    let grown := { link with pieces := bytes :: link.pieces }
    match link.peer with
    | .deaf _ =>
        if grown.heard.length ≤ room then .done grown else .blocked
    | .resetting _ =>
        if grown.heard.length ≤ room then .done grown
        else if link.isSpeaking then .blocked
        else .failed .brokenPipe
    | _ => .done grown

def shut (link : Link) : Link :=
  { link with isShut := true }

/-- Whether there is something to be read, if only the end. -/
def isReady (link : Link) : Bool :=
  let found := link.inflow
  ! found.bytes.isEmpty || found.ending != .silent

end Link

/-! ## A tunnel between two links -/

structure LinkPair where
  client : Link
  origin : Link
  deriving DecidableEq, Repr

namespace LinkPair

def link (pair : LinkPair) : Side -> Link
  | .client => pair.client
  | .origin => pair.origin

def withLink (pair : LinkPair) (link : Link) : Side -> LinkPair
  | .client => { pair with client := link }
  | .origin => { pair with origin := link }

def rest (pair : LinkPair) : LinkPair :=
  ⟨pair.client.rest, pair.origin.rest⟩

/-- The attempt that ends a run of pieces, by how the peer came to a stop. -/
def lastTransfer : Ending -> Transfer
  | .closed => .ended
  | .reset => .failed
  | .silent => .nothing

/-- Move pieces from one peer to the other until writing fails, if it does not block. -/
def movePieces (side : Side) (stop : Ending) :
    List Bytes -> LinkPair -> List Transfer -> Option (List Transfer × LinkPair)
  | [], pair, done => some ((lastTransfer stop :: done).reverse, pair)
  | piece :: rest, pair, done =>
      let read := pair.withLink ((pair.link side).take piece.length) side
      match (read.link side.other).write piece with
      | .done link =>
          movePieces side stop rest (read.withLink link side.other)
            (.moved piece :: done)
      | .failed _ => some ((.broken piece 0 :: done).reverse, read)
      | .blocked => none

/-- Move what can be read from a peer, if the other one takes it. -/
def move (pair : LinkPair) (bufferSize : Nat) (side : Side) :
    Option (List Transfer × LinkPair) :=
  let found := (pair.link side).inflow
  movePieces side found.ending (found.bytes.relayPieces bufferSize) pair []

/-- The open direction whose peer can be read, the client's before the other. -/
def ready? (pair : LinkPair) (tunnel : Tunnel) : Option Side :=
  [Side.client, .origin].find? fun side =>
    (tunnel.flow side).isOpen && (pair.link side).isReady

/-- Run a tunnel for at most a number of waits, or until writing to a peer blocks. -/
def relayFor (bufferSize : Nat) :
    Nat -> Tunnel -> LinkPair -> Tunnel × LinkPair
  | 0, tunnel, pair => (tunnel, pair)
  | fuel + 1, tunnel, pair =>
      if tunnel.isOver then (tunnel, pair)
      else
        let pair := pair.rest
        match pair.ready? tunnel with
        | none => (tunnel.step .idle, pair)
        | some side =>
            match pair.move bufferSize side with
            | none => (tunnel, pair)
            | some (transfers, moved) =>
                let next := tunnel.step (.ready side transfers)
                if (next.flow side).isOpen then relayFor bufferSize fuel next moved
                else
                  let other := (moved.link side.other).shut
                  relayFor bufferSize fuel next (moved.withLink other side.other)

def partCount (link : Link) : Nat :=
  match link.peer with
  | .player script | .deaf script => script.length
  | .resetting _ | .vanished _ => 1

/--
Run a tunnel until it is over, or waits for a peer for ever.  Between peers of
which one at most repeats what it hears, every wait but a few is for a part of a
script.
-/
def relay (pair : LinkPair) (bufferSize : Nat) : Tunnel × LinkPair :=
  relayFor bufferSize (16 + 8 * (partCount pair.client + partCount pair.origin))
    .fresh pair

end LinkPair

end Intermediary
