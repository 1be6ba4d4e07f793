import Intermediary.Cache
import Intermediary.Endpoint
import Intermediary.Rehearsal.Link
import Intermediary.Service

/-!
# Rehearsing the service of a connection

The actions of a program are carried out between links to rehearsed peers.  An
action that has to wait for a peer in vain takes as long as its time limit
allows; all others take no time.
-/

namespace Intermediary

inductive Origin where
  | answers (peer : Peer)
  | refuses (text : String)
  /-- The attempt takes the whole service down with it. -/
  | crashes
  deriving DecidableEq, Repr

structure Dial where
  host : String
  port : Nat
  link : Option Link
  deriving DecidableEq, Repr

def Dial.received (dial : Dial) : Bytes :=
  match dial.link with
  | some link => link.received
  | none => []

inductive Network where
  /-- To the origins that are announced, one after the other. -/
  | announced
  /-- Nowhere. -/
  | unreachable
  deriving DecidableEq, Repr

structure Exchange where
  client : Link
  /-- The attempts to connect, the last first. -/
  dials : List Dial
  /-- The origins that were announced and not reached yet. -/
  origins : List Origin
  deriving DecidableEq, Repr

structure Site where
  handler : Handler
  network : Network
  /-- The time in milliseconds. -/
  now : Nat
  cache : Cache
  measures : List Measure
  /-- What was written to the log. -/
  events : List Event

inductive Turn (action : Action) where
  | reply (value : action.Reply) (site : Site) (exchange : Exchange)
  | late (limit : TimeLimit) (value : action.Reply) (exchange : Exchange)
  /-- There is no limit to the wait. -/
  | never
  | crash (exchange : Exchange)

namespace Exchange

def origin? (exchange : Exchange) : Option Link :=
  exchange.dials.head?.bind Dial.link

def withOrigin (exchange : Exchange) (link : Link) : Exchange :=
  match exchange.dials with
  | [] => exchange
  | dial :: rest => { exchange with dials := { dial with link } :: rest }

/-- The link to a peer; an origin that was never reached has left. -/
def link (exchange : Exchange) : Side -> Link
  | .client => exchange.client
  | .origin => exchange.origin?.getD (.toPeer (.vanished []))

def withLink (exchange : Exchange) (link : Link) : Side -> Exchange
  | .client => { exchange with client := link }
  | .origin => exchange.withOrigin link

def rest (exchange : Exchange) : Exchange :=
  let rested := exchange.withLink (exchange.link .client).rest .client
  rested.withLink (exchange.link .origin).rest .origin

/-- Read all that a peer sends, if that is enough or all there will be. -/
def receive (exchange : Exchange) (site : Site) (side : Side)
    (enough : Bytes -> Bool) : Turn (.receive side enough) :=
  let rested := exchange.rest
  let found := (rested.link side).inflow
  let read :=
    rested.withLink ((rested.link side).take found.bytes.length) side
  if found.ending != .silent || enough found.bytes then .reply found site read
  else .late .read found read

def unreachable : TransportError :=
  .described EndpointFault.unreachable.message

def connect (exchange : Exchange) (site : Site) (host : String) (port : Nat) :
    Turn (.connect host port) :=
  let dialled (link : Option Link) (left : List Origin) : Exchange :=
    { exchange with
      dials := ⟨host, port, link⟩ :: exchange.dials
      origins := left }
  match site.network with
  | .unreachable => .reply (.error unreachable) site exchange
  | .announced =>
      match exchange.origins with
      | [] =>
          .reply (.error (.described "no origin scripted")) site
            (dialled none [])
      | .refuses text :: left =>
          .reply (.error (.described text)) site (dialled none left)
      | .crashes :: left => .crash (dialled none left)
      | .answers peer :: left =>
          .reply (.ok ()) site (dialled (some (.toPeer peer)) left)

/-- Run a tunnel between the peers, from what was read ahead from each. -/
def relay (exchange : Exchange) (site : Site) (fromClient fromOrigin : Bytes) :
    Turn (.relay fromClient fromOrigin) :=
  let pair : LinkPair :=
    ⟨(exchange.link .client).putBack fromClient.length,
      (exchange.link .origin).putBack fromOrigin.length⟩
  let (tunnel, left) := pair.relay site.handler.tunnel.bufferSize
  let after :=
    (exchange.withLink left.client .client).withLink left.origin .origin
  if tunnel.timedOut then .late .idle tunnel.relayed after
  else if tunnel.isOver then .reply tunnel.relayed site after
  else .never

def perform (site : Site) (exchange : Exchange) : (action : Action) -> Turn action
  | .receive side enough => exchange.receive site side enough
  | .connect host port => exchange.connect site host port
  | .send bytes =>
      match (exchange.link .origin).write bytes with
      | .done link => .reply (.ok ()) site (exchange.withLink link .origin)
      | .failed cause => .reply (.error cause) site exchange
      | .blocked => .never
  | .answer bytes =>
      match (exchange.link .client).write bytes with
      | .done link => .reply (.ok ()) site (exchange.withLink link .client)
      | .failed cause => .reply (.error cause) site exchange
      | .blocked => .late .write (.error .timedOut) exchange
  | .greet bytes =>
      match (exchange.link .client).write bytes with
      | .done link => .reply (.ok ()) site (exchange.withLink link .client)
      | .failed cause => .reply (.error cause) site exchange
      | .blocked => .never
  | .relay fromClient fromOrigin => exchange.relay site fromClient fromOrigin
  | .lock _ | .unlock _ => .reply () site exchange
  | .lookup print =>
      let (found, cache, measures) := site.cache.lookup print site.now
      .reply found
        { site with cache, measures := site.measures ++ measures } exchange
  | .store print response =>
      let (cache, measures) := site.cache.insert print response site.now
      .reply ()
        { site with cache, measures := site.measures ++ measures } exchange
  | .measure recording =>
      .reply () { site with measures := site.measures ++ [recording] } exchange
  | .log event =>
      .reply () { site with events := site.events ++ [event] } exchange

/-- How far the service of a connection has come. -/
inductive Progress where
  | finished
  | crashed
  /-- The rest follows at a time, or never. -/
  | parked (due : Option Nat) (rest : Serving Unit)

/-- Carry out a program until it has to wait. -/
def drive (site : Site) (exchange : Exchange) :
    Serving Unit -> Progress × Site × Exchange
  | .done _ => (.finished, site, exchange)
  | .act action next =>
      match perform site exchange action with
      | .reply value site exchange => drive site exchange (next value)
      | .late limit value exchange =>
          let due := site.now + 1000 * site.handler.seconds limit
          (.parked (some due) (next value), site, exchange)
      | .never => (.parked none (.act action next), site, exchange)
      | .crash exchange => (.crashed, site, exchange)

end Exchange

end Intermediary
