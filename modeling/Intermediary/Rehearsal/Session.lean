import Intermediary.Rehearsal.Exchange
import Intermediary.Scheduler

/-!
# Rehearsing a proxy at work

A session rehearses connections one after the other against one proxy.  What a
connection waits for in vain lies in the future, so the session keeps the
programs that wait, each with the time at which it goes on, and lets the clock
jump from one such time to the next.
-/

namespace Intermediary

inductive Stage where
  /-- Nobody serves it yet. -/
  | waiting
  | parked (due : Option Nat) (rest : Serving Unit)
  | finished
  | crashed

structure Visit where
  address : String
  exchange : Exchange
  stage : Stage
  /-- The number under which it is in service. -/
  id : Option ConnectionId

namespace Visit

def isOver (visit : Visit) : Bool :=
  match visit.stage with
  | .finished | .crashed => true
  | .waiting | .parked .. => false

def hasCrashed (visit : Visit) : Bool :=
  match visit.stage with
  | .crashed => true
  | _ => false

def due? (visit : Visit) : Option Nat :=
  match visit.stage with
  | .parked due _ => due
  | _ => none

def program (visit : Visit) (handler : Handler) : Serving Unit :=
  match visit.stage with
  | .waiting => Service.serve handler visit.address
  | .parked _ rest => rest
  | .finished | .crashed => .done ()

/-- The visit after its program was carried out as far as it goes. -/
def advance (visit : Visit) (site : Site) : Visit × Site :=
  let (progress, after, exchange) :=
    visit.exchange.drive site (visit.program site.handler)
  let stage : Stage := match progress with
    | .finished => .finished
    | .crashed => .crashed
    | .parked due rest => .parked due rest
  ({ visit with exchange, stage }, after)

end Visit

/-- A proxy at work: alone, or with workers. -/
structure Session where
  site : Site
  pool : Option (Scheduler Nat)
  /-- The connections in the order in which they came. -/
  visits : Array Visit

namespace Session

def ofSettings (settings : Settings) (blocklist : Blocklist) (network : Network)
    (isPooled : Bool) : Session where
  site := {
    handler := Handler.ofSettings settings blocklist
    network
    now := 0
    cache := Cache.ofSettings settings.cache
    measures := []
    events := [] }
  pool := if isPooled then some (.ofSettings settings.scheduler) else none
  visits := #[]

/-- How many connections are in service, where workers serve them. -/
def active? (session : Session) : Option Nat :=
  session.pool.map (·.tracker.active)

def record (session : Session) (measures : List Measure) : Session :=
  { session with
    site := { session.site with measures := session.site.measures ++ measures } }

/-- End the service of a connection if it is over. -/
def release (session : Session) (visit : Visit) : Session :=
  match session.pool, visit.id with
  | some pool, some id =>
      if visit.isOver then
        let (left, measures) := pool.finish id
        { session with pool := some left }.record measures
      else session
  | _, _ => session

def carryOn (session : Session) (number : Nat) : Session :=
  match session.visits[number]? with
  | none => session
  | some visit =>
      let (next, site) := visit.advance session.site
      { session with
        site
        visits := session.visits.setIfInBounds number next }.release next

/-- Give connections that wait to workers that are free, at most so many. -/
def assign : Nat -> Session -> Session
  | 0, session => session
  | fuel + 1, session =>
      match session.pool.bind Scheduler.startNext with
      | none => session
      | some (id, number, pool, measures) =>
          let started := { session with
            pool := some pool
            visits := session.visits.modify number ({ · with id := some id }) }
          assign fuel ((started.record measures).carryOn number)

/-- Give every connection that waits to a worker that is free. -/
def settle (session : Session) : Session :=
  session.assign (session.visits.size + 1)

/-- The connection that goes on first, and when. -/
def next? (session : Session) : Option (Nat × Nat) :=
  session.visits.toList.zipIdx.foldl
    (fun first (visit, number) =>
      match visit.due?, first with
      | some due, some (earliest, _) =>
          if due < earliest then some (due, number) else first
      | some due, none => some (due, number)
      | none, _ => first)
    none

/-- Let the clock jump to when the next connection goes on. -/
def jump (session : Session) (due number : Nat) : Session :=
  let moved := { session with
    site := { session.site with now := max session.site.now due } }
  (moved.carryOn number).settle

/-- How many jumps bring every connection to its end. -/
def jumpBound (session : Session) : Nat :=
  16 * (session.visits.size + 1)

def jumpWhile (isAllowed : Nat -> Bool) : Nat -> Session -> Session
  | 0, session => session
  | fuel + 1, session =>
      match session.next? with
      | none => session
      | some (due, number) =>
          if isAllowed due then
            jumpWhile isAllowed fuel (session.jump due number)
          else session

def isOver (session : Session) (number : Nat) : Bool :=
  match session.visits[number]? with
  | some visit => visit.isOver
  | none => true

/-- Jump on until the service of one connection has ended. -/
def jumpToEnd (number : Nat) : Nat -> Session -> Session
  | 0, session => session
  | fuel + 1, session =>
      if session.isOver number then session
      else
        match session.next? with
        | none => session
        | some (due, first) => jumpToEnd number fuel (session.jump due first)

/-- A client connects; its connection is served as far as it goes. -/
def visit (session : Session) (address : String) (client : Peer)
    (origins : List Origin) : Session :=
  let number := session.visits.size
  let arrived := { session with
    visits := session.visits.push {
      address
      exchange := ⟨.toPeer client, [], origins⟩
      stage := .waiting
      id := none } }
  match session.pool with
  | none => arrived.carryOn number
  | some pool =>
      match pool.schedule number with
      | .queued queued => { arrived with pool := some queued }.settle
      | .full | .closed => arrived

structure Account where
  client : Bytes
  /-- The hosts and ports that were called, and what each received. -/
  origins : List (String × Nat × Bytes)
  /-- What was written to the log meanwhile. -/
  events : List Event
  hasCrashed : Bool

/-- What became of a connection that came to its end. -/
def account (session : Session) (number : Nat) : Account :=
  match session.visits[number]? with
  | none => ⟨[], [], session.site.events, false⟩
  | some visit => {
      client := visit.exchange.client.received
      origins := visit.exchange.dials.reverse.map fun dial =>
        (dial.host, dial.port, dial.received)
      events := session.site.events
      hasCrashed := visit.hasCrashed }

/-- A client connects, and the session waits for the end of its connection. -/
def request (session : Session) (address : String) (client : Peer)
    (origins : List Origin) : Session × Account :=
  let quiet := { session with site := { session.site with events := [] } }
  let number := session.visits.size
  let visited := quiet.visit address client origins
  let ended := visited.jumpToEnd number visited.jumpBound
  (ended, ended.account number)

/-- Let some seconds pass. -/
def pass (session : Session) (seconds : Nat) : Session :=
  let target := session.site.now + 1000 * seconds
  let moved := session.jumpWhile (decide <| · ≤ target) session.jumpBound
  { moved with site := { moved.site with now := target } }

def clearCache (session : Session) : Session :=
  let (cache, measures) := session.site.cache.clear
  { session with site := { session.site with cache } }.record measures

/-- Bound the lifetime of what is stored from now on. -/
def setCeiling (session : Session) (seconds : Nat) : Session :=
  { session with
    site := { session.site with cache := session.site.cache.setCeiling seconds } }

/-- How many seconds a proxy that is told to stop leaves to what is in service. -/
def serverGrace : Nat := 10

/-- Close the session; what is in service may go on for some seconds. -/
def close (session : Session) (grace : Nat) : Session :=
  match session.pool with
  | none => session
  | some pool =>
      let deadline := session.site.now + 1000 * grace
      let closing := { session with pool := some pool.close }
      let drained :=
        closing.jumpWhile (decide <| · < deadline) closing.jumpBound
      match drained.pool with
      | none => drained
      | some left =>
          let (aborted, measures) := left.abort
          { drained with pool := some aborted }.record measures

end Session

end Intermediary
