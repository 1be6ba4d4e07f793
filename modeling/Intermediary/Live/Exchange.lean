import Intermediary.Cache
import Intermediary.Live.Socket
import Intermediary.LogLine
import Intermediary.Service
import Intermediary.Tracker
import Intermediary.Tunnel
import Std.Sync.Semaphore

/-!
# Serving a connection over sockets

The actions by which a connection is served are carried out on the sockets of
its two peers, and on what all connections share.
-/

namespace Intermediary

namespace Live

open Std.Async

structure Site where
  handler : Handler
  cache : IO.Ref Cache
  report : IO.Ref Metrics.Report
  stripes : Array Std.Semaphore
  write : LogLine -> IO Unit

namespace Site

def ofSettings (settings : Settings) (blocklist : Blocklist)
    (write : LogLine -> IO Unit) : IO Site := do
  let handler := Handler.ofSettings settings blocklist
  let stripes <- (Array.range handler.stripes.count).mapM fun _ =>
    Std.Semaphore.new 1
  return {
    handler
    cache := <- IO.mkRef (.ofSettings settings.cache)
    report := <- IO.mkRef []
    stripes
    write }

def measure (site : Site) (measures : List Measure) : IO Unit :=
  site.report.modify fun report => measures.foldl Metrics.record report

/-- Use the cache, and measure what came of it. -/
def withCache {α : Type} (site : Site)
    (change : Cache -> α × Cache × List Measure) : IO α := do
  let (result, measures) <- site.cache.modifyGet fun cache =>
    let (result, after, measures) := change cache
    ((result, measures), after)
  site.measure measures
  return result

/-- The time that a limit allows, in milliseconds. -/
def milliseconds (site : Site) (limit : TimeLimit) : Nat :=
  1000 * site.handler.seconds limit

/-- Take a stripe, once nobody else has it. -/
def lock (site : Site) (stripe : Nat) : Async Unit :=
  match site.stripes[stripe]? with
  | some semaphore => Async.ofPurePromise semaphore.acquire
  | none => return ()

def unlock (site : Site) (stripe : Nat) : IO Unit :=
  match site.stripes[stripe]? with
  | some semaphore => semaphore.release
  | none => return ()

end Site

structure Parties where
  client : Socket
  origin : IO.Ref (Option Socket)

namespace Parties

/-- The socket of a peer, if there is one. -/
def socket? (parties : Parties) : Side -> IO (Option Socket)
  | .client => return some parties.client
  | .origin => parties.origin.get

def write (parties : Parties) (side : Side) (bytes : Bytes) :
    Async (Except TransportError Unit) := do
  match <- parties.socket? side with
  | some socket => Live.write socket bytes
  | none => return .error .brokenPipe

end Parties

/-! ## Tunnels -/

structure Ends where
  client : Socket
  origin : Socket

def Ends.socket (ends : Ends) : Side -> Socket
  | .client => ends.client
  | .origin => ends.origin

/-- What waiting for either peer of a tunnel comes to. -/
inductive Arrival where
  | idle
  | block (side : Side) (bytes : Bytes)
  | ended (side : Side)
  | failed

/-- Wait until a peer that may still send something can be read. -/
def Ends.next (ends : Ends) (tunnel : Tunnel) (size milliseconds : Nat) :
    Async Arrival := do
  let timer <- Selector.sleep (.ofNat milliseconds)
  let reading (side : Side) : Array (Selectable Arrival) :=
    if (tunnel.flow side).isOpen then
      let selector := (ends.socket side).recvSelector (UInt64.ofNat size)
      #[.case selector fun block =>
        match block with
        | some block => return .block side (toBytes block)
        | none => return .ended side]
    else #[]
  let idle : Selectable Arrival := .case timer fun _ => return .idle
  try
    Selectable.one ((reading .client ++ reading .origin).push idle)
  catch _ => return .failed

/-- The tunnel after a block was read from a peer, which is passed on. -/
def Ends.passOn (ends : Ends) (tunnel : Tunnel) (side : Side) (bytes : Bytes) :
    Async Tunnel := do
  match <- Live.write (ends.socket side.other) bytes with
  | .ok () => return tunnel.step (.ready side [.moved bytes, .nothing])
  | .error _ => return tunnel.step (.ready side [.broken bytes 0])

/-- Shut the half of a connection that a direction which has ended wrote to. -/
def Ends.shutAfter (ends : Ends) (before after : Tunnel) (side : Side) :
    Async Unit := do
  if (before.flow side).isOpen && ! (after.flow side).isOpen then
    shut (ends.socket side.other)

/-- The tunnel after one more wait; when reading fails both directions end. -/
def Ends.step (ends : Ends) (tunnel : Tunnel) (size milliseconds : Nat) :
    Async Tunnel := do
  match <- ends.next tunnel size milliseconds with
  | .idle => return tunnel.step .idle
  | .ended side =>
      let after := tunnel.step (.ready side [.ended])
      ends.shutAfter tunnel after side
      return after
  | .block side bytes =>
      let after <- ends.passOn tunnel side bytes
      ends.shutAfter tunnel after side
      return after.forget
  | .failed =>
      shut ends.client
      shut ends.origin
      return (tunnel.step (.ready .client [.failed])).step (.ready .origin [.failed])

/-- Relay until the tunnel is over. -/
partial def Ends.relay (ends : Ends) (tunnel : Tunnel) (size milliseconds : Nat) :
    Async Tunnel := do
  if tunnel.isOver then return tunnel
  ends.relay (<- ends.step tunnel size milliseconds) size milliseconds

/-- Run a tunnel, beginning with what was read ahead from each peer. -/
def runTunnel (site : Site) (parties : Parties) (fromClient fromOrigin : Bytes) :
    Async Relayed := do
  match <- parties.origin.get with
  | none => return Tunnel.fresh.relayed
  | some origin =>
      let ends : Ends := ⟨parties.client, origin⟩
      let ahead (tunnel : Tunnel) (side : Side) (bytes : Bytes) : Async Tunnel :=
        if bytes.isEmpty then return tunnel
        else ends.passOn tunnel side bytes
      let begun <- ahead .fresh .client fromClient
      let begun <- ahead begun .origin fromOrigin
      let tunnel <- ends.relay begun.forget site.handler.tunnel.bufferSize
        (site.milliseconds .idle)
      return tunnel.relayed

/-! ## Actions -/

def perform (site : Site) (parties : Parties) : (action : Action) -> Async action.Reply
  | .receive side enough => do
      match <- parties.socket? side with
      | none => return ⟨[], .closed⟩
      | some socket =>
          let now <- IO.monoMsNow
          readUntil socket enough (now + site.milliseconds .read) []
  | .connect host port => do
      match <- Live.connect host port (site.milliseconds .connect) with
      | .ok socket =>
          parties.origin.set (some socket)
          return .ok ()
      | .error cause => return .error cause
  | .send bytes => parties.write .origin bytes
  | .answer bytes => do
      let written <-
        within (site.milliseconds .write) (parties.write .client bytes)
      return written.getD (.error .timedOut)
  | .greet bytes => parties.write .client bytes
  | .relay fromClient fromOrigin => runTunnel site parties fromClient fromOrigin
  | .lock stripe => site.lock stripe
  | .unlock stripe => site.unlock stripe
  | .lookup print => do
      let now <- IO.monoMsNow
      site.withCache (·.lookup print now)
  | .store print response => do
      let now <- IO.monoMsNow
      site.withCache fun cache => ((), cache.insert print response now)
  | .measure recording => site.measure [recording]
  | .log event => site.write event.line

def carryOut (site : Site) (parties : Parties) {α : Type} : Serving α -> Async α
  | .done result => return result
  | .act action next => do
      let reply <- perform site parties action
      carryOut site parties (next reply)

def serveClient (site : Site) (client : Socket) (address : String) : Async Unit := do
  let parties : Parties := ⟨client, <- IO.mkRef none⟩
  try
    carryOut site parties (Service.serve site.handler address)
    shut client
  catch _ => return ()

end Live

end Intermediary
