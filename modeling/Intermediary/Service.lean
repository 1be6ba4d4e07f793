import Intermediary.Blocklist
import Intermediary.Cache.Stripes
import Intermediary.Forwarding
import Intermediary.Request.Reader
import Intermediary.Response.Reader
import Intermediary.Service.Action

/-!
# Serving a connection

One request is read from a client.  A blocked host, a request that has come in
a circle and a method that is not known are refused; other requests are passed
on, through the cache, or open a tunnel.  Every failure is answered with one
response, unless the client itself is the cause.
-/

namespace Intermediary

open Serving

structure Handler where
  blocklist : Blocklist
  parent : Option Parent
  limits : Limits
  cacheEnabled : Bool
  stripes : Stripes
  timeouts : TimeoutSettings
  tunnel : TunnelSettings

namespace Handler

def ofSettings (settings : Settings) (blocklist : Blocklist) : Handler where
  blocklist := blocklist
  parent := settings.parent
  limits := settings.limits
  cacheEnabled := settings.cache.enabled
  stripes := Stripes.ofCount settings.cache.stripes
  timeouts := settings.timeouts
  tunnel := settings.tunnel

/-- The seconds that a time limit allows. -/
def seconds (handler : Handler) : TimeLimit -> Nat
  | .connect => handler.timeouts.connect
  | .read => handler.timeouts.read
  | .write => handler.timeouts.write
  | .idle => handler.tunnel.idleTimeout

/-- Where a request is sent, and how its target is then written. -/
def route (handler : Handler) (request : Request) : String × Nat × TargetForm :=
  match handler.parent with
  | some parent => (parent.host, parent.port, .absolute)
  | none => (request.host, request.port, .origin)

end Handler

inductive ReadFault where
  | timedOut
  | message (error : MessageError)
  deriving DecidableEq, Repr

/-- Bytes read ahead of their use: those in the buffer, and those after it. -/
structure Held where
  pending : Bytes
  later : Bytes
  deriving DecidableEq, Repr

namespace Held

/-- The number of bytes that are read ahead at once. -/
def blockSize : Nat := 8192

/-- What remains after some bytes of a stream are taken: the block is in the buffer. -/
def after (taken : Nat) (rest : Bytes) : Held :=
  let left := (blockSize - taken % blockSize) % blockSize
  { pending := rest.take left, later := rest.drop left }

end Held

namespace Inflow

def decides {α : Type} (reader : Bytes -> Except MessageError α) (bytes : Bytes) : Bool :=
  match reader bytes with
  | .ok _ => true
  | .error e => ! e.isTransport

/-- What a reader makes of what has come, and what it leaves. -/
def read {α : Type} (reader : Bytes -> Except MessageError (α × Bytes))
    (inflow : Inflow) : Except ReadFault (α × Held) :=
  match reader inflow.bytes with
  | .ok (value, rest) =>
      .ok (value, Held.after (inflow.bytes.length - rest.length) rest)
  | .error e =>
      if e.isTransport then
        match inflow.ending with
        | .closed => .error (.message e)
        | .reset => .error (.message (.transport .reset))
        | .silent => .error .timedOut
      else .error (.message e)

end Inflow

namespace Service

def readMessage {α : Type} (side : Side)
    (reader : Bytes -> Except MessageError (α × Bytes)) :
    Serving (Except ReadFault (α × Held)) := do
  let inflow <- perform (.receive side (Inflow.decides reader))
  return Inflow.read reader inflow

def readRequest (handler : Handler) (client : String) :
    Serving (Except ServiceError (Request × Held)) := do
  match <- readMessage .client (Request.read handler.limits client) with
  | .ok found => return .ok found
  | .error .timedOut => return .error (.client .timedOut)
  | .error (.message e) => return .error (.ofMessageError e)

def fetch (handler : Handler) (request : Request) :
    Serving (Except ServiceError Response) := do
  let fail (fault : ExchangeFault) : Except ServiceError Response :=
    .error (.origin request.host request.port fault)
  let (host, port, form) := handler.route request
  match <- perform (.connect host port) with
  | .error cause => return fail (.connect host port cause)
  | .ok () =>
      match <- perform (.send ((Forwarding.augment request).render form)) with
      | .error cause => return fail (.send cause)
      | .ok () =>
          match <- readMessage .origin (Response.read handler.limits request.method) with
          | .ok (response, _) => return .ok response
          | .error .timedOut => return fail .timedOut
          | .error (.message e) => return fail (.response e)

def respond (response : Response) : Serving (Except ServiceError Unit) := do
  match <- perform (.answer response.render) with
  | .ok () => return .ok ()
  | .error cause => return .error (.client cause)

/-- Write a response to the client, and tell how the cache took part in it. -/
def respondWith (response : Response) (use : CacheUse) :
    Serving (Except ServiceError (Status × CacheUse)) := do
  match <- respond response with
  | .ok () => return .ok (response.status, use)
  | .error e => return .error e

def forwardPast (handler : Handler) (request : Request) :
    Serving (Except ServiceError (Status × CacheUse)) := do
  match <- fetch handler request with
  | .error e => return .error e
  | .ok response => respondWith response .bypass

/-- Pass a request on that the cache has nothing for, and offer it the response. -/
def forwardMiss (handler : Handler) (request : Request) (stripe : Nat) :
    Serving (Except ServiceError (Status × CacheUse)) := do
  match <- fetch handler request with
  | .error e => return .error e
  | .ok response =>
      perform (.lock stripe)
      perform (.store request.fingerprint response)
      perform (.unlock stripe)
      respondWith response .miss

/--
Serve a request through the cache.  The stripe of the request is held while the
cache is asked and a response found there is written, and again while a new
response is stored.
-/
def forward (handler : Handler) (request : Request) :
    Serving (Except ServiceError (Status × CacheUse)) := do
  if handler.cacheEnabled then
    let stripe := handler.stripes.index request.fingerprint
    perform (.lock stripe)
    match <- perform (.lookup request.fingerprint) with
    | some response =>
        let result <- respondWith response .hit
        perform (.unlock stripe)
        return result
    | none =>
        perform (.unlock stripe)
        forwardMiss handler request stripe
  else forwardPast handler request

def tunnelRequest (request : Request) : Request :=
  let bare := Request.bare .connect request.host request.port ""
  { bare with header := bare.header.set hostField request.authority }

/-- Open a tunnel through a parent; what it sends past its reply is held. -/
def openThroughParent (handler : Handler) (parent : Parent) (request : Request) :
    Serving (Except TunnelFault Held) := do
  match <- perform (.connect parent.host parent.port) with
  | .error cause => return .error (.parentConnect parent.host parent.port cause)
  | .ok () =>
      match <- perform (.send ((tunnelRequest request).render .absolute)) with
      | .error cause => return .error (.parentSend cause)
      | .ok () =>
          match <- readMessage .origin (Response.readHead handler.limits) with
          | .error .timedOut => return .error .parentTimedOut
          | .error (.message e) => return .error (.parentReply e)
          | .ok (reply, held) =>
              if reply.status.isSuccess then return .ok held
              else return .error (.parentRefused reply.status)

def openTunnel (handler : Handler) (request : Request) :
    Serving (Except TunnelFault Held) := do
  match handler.parent with
  | some parent => openThroughParent handler parent request
  | none =>
      match <- perform (.connect request.host request.port) with
      | .error cause => return .error (.connect cause)
      | .ok () => return .ok ⟨[], []⟩

def passOn (write : Bytes -> Action)
    (reply : {bytes : Bytes} -> (write bytes).Reply -> Except TransportError Unit)
    (bytes : Bytes) : Serving (Except TransportError Unit) :=
  if bytes.isEmpty then return .ok ()
  else do
    let result <- perform (write bytes)
    return reply result

/-- Tell the client that its tunnel is open, and pass on what is in the buffers. -/
def handshake (fromClient fromOrigin : Bytes) :
    Serving (Except TransportError Unit) := do
  match <- perform (.greet Response.tunnelEstablished.render) with
  | .error cause => return .error cause
  | .ok () =>
      match <- passOn .greet id fromOrigin with
      | .error cause => return .error cause
      | .ok () => passOn .send id fromClient

/-- Run an open tunnel from its handshake to its end. -/
def bridge (fromClient fromOrigin : Held) : Serving Unit := do
  match <- handshake fromClient.pending fromOrigin.pending with
  | .error cause =>
      perform (.log (.handshakeFailed cause))
      perform (.measure (.tunnel .failed 0 0))
  | .ok () =>
      perform (.measure (.request Method.connect.token Status.ok.code))
      let relayed <- perform (.relay fromClient.later fromOrigin.later)
      let toOrigin := relayed.toOrigin + fromClient.pending.length
      let toClient := relayed.toClient + fromOrigin.pending.length
      let outcome := if relayed.timedOut then TunnelOutcome.idleTimeout else .closed
      perform (.measure (.tunnel outcome toOrigin toClient))
      perform (.log (.tunnelClosed toOrigin toClient))

/-- Close the account of a connection that was not served. -/
def refuse (method : String) (error : ServiceError) : Serving Unit := do
  if error.isFatal then perform (.log (.abandoned method error))
  else
    perform (.log (.refused method error))
    let _ <- respond (Response.ofMessage error.status error.message)
    perform (.measure (.request method error.status.code))

/-- Close the account of a request that was passed on. -/
def finish (method : String) :
    Except ServiceError (Status × CacheUse) -> Serving Unit
  | .error e => refuse method e
  | .ok (status, use) => do
      perform (.log (.served method status use))
      perform (.measure (.request method status.code))

def serveKind (handler : Handler) (request : Request) (held : Held) :
    RequestKind -> Serving Unit
  | .forward => do
      let result <- forward handler request
      finish request.method.token result
  | .tunnel => do
      match <- openTunnel handler request with
      | .ok fromOrigin => bridge held fromOrigin
      | .error fault =>
          refuse request.method.token (.tunnel request.host request.port fault)

/-- Serve a request, or refuse it. -/
def dispatch (handler : Handler) (request : Request) (held : Held) :
    Serving Unit := do
  let method := request.method.token
  if handler.blocklist.contains request.host then
    perform (.measure .blocked)
    refuse method .forbidden
  else if Forwarding.containsLoop request then refuse method .loopDetected
  else
    match RequestKind.ofMethod request.method with
    | .error e => refuse method e
    | .ok kind => serveKind handler request held kind

/-- The method of a connection on which no request was read. -/
def noMethod : String := "-"

def serve (handler : Handler) (client : String) : Serving Unit := do
  match <- readRequest handler client with
  | .error e => refuse noMethod e
  | .ok (request, held) => dispatch handler request held

end Service

end Intermediary
