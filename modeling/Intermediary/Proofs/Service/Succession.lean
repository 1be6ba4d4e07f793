import Intermediary.Proofs.Cache.Steps
import Intermediary.Service

/-!
# Clients one after another

Clients are served one after another, while the cache is purged, its ceiling is
set and time passes.  This may come between any two steps of serving a client,
and between the steps by which the cache is used.

What is behind the proxy knows of a request only what the cache knows of it: its
fingerprint.  What a client is written then depends on the steps of serving it
and on the cache they meet.
-/

namespace Intermediary

/-- What a client sends, and which writes to it fail. -/
structure Client where
  address : String
  sends : Inflow
  /-- How many bytes of a write, after what was written before, are written if it fails. -/
  fails : Bytes -> Bytes -> Option (Nat × TransportError)

namespace Client

/-- What comes of a write after what was written before, and what is written of it. -/
def take (client : Client) (written bytes : Bytes) : Except TransportError Unit × Bytes :=
  match client.fails written bytes with
  | none => (.ok (), bytes)
  | some (count, cause) => (.error cause, bytes.take count)

/-- The fingerprint of the request that is read; without one, nothing depends on it. -/
def print (client : Client) (limits : Limits) : Fingerprint :=
  match Inflow.read (Request.read limits client.address) client.sends with
  | .ok (request, _) => request.fingerprint
  | .error _ => (Request.bare .get "" 0 "").fingerprint

end Client

/-- What is behind the proxy, and goes by the fingerprint of a request. -/
structure OriginSide where
  connects : Fingerprint -> Except TransportError Unit
  takes : Fingerprint -> Except TransportError Unit
  answers : Fingerprint -> Inflow
  /-- What comes of sending bytes into a tunnel before anything is relayed. -/
  admits : Fingerprint -> Bytes -> Except TransportError Unit
  /-- What a tunnel relays, and what the client is written through it. -/
  relays : Fingerprint -> Client -> Bytes -> Bytes -> Relayed × Bytes

/--
What comes of an action after what the client was written before it, and what
the client is written meanwhile.
-/
abbrev Surroundings : Type :=
  Bytes -> (action : Action) -> action.Reply × Bytes

/-- What a client and an origin make of the actions by which a request is served. -/
def OriginSide.around (origin : OriginSide) (client : Client) (print : Fingerprint) :
    Surroundings
  | _, .receive .client _ => (client.sends, [])
  | _, .receive .origin _ => (origin.answers print, [])
  | _, .connect _ _ => (origin.connects print, [])
  | written, .send bytes =>
      -- What is sent after the client was told of its tunnel goes into the tunnel.
      (if written.isEmpty then origin.takes print else origin.admits print bytes, [])
  | written, .answer bytes => client.take written bytes
  | written, .greet bytes => client.take written bytes
  | _, .relay fromClient fromOrigin => origin.relays print client fromClient fromOrigin
  | _, .lookup _ => ((none : Option Response), [])
  | _, .store _ _ => ((), [])
  | _, .lock _ => ((), [])
  | _, .unlock _ => ((), [])
  | _, .measure _ => ((), [])
  | _, .log _ => ((), [])

/-! ## The cache meanwhile -/

structure Stock where
  cache : Cache
  now : Nat

/-- What happens to the cache and the time while clients are served. -/
inductive Upkeep where
  | clear
  /-- One step of a purge that others may come between. -/
  | empty (shard : Nat)
  | setCeiling (seconds : Nat)
  | wait (time : Nat)

namespace Stock

def after (sharding : Sharding) (stock : Stock) : Upkeep -> Stock
  | .clear => { stock with cache := stock.cache.clear.1 }
  | .empty shard =>
      { stock with cache := (SharedStep.empty shard).leave sharding stock.cache stock.now }
  | .setCeiling seconds => { stock with cache := stock.cache.setCeiling seconds }
  | .wait time => { stock with now := stock.now + time }

def afterAll (sharding : Sharding) (stock : Stock) (upkeep : List Upkeep) : Stock :=
  upkeep.foldl (after sharding) stock

end Stock

namespace Sharing

variable {α β : Type}

def writes (around : Surroundings) (written : Bytes) : SharedStep -> Bytes
  | .outside action => (around written action).2
  | _ => []

/--
Take the steps of a program, with the upkeep that comes before each of them; what
the client is written is put after what it was written before.
-/
def carryOut (sharding : Sharding) (around : Surroundings) :
    Sharing α -> List (List Upkeep) -> Stock -> Bytes -> Stock × Bytes
  | .done _, meanwhile, stock, written =>
      (stock.afterAll sharding meanwhile.flatten, written)
  | .act step next, meanwhile, stock, written =>
      let met := stock.afterAll sharding (meanwhile.headD [])
      let reply := step.reply (fun action => (around written action).1) met.cache met.now
      carryOut sharding around (next reply) meanwhile.tail
        { met with cache := step.leave sharding met.cache met.now }
        (written ++ writes around written step)

/--
A property of the cache is kept by every step, whatever cache with the property
the step meets, and the result and what the client is written have another one.
-/
def Keeps (sharding : Sharding) (around : Surroundings) (kept : Cache -> Prop)
    (post : α -> Bytes -> Prop) : Sharing α -> Bytes -> Prop
  | .done result, written => post result written
  | .act step next, written => ∀ cache now, kept cache ->
      kept (step.leave sharding cache now) ∧
        Keeps sharding around kept post
          (next (step.reply (fun action => (around written action).1) cache now))
          (written ++ writes around written step)

variable {sharding : Sharding} {around : Surroundings} {kept : Cache -> Prop}
  {written : Bytes}

theorem keeps_bind {program : Sharing α} {next : α -> Sharing β} {post : β -> Bytes -> Prop}
    (h : Keeps sharding around kept
      (fun result written => Keeps sharding around kept post (next result) written)
      program written) :
    Keeps sharding around kept post (program.bind next) written := by
  induction program generalizing written with
  | done result => exact h
  | act step rest ih =>
      intro cache now hkept
      obtain ⟨hleave, hrest⟩ := h cache now hkept
      exact ⟨hleave, ih _ hrest⟩

theorem Keeps.mono {program : Sharing α} {post weaker : α -> Bytes -> Prop}
    (h : Keeps sharding around kept post program written)
    (hpost : ∀ result written, post result written -> weaker result written) :
    Keeps sharding around kept weaker program written := by
  induction program generalizing written with
  | done result => exact hpost result written h
  | act step rest ih =>
      intro cache now hkept
      obtain ⟨hleave, hrest⟩ := h cache now hkept
      exact ⟨hleave, ih _ hrest⟩

private theorem kept_afterAll
    (hupkeep : ∀ (stock : Stock) upkeep, kept stock.cache ->
      kept (stock.after sharding upkeep).cache)
    {stock : Stock} (h : kept stock.cache) (upkeep : List Upkeep) :
    kept (stock.afterAll sharding upkeep).cache := by
  unfold Stock.afterAll
  induction upkeep generalizing stock with
  | nil => exact h
  | cons first upkeep ih => exact ih (hupkeep stock first h)

theorem Keeps.sound
    (hupkeep : ∀ (stock : Stock) upkeep, kept stock.cache ->
      kept (stock.after sharding upkeep).cache)
    {program : Sharing α} {post : α -> Bytes -> Prop}
    (h : Keeps sharding around kept post program written)
    (meanwhile : List (List Upkeep)) {stock : Stock} (hstock : kept stock.cache) :
    kept (carryOut sharding around program meanwhile stock written).1.cache ∧
      ∃ result, post result (carryOut sharding around program meanwhile stock written).2 := by
  induction program generalizing written meanwhile stock with
  | done result => exact ⟨kept_afterAll hupkeep hstock _, result, h⟩
  | act step rest ih =>
      -- The step meets whatever cache the upkeep has left, which is kept like any other.
      have hmet := kept_afterAll hupkeep hstock (meanwhile.headD [])
      obtain ⟨hleave, hrest⟩ := h _ (stock.afterAll sharding (meanwhile.headD [])).now hmet
      exact ih _ hrest meanwhile.tail hleave

end Sharing

/-! ## What the proxy writes -/

/-- A proxy with the origin behind it. -/
structure Premises where
  handler : Handler
  sharding : Sharding
  origin : OriginSide

/-- A client that is served, with what happens meanwhile, or what happens in between. -/
inductive Episode where
  | visit (client : Client) (meanwhile : List (List Upkeep))
  | between (upkeep : Upkeep)

def Episode.client? : Episode -> Option Client
  | .visit client _ => some client
  | .between _ => none

namespace Premises

/-- Serve one client; what is left, and what the client was written. -/
def attend (premises : Premises) (client : Client) (meanwhile : List (List Upkeep))
    (stock : Stock) : Stock × Bytes :=
  Sharing.carryOut premises.sharding
    (premises.origin.around client (client.print premises.handler.limits))
    (Sharing.ofServing (Service.serve premises.handler client.address)) meanwhile stock []

def written (premises : Premises) : List Episode -> Stock -> List Bytes
  | [], _ => []
  | .visit client meanwhile :: later, stock =>
      let (left, bytes) := premises.attend client meanwhile stock
      bytes :: premises.written later left
  | .between upkeep :: later, stock =>
      premises.written later (stock.after premises.sharding upkeep)

/-- What each client was written by a proxy that begins with the empty cache. -/
def run (settings : Settings) (blocklist : Blocklist) (sharding : Sharding)
    (origin : OriginSide) (now : Nat) (episodes : List Episode) : List Bytes :=
  written ⟨.ofSettings settings blocklist, sharding, origin⟩ episodes
    ⟨.ofSettings settings.cache, now⟩

end Premises

end Intermediary
