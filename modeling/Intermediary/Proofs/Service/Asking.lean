import Intermediary.Proofs.Program
import Intermediary.Service

/-!
# Asking and being answered

An origin is asked for a response, and a parent for a tunnel, in the same steps:
connect, send, and read what comes back.  What is made of it is decided afterwards,
without another action.
-/

namespace Intermediary.Service

open Serving

variable {α : Type}

/-- How far asking has come, and what was read if it came to an answer. -/
inductive Asked (α : Type) where
  | unconnected (cause : TransportError)
  | unsent (cause : TransportError)
  | answered (result : Except ReadFault (α × Held))

def ask (host : String) (port : Nat) (bytes : Bytes)
    (reader : Bytes -> Except MessageError (α × Bytes)) : Serving (Asked α) := do
  match <- perform (.connect host port) with
  | .error cause => return .unconnected cause
  | .ok () =>
      match <- perform (.send bytes) with
      | .error cause => return .unsent cause
      | .ok () => return .answered (<- readMessage .origin reader)

def fetched (request : Request) (host : String) (port : Nat) :
    Asked Response -> Except ServiceError Response
  | .unconnected cause =>
      .error (.origin request.host request.port (.connect host port cause))
  | .unsent cause => .error (.origin request.host request.port (.send cause))
  | .answered (.ok (response, _)) => .ok response
  | .answered (.error .timedOut) => .error (.origin request.host request.port .timedOut)
  | .answered (.error (.message e)) =>
      .error (.origin request.host request.port (.response e))

def opened (parent : Parent) : Asked Response -> Except TunnelFault Held
  | .unconnected cause => .error (.parentConnect parent.host parent.port cause)
  | .unsent cause => .error (.parentSend cause)
  | .answered (.ok (reply, held)) =>
      if reply.status.isSuccess then .ok held else .error (.parentRefused reply.status)
  | .answered (.error .timedOut) => .error .parentTimedOut
  | .answered (.error (.message e)) => .error (.parentReply e)

variable {request : Request} {parent : Parent} {asked : Asked Response}

theorem fetched_eq_ok_iff {host : String} {port : Nat} {response : Response} :
    fetched request host port asked = .ok response ↔
      ∃ held, asked = .answered (.ok (response, held)) := by
  constructor
  · intro h
    unfold fetched at h
    split at h <;> cases h
    exact ⟨_, rfl⟩
  · rintro ⟨held, rfl⟩
    rfl

theorem exists_of_fetched_error {host : String} {port : Nat} {e : ServiceError}
    (h : fetched request host port asked = .error e) :
    ∃ fault, e = .origin request.host request.port fault := by
  unfold fetched at h
  split at h <;> cases h <;> exact ⟨_, rfl⟩

theorem exists_of_opened_ok {held : Held} (h : opened parent asked = .ok held) :
    ∃ reply, asked = .answered (.ok (reply, held)) ∧ reply.status.isSuccess = true := by
  unfold opened at h
  split at h
  · cases h
  · cases h
  · split at h
    · next hsuccess =>
      cases h
      exact ⟨_, rfl, hsuccess⟩
    · cases h
  · cases h
  · cases h

theorem fetch_eq (handler : Handler) (request : Request) :
    fetch handler request = (do
      let asked <- ask (handler.route request).1 (handler.route request).2.1
        ((Forwarding.augment request).render (handler.route request).2.2)
        (Response.read handler.limits request.method)
      return fetched request (handler.route request).1 (handler.route request).2.1 asked) := by
  -- Both take the same actions, so they are compared reply by reply.
  refine congrArg (Program.act _) (funext fun connected => ?_)
  cases connected with
  | error cause => rfl
  | ok =>
      refine congrArg (Program.act _) (funext fun sent => ?_)
      cases sent with
      | error cause => rfl
      | ok =>
          refine congrArg (Program.act _) (funext fun inflow => ?_)
          simp only [Program.bind, pure]
          cases Inflow.read (Response.read handler.limits request.method) inflow with
          | ok found => rfl
          | error fault => cases fault <;> rfl

theorem openThroughParent_eq (handler : Handler) (parent : Parent) (request : Request) :
    openThroughParent handler parent request = (do
      let asked <- ask parent.host parent.port ((tunnelRequest request).render .absolute)
        (Response.readHead handler.limits)
      return opened parent asked) := by
  refine congrArg (Program.act _) (funext fun connected => ?_)
  cases connected with
  | error cause => rfl
  | ok =>
      refine congrArg (Program.act _) (funext fun sent => ?_)
      cases sent with
      | error cause => rfl
      | ok =>
          refine congrArg (Program.act _) (funext fun inflow => ?_)
          simp only [Program.bind, pure]
          cases Inflow.read (Response.readHead handler.limits) inflow with
          | ok found =>
              unfold opened
              dsimp only
              split <;> rfl
          | error fault => cases fault <;> rfl

end Intermediary.Service
