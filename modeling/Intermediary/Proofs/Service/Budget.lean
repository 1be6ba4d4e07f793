import Intermediary.Proofs.Service.Asking
import Intermediary.Proofs.Service.Conduct

/-!
# What the time limits of a call add up to

A program that serves a connection waits for its peers one wait after the other.
The limits of its waits add up to no more than a budget; of the waits of a tunnel,
of which there can be any number, no account is kept here.
-/

namespace Intermediary

open Serving

namespace Handler

/-- For how many milliseconds a wait with a time limit can last. -/
def milliseconds (handler : Handler) (limit : TimeLimit) : Nat :=
  1000 * handler.seconds limit

/-- How long an action can wait before its time limit is over, if it has one. -/
def cost (handler : Handler) (action : Action) : Nat :=
  match action.limit? with
  | some .idle | none => 0
  | some limit => handler.milliseconds limit

/-- For how long a call can wait within its time limits after its request was read,
without the waits of a tunnel. -/
def remaining (handler : Handler) : Nat :=
  handler.milliseconds .connect + (handler.milliseconds .read + handler.milliseconds .write)

/-- For how long a call can wait within its time limits, without the waits of a tunnel. -/
def patience (handler : Handler) : Nat :=
  handler.milliseconds .read + handler.remaining

def owed (handler : Handler) (error : ServiceError) : Nat :=
  if error.isFatal then 0 else handler.milliseconds .write

private theorem write_le_remaining (handler : Handler) :
    handler.milliseconds .write ≤ handler.remaining :=
  Nat.le_add_left_of_le (Nat.le_add_left _ _)

theorem owed_le_write (handler : Handler) (error : ServiceError) :
    handler.owed error ≤ handler.milliseconds .write := by
  unfold owed
  split
  · exact Nat.zero_le _
  · exact Nat.le_refl _

private theorem owed_le_remaining (handler : Handler) (error : ServiceError) :
    handler.owed error ≤ handler.remaining :=
  Nat.le_trans (handler.owed_le_write error) handler.write_le_remaining

end Handler

namespace Serving

variable {α β : Type}

/-- The waits of a program cost no more than a budget, and leave what its result needs. -/
def Within (cost : Action -> Nat) (need : α -> Nat) : Serving α -> Nat -> Prop
  | .done result, budget => need result ≤ budget
  | .act action next, budget =>
      cost action ≤ budget ∧ ∀ reply, Within cost need (next reply) (budget - cost action)

variable {cost : Action -> Nat} {need : α -> Nat} {need' : β -> Nat} {budget more : Nat}

theorem within_pure {result : α} (h : need result ≤ budget) :
    Within cost need (Pure.pure result) budget :=
  h

theorem Within.mono {program : Serving α} (h : Within cost need program budget)
    (hle : budget ≤ more) : Within cost need program more := by
  induction program generalizing budget more with
  | done result => exact Nat.le_trans h hle
  | act action next ih =>
      have hleft := Nat.sub_le_sub_right hle (cost action)
      exact ⟨Nat.le_trans h.1 hle, fun reply => ih reply (h.2 reply) hleft⟩

/-- One program after another, which is left what the result of the first one needs. -/
theorem Within.bind {program : Serving α} {rest : α -> Serving β}
    (h : Within cost need program budget)
    (hrest : ∀ result, Within cost need' (rest result) (need result)) :
    Within cost need' (program >>= rest) budget := by
  induction program generalizing budget with
  | done result => exact (hrest result).mono h
  | act action next ih => exact ⟨h.1, fun reply => ih reply (h.2 reply)⟩

/-- An action, and then what follows on its reply. -/
theorem within_perform {action : Action} {next : action.Reply -> Serving β}
    (h : ∀ reply, Within cost need' (next reply) budget) :
    Within cost need' (perform action >>= next) (cost action + budget) := by
  refine ⟨Nat.le_add_right _ _, fun reply => ?_⟩
  rw [Nat.add_sub_cancel_left]
  exact h reply

/-- An action that takes the whole budget, and then what follows on its reply. -/
theorem within_paid {action : Action} {next : action.Reply -> Serving β}
    (h : ∀ reply, Within cost need' (next reply) 0) :
    Within cost need' (perform action >>= next) (cost action) :=
  within_perform h

/-- The last action of a program, which costs nothing. -/
theorem within_last {action : Action} {need : action.Reply -> Nat}
    (hfree : cost action = 0) (h : ∀ reply, need reply ≤ budget) :
    Within cost need (perform action) budget := by
  refine ⟨hfree ▸ Nat.zero_le budget, fun reply => ?_⟩
  rw [hfree, Nat.sub_zero]
  exact h reply

/-- An action that costs nothing, and then what follows on its reply. -/
theorem within_free {action : Action} {next : action.Reply -> Serving β}
    (hfree : cost action = 0) (h : ∀ reply, Within cost need' (next reply) budget) :
    Within cost need' (perform action >>= next) budget := by
  have hperform : Within cost need' (perform action >>= next) (cost action + budget) :=
    within_perform h
  rwa [hfree, Nat.zero_add] at hperform

end Serving

namespace Service

variable {handler : Handler} {request : Request} {budget : Nat}

/-! ## Asking -/

private theorem within_readMessage {α : Type} {side : Side}
    {reader : Bytes -> Except MessageError (α × Bytes)} :
    Within handler.cost (fun _ => budget) (readMessage side reader)
      (handler.milliseconds .read + budget) :=
  within_perform fun _ => within_pure (Nat.le_refl _)

private theorem within_ask {α : Type} {host : String} {port : Nat} {bytes : Bytes}
    {reader : Bytes -> Except MessageError (α × Bytes)} :
    Within handler.cost (fun _ => budget) (ask host port bytes reader)
      (handler.milliseconds .connect + (handler.milliseconds .read + budget)) := by
  refine within_perform fun connected => ?_
  cases connected with
  | error cause => exact within_pure (Nat.le_add_left _ _)
  | ok =>
      refine within_free rfl fun sent => ?_
      cases sent with
      | error cause => exact within_pure (Nat.le_add_left _ _)
      | ok => exact within_readMessage.bind fun _ => within_pure (Nat.le_refl _)

private theorem within_fetch :
    Within handler.cost (fun _ => budget) (fetch handler request)
      (handler.milliseconds .connect + (handler.milliseconds .read + budget)) := by
  rw [fetch_eq]
  exact within_ask.bind fun _ => within_pure (Nat.le_refl _)

private theorem within_openTunnel :
    Within handler.cost (fun _ => budget) (openTunnel handler request)
      (handler.milliseconds .connect + (handler.milliseconds .read + budget)) := by
  unfold openTunnel
  split
  · rw [openThroughParent_eq]
    exact within_ask.bind fun _ => within_pure (Nat.le_refl _)
  · refine within_perform fun connected => ?_
    cases connected <;> exact within_pure (Nat.le_add_left _ _)

/-! ## Answering -/

/-- What is needed to close the account of a request that was passed on. -/
def owedFor (handler : Handler) : Except ServiceError (Status × CacheUse) -> Nat
  | .ok _ => 0
  | .error e => handler.owed e

private theorem within_respond {response : Response} :
    Within handler.cost
      (fun answered => match answered with
        | .ok _ => 0
        | .error e => handler.owed e)
      (respond response) (handler.milliseconds .write) := by
  refine within_paid fun answered => ?_
  cases answered <;> exact within_pure (Nat.le_refl _)

/-- A response that could not be written is not followed by another. -/
theorem within_respondWith {response : Response} {use : CacheUse} :
    Within handler.cost (owedFor handler) (respondWith response use)
      (handler.milliseconds .write) := by
  refine within_respond.bind fun answered => ?_
  cases answered <;> exact within_pure (Nat.le_refl _)

private theorem within_forwardPast :
    Within handler.cost (owedFor handler) (forwardPast handler request)
      handler.remaining := by
  refine within_fetch.bind fun fetched => ?_
  cases fetched with
  | error e => exact within_pure (handler.owed_le_write e)
  | ok response => exact within_respondWith

private theorem within_forwardMiss {stripe : Nat} :
    Within handler.cost (owedFor handler) (forwardMiss handler request stripe)
      handler.remaining := by
  refine within_fetch.bind fun fetched => ?_
  cases fetched with
  | error e => exact within_pure (handler.owed_le_write e)
  | ok response =>
      refine within_free rfl fun _ => within_free rfl fun _ => within_free rfl fun _ => ?_
      exact within_respondWith

private theorem within_forward :
    Within handler.cost (owedFor handler) (forward handler request)
      handler.remaining := by
  unfold forward
  split
  · refine within_free rfl fun _ => within_free rfl fun found => ?_
    cases found with
    | some response =>
        refine (within_respondWith.bind fun result => ?_).mono handler.write_le_remaining
        exact within_free rfl fun _ => within_pure (Nat.le_refl _)
    | none => exact within_free rfl fun _ => within_forwardMiss
  · exact within_forwardPast

/-! ## Closing the account -/

theorem within_refuse {method : String} {error : ServiceError} :
    Within handler.cost (fun _ => 0) (refuse method error) (handler.owed error) := by
  unfold Handler.owed
  split
  · next hfatal =>
    rw [refuse_of_fatal hfatal]
    exact within_last rfl fun _ => Nat.le_refl _
  · next hfatal =>
    rw [refuse_of_not_fatal hfatal]
    refine within_free rfl fun _ => within_respond.bind fun _ => ?_
    exact within_last rfl fun _ => Nat.zero_le _

private theorem within_finish {method : String}
    (result : Except ServiceError (Status × CacheUse)) :
    Within handler.cost (fun _ => 0) (finish method result) (owedFor handler result) := by
  cases result with
  | error e => exact within_refuse
  | ok answered =>
      exact within_free rfl fun _ => within_last rfl fun _ => Nat.le_refl _

/-! ## Tunnels -/

/-- What is passed on before a tunnel begins is written without a time limit. -/
theorem within_passOn {write : Bytes -> Action}
    {reply : {bytes : Bytes} -> (write bytes).Reply -> Except TransportError Unit}
    {bytes : Bytes} (hfree : handler.cost (write bytes) = 0) :
    Within handler.cost (fun _ => 0) (passOn write reply bytes) 0 := by
  unfold passOn
  split
  · exact within_pure (Nat.le_refl _)
  · exact within_free hfree fun _ => within_pure (Nat.le_refl _)

private theorem within_handshake {fromClient fromOrigin : Bytes} :
    Within handler.cost (fun _ => 0) (handshake fromClient fromOrigin) 0 := by
  refine within_free rfl fun greeted => ?_
  cases greeted with
  | error cause => exact within_pure (Nat.le_refl _)
  | ok =>
      refine (within_passOn rfl).bind fun told => ?_
      cases told with
      | error cause => exact within_pure (Nat.le_refl _)
      | ok => exact within_passOn rfl

private theorem within_bridge {fromClient fromOrigin : Held} :
    Within handler.cost (fun _ => 0) (bridge fromClient fromOrigin) 0 := by
  refine within_handshake.bind fun shaken => ?_
  cases shaken with
  | error cause =>
      exact within_free rfl fun _ => within_last rfl fun _ => Nat.le_refl _
  | ok =>
      refine within_free rfl fun _ => within_free rfl fun _ => within_free rfl fun _ => ?_
      exact within_last rfl fun _ => Nat.le_refl _

/-! ## The whole call -/

private theorem within_serveKind {held : Held} (kind : RequestKind) :
    Within handler.cost (fun _ => 0) (serveKind handler request held kind)
      handler.remaining := by
  cases kind with
  | forward => exact within_forward.bind within_finish
  | tunnel =>
      refine within_openTunnel.bind fun opened => ?_
      cases opened with
      | ok fromOrigin => exact within_bridge.mono (Nat.zero_le _)
      | error fault => exact within_refuse

private theorem within_dispatch {held : Held} :
    Within handler.cost (fun _ => 0) (dispatch handler request held)
      handler.remaining := by
  have hrefuse : ∀ method error, Within handler.cost (fun _ => 0) (refuse method error)
      handler.remaining := fun method error =>
    within_refuse.mono (handler.owed_le_remaining error)
  unfold dispatch
  dsimp only
  split
  · exact within_free rfl fun _ => hrefuse _ _
  · split
    · exact hrefuse _ _
    · split
      · exact hrefuse _ _
      · exact within_serveKind _

private theorem within_readRequest {client : String} :
    Within handler.cost (fun _ => budget) (readRequest handler client)
      (handler.milliseconds .read + budget) := by
  refine within_readMessage.bind fun result => ?_
  cases result with
  | ok found => exact within_pure (Nat.le_refl _)
  | error fault => cases fault <;> exact within_pure (Nat.le_refl _)

/-- The waits of every call are within its patience. -/
theorem within_serve (client : String) :
    Within handler.cost (fun _ => 0) (serve handler client) handler.patience := by
  refine within_readRequest.bind fun result => ?_
  cases result with
  | error e => exact within_refuse.mono (handler.owed_le_remaining e)
  | ok found => exact within_dispatch

end Service

end Intermediary
