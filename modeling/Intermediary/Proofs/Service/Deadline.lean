import Intermediary.Proofs.Service.Budget
import Intermediary.Proofs.Service.History
import Intermediary.Proofs.Tunnel.Session

/-!
# The deadlines of a call

A worker is watched while it serves a call.  When it waits for a peer, time passes
until the peer has done its part; where the wait has a time limit, no more than the
limit allows.  Reading from either peer, connecting, writing a response and waiting
for the peers of a tunnel have limits.  Writing to the origin, and everything that
is written to the client of a tunnel, has none: a peer that does not read can hold
the worker there for any length of time.

Reads in a tunnel take what is there, and flushing a connection does nothing, so
that neither is waited for.
-/

namespace Intermediary

open Serving

def Action.isExchange : Action -> Bool
  | .receive _ _ | .connect _ _ | .send _ | .answer _ | .greet _ => true
  | _ => false

inductive TimedCall.Phase where
  /-- It goes on with its program, or waits for a stripe. -/
  | acting (rest : Serving Unit)
  | awaiting (action : Action) (next : action.Reply -> Serving Unit)
  | relaying (relaying : Relaying) (next : Relayed -> Serving Unit)

namespace TimedCall.Phase

/-- The time limit of the present wait for a peer, if it has one, if there is a wait. -/
def wait? : Phase -> Option (Option TimeLimit)
  | .acting _ => none
  | .awaiting action _ => some action.limit?
  | .relaying ⟨tunnel, _, none⟩ _ => if tunnel.isOver then none else some (some .idle)
  | .relaying ⟨_, _, some (_, .writing _ _)⟩ _ => some none
  | .relaying ⟨_, _, some _⟩ _ => none

/-- Bytes are written to the origin, or to the client of a tunnel. -/
def IsWriting : Phase -> Prop
  | .awaiting (.send _) _ | .awaiting (.greet _) _ => True
  | .relaying ⟨_, _, some (_, .writing _ _)⟩ _ => True
  | _ => False

def Within (handler : Handler) (budget : Nat) : Phase -> Prop
  | .acting rest => Serving.Within handler.cost (fun _ => 0) rest budget
  | .awaiting _ next => ∀ reply, Serving.Within handler.cost (fun _ => 0) (next reply) budget
  | .relaying _ next => ∀ relayed, Serving.Within handler.cost (fun _ => 0) (next relayed) budget

end TimedCall.Phase

/-- A worker that serves a call.  Times are milliseconds. -/
structure TimedCall where
  now : Nat
  /-- The moment at which the last wait began. -/
  since : Nat
  phase : TimedCall.Phase
  /-- How many waits for the peers of a tunnel have begun. -/
  waits : Nat
  /-- For how long it has waited without a time limit. -/
  stalled : Nat
  /-- For how long it has not waited for a peer. -/
  busy : Nat

namespace TimedCall

def opened (handler : Handler) (client : String) : TimedCall :=
  ⟨0, 0, .acting (Service.serve handler client), 0, 0, 0⟩

/-- When the present wait for a peer is over, if it has a time limit. -/
def deadline? (handler : Handler) (call : TimedCall) : Option Nat :=
  call.phase.wait?.join.map fun limit => call.since + handler.milliseconds limit

def after (call : TimedCall) (milliseconds : Nat) : TimedCall :=
  { call with
    now := call.now + milliseconds
    stalled := call.stalled + if call.phase.wait? = some none then milliseconds else 0
    busy := call.busy + if call.phase.wait? = none then milliseconds else 0 }

def goOn (call : TimedCall) (rest : Serving Unit) : TimedCall :=
  { call with phase := .acting rest }

def await (call : TimedCall) (action : Action) (next : action.Reply -> Serving Unit) : TimedCall :=
  { call with since := call.now, phase := .awaiting action next }

/-- The worker has come somewhere in a tunnel, perhaps to another wait for its peers. -/
def relay (call : TimedCall) (relaying : Relaying) (next : Relayed -> Serving Unit) : TimedCall :=
  let phase := Phase.relaying relaying next
  { call with
    since := call.now
    phase
    waits := call.waits + if phase.wait? = some (some .idle) then 1 else 0 }

/-- One step of a worker; or time passes, but not beyond a deadline. -/
inductive Step (handler : Handler) (call : TimedCall) : TimedCall -> Prop where
  | pass (milliseconds : Nat)
      (h : ∀ deadline ∈ call.deadline? handler, call.now + milliseconds ≤ deadline) :
      Step handler call (call.after milliseconds)
  | act (o : Occurrence) {next : o.action.Reply -> Serving Unit}
      (h : call.phase = .acting (.act o.action next)) (hpeer : o.action.awaitsPeer = false)
      (ho : o.Possible) : Step handler call (call.goOn (next o.reply))
  | await {action next} (h : call.phase = .acting (.act action next))
      (hpeer : action.isExchange = true) : Step handler call (call.await action next)
  | resume (o : Occurrence) {next : o.action.Reply -> Serving Unit}
      (h : call.phase = .awaiting o.action next) (ho : o.Possible) :
      Step handler call (call.goOn (next o.reply))
  | relay {ahead behind next} (h : call.phase = .acting (.act (.relay ahead behind) next)) :
      Step handler call (call.relay (.fresh handler.tunnel.bufferSize) next)
  | move {relaying relaying' lanes lanes' next} (h : call.phase = .relaying relaying next)
      (hstep : Relaying.Step lanes relaying lanes' relaying') :
      Step handler call (call.relay relaying' next)
  | close {tunnel buffer next} (h : call.phase = .relaying ⟨tunnel, buffer, none⟩ next)
      (hover : tunnel.isOver = true) : Step handler call (call.goOn (next tunnel.relayed))

/-- Steps of a worker lead from one moment to another. -/
inductive Reaches (handler : Handler) (start : TimedCall) : TimedCall -> Prop where
  | here : Reaches handler start start
  | snoc {call next} (h : Reaches handler start call) (hstep : call.Step handler next) :
      Reaches handler start next

/-! ## What is kept -/

/-- How long the present wait may last, if it has a limit. -/
def reserve (handler : Handler) (call : TimedCall) : Nat :=
  (call.phase.wait?.join.map handler.milliseconds).getD 0

/-- How long the present wait has lasted, if it has a limit. -/
def spent (call : TimedCall) : Nat :=
  if call.phase.wait?.join.isSome then call.now - call.since else 0

def allowance (handler : Handler) (call : TimedCall) : Nat :=
  handler.patience + handler.milliseconds .idle * call.waits + call.stalled + call.busy

/-- A call has taken no more time than its waits and its work account for. -/
structure Sound (handler : Handler) (call : TimedCall) : Prop where
  begun : call.since ≤ call.now
  unexpired : call.spent ≤ call.reserve handler
  exchange : ∀ action next, call.phase = .awaiting action next -> action.isExchange = true
  paid : ∃ budget, call.phase.Within handler budget ∧
    call.now + call.reserve handler + budget ≤ call.allowance handler + call.spent

variable {handler : Handler} {call next start : TimedCall}

/-- The present wait has not cost more than was set aside for it. -/
theorem Sound.settled (h : call.Sound handler) :
    ∃ budget, call.phase.Within handler budget ∧
      call.now + budget ≤ call.allowance handler := by
  obtain ⟨budget, hwithin, hpaid⟩ := h.paid
  have hunexpired := h.unexpired
  exact ⟨budget, hwithin, by omega⟩

private theorem cost_of_not_awaits {action : Action} (h : action.awaitsPeer = false) :
    handler.cost action = 0 := by
  cases action <;> first | rfl | cases h

/-- What is set aside for a wait for one peer is what its action costs. -/
private theorem reserve_await {action : Action} (h : action.isExchange = true)
    (rest : action.Reply -> Serving Unit) :
    (call.await action rest).reserve handler = handler.cost action := by
  cases action <;> first | rfl | cases h

private theorem spent_of_now (h : call.since = call.now) : call.spent = 0 := by
  unfold spent
  rw [h, Nat.sub_self, ite_self]

private theorem sound_opened (client : String) : (opened handler client).Sound handler where
  begun := Nat.le_refl _
  unexpired := Nat.le_refl _
  exchange := nofun
  paid := by
    refine ⟨handler.patience, Service.within_serve client, ?_⟩
    exact (Nat.zero_add handler.patience).le.trans (Nat.le_refl _)

private theorem Sound.goOn (h : call.Sound handler) {rest : Serving Unit} {budget : Nat}
    (hwithin : Serving.Within handler.cost (fun _ => 0) rest budget)
    (hpaid : call.now + budget ≤ call.allowance handler) : (call.goOn rest).Sound handler where
  begun := h.begun
  unexpired := Nat.le_refl _
  exchange := nofun
  paid := ⟨budget, hwithin, hpaid⟩

private theorem Sound.await (h : call.Sound handler) {action : Action}
    {rest : action.Reply -> Serving Unit} (hphase : call.phase = .acting (.act action rest))
    (hexchange : action.isExchange = true) : (call.await action rest).Sound handler where
  begun := Nat.le_refl _
  unexpired := (spent_of_now rfl).trans_le (Nat.zero_le _)
  exchange := by
    rintro _ _ ⟨⟩
    exact hexchange
  paid := by
    obtain ⟨budget, hwithin, hpaid⟩ := h.settled
    rw [hphase] at hwithin
    obtain ⟨hcost, hnext⟩ := hwithin
    refine ⟨budget - handler.cost action, hnext, ?_⟩
    rw [reserve_await hexchange, spent_of_now rfl]
    show call.now + _ + _ ≤ call.allowance handler + 0
    omega

private theorem wait?_relaying (relaying : Relaying) (rest : Relayed -> Serving Unit) :
    (Phase.relaying relaying rest).wait? = none ∨
      (Phase.relaying relaying rest).wait? = some none ∨
      (Phase.relaying relaying rest).wait? = some (some .idle) := by
  obtain ⟨tunnel, buffer, current⟩ := relaying
  cases current with
  | none =>
      cases hover : tunnel.isOver with
      | true => exact .inl (if_pos hover)
      | false => exact .inr (.inr (if_neg (Bool.eq_false_iff.1 hover)))
  | some current =>
      obtain ⟨side, work⟩ := current
      cases work with
      | writing size sent => exact .inr (.inl rfl)
      | _ => exact .inl rfl

/-- A wait for the peers of a tunnel adds to the allowance what is set aside for it. -/
theorem sound_relay {relaying : Relaying}
    {rest : Relayed -> Serving Unit} {budget : Nat}
    (hwithin : ∀ relayed, Serving.Within handler.cost (fun _ => 0) (rest relayed) budget)
    (hpaid : call.now + budget ≤ call.allowance handler) :
    (call.relay relaying rest).Sound handler where
  begun := Nat.le_refl _
  unexpired := (spent_of_now rfl).trans_le (Nat.zero_le _)
  exchange := nofun
  paid := by
    refine ⟨budget, hwithin, ?_⟩
    rw [spent_of_now rfl]
    unfold allowance at hpaid ⊢
    unfold reserve TimedCall.relay
    dsimp only
    obtain hwait | hwait | hwait := wait?_relaying relaying rest
    · rw [hwait, if_neg nofun]
      exact hpaid
    · rw [hwait, if_neg nofun]
      exact hpaid
    · rw [hwait, if_pos rfl, Nat.mul_add, Nat.mul_one]
      show call.now + handler.milliseconds .idle + budget ≤ _
      omega

private theorem spent_after (h : call.since ≤ call.now) (milliseconds : Nat) :
    (call.after milliseconds).spent =
      call.spent + if call.phase.wait?.join.isSome then milliseconds else 0 := by
  show (if call.phase.wait?.join.isSome then call.now + milliseconds - call.since else 0) = _
  unfold spent
  split
  · omega
  · rfl

/-- Time that passes is spent in a wait with a limit, or is allowed for. -/
private theorem allowance_after (handler : Handler) (call : TimedCall) (milliseconds : Nat) :
    (call.after milliseconds).allowance handler +
      (if call.phase.wait?.join.isSome then milliseconds else 0) =
        call.allowance handler + milliseconds := by
  show handler.patience + handler.milliseconds .idle * call.waits +
    (call.stalled + if call.phase.wait? = some none then milliseconds else 0) +
    (call.busy + if call.phase.wait? = none then milliseconds else 0) + _ = _
  unfold allowance
  rcases call.phase.wait? with _ | _ | limit <;> simp <;> omega

private theorem Sound.after (h : call.Sound handler) {milliseconds : Nat}
    (hdeadline : ∀ deadline ∈ call.deadline? handler, call.now + milliseconds ≤ deadline) :
    (call.after milliseconds).Sound handler where
  begun := Nat.le_add_right_of_le h.begun
  unexpired := by
    show _ ≤ call.reserve handler
    have hbegun := h.begun
    unfold deadline? at hdeadline
    unfold reserve
    rw [spent_after hbegun]
    unfold spent
    cases hlimit : call.phase.wait?.join with
    | none => exact Nat.le_refl _
    | some limit =>
        rw [hlimit] at hdeadline
        have hlate : call.now + milliseconds ≤ call.since + handler.milliseconds limit :=
          hdeadline _ rfl
        show call.now - call.since + milliseconds ≤ handler.milliseconds limit
        omega
  exchange := h.exchange
  paid := by
    obtain ⟨budget, hwithin, hpaid⟩ := h.paid
    refine ⟨budget, hwithin, ?_⟩
    have hallowed := allowance_after handler call milliseconds
    rw [spent_after h.begun]
    show call.now + milliseconds + call.reserve handler + budget ≤ _
    omega

/-- Every step keeps the account of the time that has passed. -/
theorem Sound.step (h : call.Sound handler) (hstep : call.Step handler next) :
    next.Sound handler := by
  obtain ⟨budget, hwithin, hpaid⟩ := h.settled
  cases hstep with
  | pass milliseconds hdeadline => exact h.after hdeadline
  | act o hphase hpeer ho =>
      rw [hphase] at hwithin
      obtain ⟨-, hnext⟩ := hwithin
      rw [cost_of_not_awaits hpeer, Nat.sub_zero] at hnext
      exact h.goOn (hnext o.reply) hpaid
  | await hphase hexchange => exact h.await hphase hexchange
  | resume o hphase ho =>
      rw [hphase] at hwithin
      exact h.goOn (hwithin o.reply) hpaid
  | relay hphase =>
      rw [hphase] at hwithin
      exact sound_relay hwithin.2 hpaid
  | move hphase hmove =>
      rw [hphase] at hwithin
      exact sound_relay hwithin hpaid
  | close hphase hover =>
      rw [hphase] at hwithin
      exact h.goOn (hwithin _) hpaid

theorem Sound.of_reaches (h : Reaches handler start call) (hstart : start.Sound handler) :
    call.Sound handler := by
  induction h with
  | here => exact hstart
  | snoc _ hstep ih => exact ih.step hstep

/-! ## What holds at every moment -/

/-- What holds of a worker that serves a call. -/
structure Timely (handler : Handler) (call : TimedCall) : Prop where
  /-- A wait with a time limit is not over its deadline. -/
  unexpired : ∀ deadline ∈ call.deadline? handler, call.now ≤ deadline
  /-- The other waits are writes to the origin, or to the client of a tunnel. -/
  unlimited : call.phase.wait? = some none -> call.phase.IsWriting
  /-- All time is within the limits, but for what has passed in those writes, and without
  waiting for a peer. -/
  bounded : call.now ≤ handler.patience + handler.milliseconds .idle * call.waits +
    call.stalled + call.busy

private theorem isWriting_of_unlimited {phase : Phase}
    (hexchange : ∀ action next, phase = .awaiting action next -> action.isExchange = true)
    (h : phase.wait? = some none) : phase.IsWriting := by
  cases phase with
  | acting rest => cases h
  | awaiting action next =>
      have hpeer := hexchange action next rfl
      cases action with
      | send bytes => exact trivial
      | greet bytes => exact trivial
      | receive side enough => cases h
      | connect host port => cases h
      | answer bytes => cases h
      | _ => cases hpeer
  | relaying relaying next =>
      obtain ⟨tunnel, buffer, current⟩ := relaying
      cases current with
      | none =>
          exfalso
          unfold Phase.wait? at h
          dsimp only at h
          split at h <;> cases h
      | some current =>
          obtain ⟨side, work⟩ := current
          cases work <;> first | exact trivial | cases h

private theorem Sound.timely (h : call.Sound handler) : call.Timely handler where
  unexpired deadline hdeadline := by
    have hbegun := h.begun
    have hunexpired := h.unexpired
    obtain ⟨limit, hlimit, rfl⟩ := Option.map_eq_some_iff.1 hdeadline
    unfold spent reserve at hunexpired
    rw [hlimit] at hunexpired
    have hspent : call.now - call.since ≤ handler.milliseconds limit := hunexpired
    omega
  unlimited := isWriting_of_unlimited h.exchange
  bounded := by
    obtain ⟨budget, -, hpaid⟩ := h.settled
    exact Nat.le_of_add_right_le hpaid

/--
Whatever the peers of a call do: a worker that waits for one of them has a deadline
that is not over, or waits in a write to the origin or to the client of a tunnel; and
nothing but such writes holds it for longer than the limits of its waits add up to.
-/
theorem timely_of_reaches {client : String} (h : Reaches handler (opened handler client) call) :
    call.Timely handler :=
  (Sound.of_reaches h (sound_opened client)).timely

/-- A wait with a time limit can end, at its deadline if not before. -/
theorem exists_step_of_limit {limit : TimeLimit}
    (hlimit : call.phase.wait? = some (some limit)) :
    ∃ next, call.Step handler next ∧ next.phase.wait? = none := by
  obtain ⟨now, since, phase, waits, stalled, busy⟩ := call
  cases phase with
  | acting rest => cases hlimit
  | awaiting action next =>
      have hpossible := possible_obliging [] [] action
      exact ⟨_, .resume ((obliging [] []).occurrence action) rfl hpossible, rfl⟩
  | relaying relaying next =>
      obtain ⟨tunnel, buffer, current⟩ := relaying
      cases current with
      | none =>
          have hover : tunnel.isOver = false := by
            refine Bool.eq_false_iff.2 fun hover => ?_
            have hnone : (Phase.relaying ⟨tunnel, buffer, none⟩ next).wait? = none :=
              if_pos hover
            cases hnone.symm.trans hlimit
          have hidle : Relaying.Step (fun _ => .fresh) ⟨tunnel, buffer, none⟩ (fun _ => .fresh)
              ⟨tunnel.step .idle, buffer, none⟩ := .idle hover
          refine ⟨_, .move rfl hidle, ?_⟩
          show (if (tunnel.step .idle).isOver then none else some (some .idle)) = none
          exact if_pos rfl
      | some current =>
          obtain ⟨side, work⟩ := current
          cases work <;> cases hlimit

end TimedCall

/-! ## Held by an origin -/

/-- What is left of a program after some actions in a world, up to its first relay. -/
def Serving.left {α : Type} (world : World) : Nat -> Serving α -> Serving α
  | 0, program => program
  | _ + 1, .done result => .done result
  | _ + 1, .act (.relay ahead behind) next => .act (.relay ahead behind) next
  | count + 1, .act action next => left world count (next (world action).1)

namespace TimedCall

variable {handler : Handler} {start : TimedCall} {now waits stalled busy : Nat}

private theorem Reaches.left {world : World} (hworld : ∀ action, (world.occurrence action).Possible)
    (count : Nat) {program : Serving Unit}
    (h : Reaches handler start ⟨now, now, .acting program, waits, stalled, busy⟩) :
    Reaches handler start
      ⟨now, now, .acting (Serving.left world count program), waits, stalled, busy⟩ := by
  induction count generalizing program with
  | zero => exact h
  | succ count ih =>
      cases program with
      | done result => exact h
      | act action next =>
          have hawait : action.isExchange = true -> Reaches handler start
              ⟨now, now, .acting (next (world action).1), waits, stalled, busy⟩ :=
            fun hexchange => (h.snoc (.await rfl hexchange)).snoc
              (.resume (world.occurrence action) rfl (hworld action))
          have hact : action.awaitsPeer = false -> Reaches handler start
              ⟨now, now, .acting (next (world action).1), waits, stalled, busy⟩ :=
            fun hpeer => h.snoc (.act (world.occurrence action) rfl hpeer (hworld action))
          cases action with
          | relay ahead behind => exact h
          | receive side enough => exact ih (hawait rfl)
          | connect host port => exact ih (hawait rfl)
          | send bytes => exact ih (hawait rfl)
          | answer bytes => exact ih (hawait rfl)
          | greet bytes => exact ih (hawait rfl)
          | _ => exact ih (hact rfl)

/-- A wait without a time limit can last for any time. -/
theorem Reaches.held {call : TimedCall} (h : Reaches handler start call)
    (hwait : call.phase.wait? = some none) (milliseconds : Nat) :
    Reaches handler start (call.after milliseconds) := by
  refine h.snoc (.pass milliseconds ?_)
  unfold deadline?
  rw [hwait]
  exact nofun

def isSending (program : Serving Unit) : Bool :=
  match program with
  | .act (.send _) _ => true
  | _ => false

/-- A client has asked for a page, and the origin does not read the request. -/
theorem exists_sending :
    ∃ bytes next, Reaches (.ofSettings {} .empty)
      (opened (.ofSettings {} .empty) "127.0.0.1")
      ⟨0, 0, .awaiting (.send bytes) next, 0, 0, 0⟩ := by
  have hsending : isSending (Serving.left
      (obliging (Bytes.ofText "GET / HTTP/1.1\r\nHost: [::1]:81\r\n\r\n") []) 5
      (Service.serve (.ofSettings {} .empty) "127.0.0.1")) = true := by
    decide +kernel
  have hreach := Reaches.left (possible_obliging
    (Bytes.ofText "GET / HTTP/1.1\r\nHost: [::1]:81\r\n\r\n") []) 5
    (@Reaches.here (.ofSettings {} .empty) (opened (.ofSettings {} .empty) "127.0.0.1"))
  unfold isSending at hsending
  split at hsending
  · next bytes next hleft =>
    rw [hleft] at hreach
    exact ⟨bytes, next, hreach.snoc (.await rfl rfl)⟩
  · cases hsending

/-- An origin that does not read a request holds the worker for any time. -/
theorem held_by_origin :
    ∃ call : TimedCall,
      Reaches (.ofSettings {} .empty) (opened (.ofSettings {} .empty) "127.0.0.1") call ∧
        call.phase.wait? = some none ∧ call.deadline? (.ofSettings {} .empty) = none ∧
        ∀ milliseconds,
          Reaches (.ofSettings {} .empty) (opened (.ofSettings {} .empty) "127.0.0.1")
            (call.after milliseconds) := by
  obtain ⟨bytes, next, hreach⟩ := exists_sending
  exact ⟨_, hreach, rfl, rfl, fun milliseconds => hreach.held rfl milliseconds⟩

/-- After an hour in which the origin does not read, all of the hour is accounted for. -/
theorem timely_of_held :
    ∃ call : TimedCall,
      Reaches (.ofSettings {} .empty) (opened (.ofSettings {} .empty) "127.0.0.1") call ∧
        call.stalled = 3600000 ∧ call.now = 3600000 ∧
        call.Timely (.ofSettings {} .empty) := by
  obtain ⟨bytes, next, hreach⟩ := exists_sending
  have hheld := hreach.held rfl 3600000
  have hstalled : 0 + (if (some none : Option (Option TimeLimit)) = some none then 3600000
      else 0) = 3600000 := by
    rw [if_pos rfl, Nat.zero_add]
  exact ⟨_, hheld, hstalled, Nat.zero_add _, timely_of_reaches hheld⟩

end TimedCall

end Intermediary
