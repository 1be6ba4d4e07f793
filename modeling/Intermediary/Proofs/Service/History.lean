import Intermediary.Service.Action
import Intermediary.Tunnel

/-!
# Histories of a connection

What happens while a connection is served: the actions that were carried out,
with their replies and the bytes that passed meanwhile.  Replies are arbitrary
wherever they come from outside; a write that fails has written a beginning of
its bytes, and a tunnel passes on what it reads.

A property of all histories of a program is shown along the program, by rules
for its actions and for sequences of programs.
-/

namespace Intermediary

structure Occurrence where
  action : Action
  reply : action.Reply
  /-- What the client was sent meanwhile. -/
  toClient : Bytes
  /-- What the origin has sent meanwhile. -/
  fromOrigin : Bytes

/-- The actions that were carried out, the first first. -/
abbrev History : Type := List Occurrence

namespace Occurrence

def Possible : Occurrence -> Prop
  | ⟨.receive .origin _, inflow, toClient, fromOrigin⟩ =>
      toClient = [] ∧ fromOrigin = Inflow.bytes inflow
  | ⟨.answer bytes, result, toClient, fromOrigin⟩ =>
      fromOrigin = [] ∧ toClient <+: bytes ∧ (result = Except.ok () -> toClient = bytes)
  | ⟨.greet bytes, result, toClient, fromOrigin⟩ =>
      fromOrigin = [] ∧ toClient <+: bytes ∧ (result = Except.ok () -> toClient = bytes)
  | ⟨.relay _ ahead, relayed, toClient, fromOrigin⟩ =>
      ∃ waits, relayed = (Tunnel.fresh.run waits).relayed ∧
        toClient = (Tunnel.fresh.run waits).fromOrigin.bytesGiven ∧
        (Tunnel.fresh.run waits).fromOrigin.bytesTaken <+: ahead ++ fromOrigin
  | ⟨_, _, toClient, fromOrigin⟩ => toClient = [] ∧ fromOrigin = []

def answer? : Occurrence -> Option Bytes
  | ⟨.answer bytes, _, _, _⟩ => some bytes
  | _ => none

/-- Whether the client was connected to an origin, or told that it is. -/
def isTunnel : Occurrence -> Bool
  | ⟨.greet _, _, _, _⟩ | ⟨.relay _ _, _, _, _⟩ => true
  | _ => false

def isConnect : Occurrence -> Bool
  | ⟨.connect _ _, _, _, _⟩ => true
  | _ => false

end Occurrence

namespace History

def toClient (history : History) : Bytes :=
  history.flatMap Occurrence.toClient

def fromOrigin (history : History) : Bytes :=
  history.flatMap Occurrence.fromOrigin

def answers (history : History) : List Bytes :=
  history.filterMap Occurrence.answer?

/-- Whether the client was connected to an origin, or told that it is. -/
def isTunnelled (history : History) : Bool :=
  history.any Occurrence.isTunnel

variable (history later : History) (o : Occurrence)

theorem toClient_append :
    toClient (history ++ later) = history.toClient ++ later.toClient :=
  List.flatMap_append

theorem answers_append : answers (history ++ later) = history.answers ++ later.answers :=
  List.filterMap_append

theorem isTunnelled_append :
    isTunnelled (history ++ later) = (history.isTunnelled || later.isTunnelled) :=
  List.any_append

@[simp] theorem toClient_snoc :
    toClient (history ++ [o]) = history.toClient ++ o.toClient := by
  simp [toClient]

@[simp] theorem fromOrigin_snoc :
    fromOrigin (history ++ [o]) = history.fromOrigin ++ o.fromOrigin := by
  simp [fromOrigin]

@[simp] theorem answers_snoc :
    answers (history ++ [o]) = history.answers ++ o.answer?.toList := by
  cases h : o.answer? <;> simp [answers, h]

@[simp] theorem isTunnelled_snoc :
    isTunnelled (history ++ [o]) = (history.isTunnelled || o.isTunnel) := by
  simp [isTunnelled]

end History

/-! ## Programs and their histories -/

namespace Serving

variable {α β : Type}

/-- Carrying out some of the actions of a program leads to what is left of it. -/
inductive Reaches : Serving α -> History -> Serving α -> Prop where
  | here {program} : Reaches program [] program
  | more {history rest} (o : Occurrence) {next : o.action.Reply -> Serving α}
      (ho : o.Possible) (hnext : Reaches (next o.reply) history rest) :
      Reaches (.act o.action next) (o :: history) rest

/-! ## Programs that were carried out to their end -/

def Ends (program : Serving α) (history : History) (result : α) : Prop :=
  Reaches program history (.done result)

theorem Ends.pure {value result : α} {history : History}
    (h : Ends (Pure.pure value) history result) : history = [] ∧ result = value := by
  cases h
  exact ⟨rfl, rfl⟩

theorem Ends.act {action : Action} {next : action.Reply -> Serving α} {history : History}
    {result : α} (h : Ends (.act action next) history result) :
    ∃ reply toClient fromOrigin rest,
      history = ⟨action, reply, toClient, fromOrigin⟩ :: rest ∧
        Occurrence.Possible ⟨action, reply, toClient, fromOrigin⟩ ∧
        Ends (next reply) rest result := by
  unfold Ends at h
  generalize hprogram : Program.act action next = program at h
  cases h with
  | here => cases hprogram
  | more o ho hnext =>
      obtain ⟨taken, reply, toClient, fromOrigin⟩ := o
      cases hprogram
      exact ⟨reply, toClient, fromOrigin, _, rfl, ho, hnext⟩

/-- An action comes first, and then what follows on its reply. -/
theorem Ends.perform {action : Action} {next : action.Reply -> Serving β}
    {history : History} {result : β}
    (h : Ends (Serving.perform action >>= next) history result) :
    ∃ reply toClient fromOrigin rest,
      history = ⟨action, reply, toClient, fromOrigin⟩ :: rest ∧
        Occurrence.Possible ⟨action, reply, toClient, fromOrigin⟩ ∧
        Ends (next reply) rest result :=
  h.act

/-- The history of one program after another is put together from theirs. -/
theorem Ends.bind {program : Serving α} {next : α -> Serving β} {history : History}
    {result : β} (h : Ends (program >>= next) history result) :
    ∃ first between last, history = first ++ last ∧ Ends program first between ∧
      Ends (next between) last result := by
  induction program generalizing history with
  | done value => exact ⟨[], value, history, rfl, .here, h⟩
  | act action rest ih =>
      obtain ⟨reply, toClient, fromOrigin, later, rfl, hpossible, hlater⟩ := Ends.act h
      obtain ⟨first, between, last, rfl, hfirst, hlast⟩ := ih reply hlater
      exact ⟨⟨action, reply, toClient, fromOrigin⟩ :: first, between, last, rfl,
        .more _ hpossible hfirst, hlast⟩

/-! ## Worlds -/

/-- A reply to every action, with what the client is sent and the origin sends. -/
abbrev World : Type :=
  (action : Action) -> action.Reply × Bytes × Bytes

def World.occurrence (world : World) (action : Action) : Occurrence :=
  ⟨action, (world action).1, (world action).2.1, (world action).2.2⟩

/-- What happens to a program in a world, and its result. -/
def play (world : World) : Serving α -> History × α
  | .done result => ([], result)
  | .act action next =>
      let (history, result) := play world (next (world action).1)
      (world.occurrence action :: history, result)

theorem reaches_play {world : World} (h : ∀ action, (world.occurrence action).Possible)
    (program : Serving α) :
    Reaches program (play world program).1 (.done (play world program).2) := by
  induction program with
  | done result => exact .here
  | act action next ih => exact .more (world.occurrence action) (h action) (ih _)

/-- A world in which nothing fails, with what the two peers say in it. -/
def obliging (client origin : Bytes) : World
  | .receive .client _ => (⟨client, .silent⟩, [], [])
  | .receive .origin _ => (⟨origin, .silent⟩, [], origin)
  | .connect _ _ => (.ok (), [], [])
  | .send _ => (.ok (), [], [])
  | .answer bytes => (.ok (), bytes, [])
  | .greet bytes => (.ok (), bytes, [])
  | .relay _ _ => (Tunnel.fresh.relayed, [], [])
  | .lookup _ => ((none : Option Response), [], [])
  | .lock _ => ((), [], [])
  | .unlock _ => ((), [], [])
  | .store _ _ => ((), [], [])
  | .measure _ => ((), [], [])
  | .log _ => ((), [], [])

theorem possible_obliging (client origin : Bytes) (action : Action) :
    ((obliging client origin).occurrence action).Possible := by
  cases action with
  | receive side enough => cases side <;> exact ⟨rfl, rfl⟩
  | answer bytes => exact ⟨rfl, List.prefix_refl _, fun _ => rfl⟩
  | greet bytes => exact ⟨rfl, List.prefix_refl _, fun _ => rfl⟩
  | relay ahead behind => exact ⟨[], rfl, rfl, List.nil_prefix⟩
  | _ => exact ⟨rfl, rfl⟩

/--
After what has happened before, a program always keeps a property of the
history, and has another one with its result when it is done.
-/
def Always (kept : History -> Prop) (post : History -> α -> Prop) :
    Serving α -> History -> Prop
  | .done result, history => kept history ∧ post history result
  | .act action next, history =>
      kept history ∧ ∀ reply toClient fromOrigin,
        Occurrence.Possible ⟨action, reply, toClient, fromOrigin⟩ ->
          Always kept post (next reply)
            (history ++ [⟨action, reply, toClient, fromOrigin⟩])

theorem Always.now {kept : History -> Prop} {post : History -> α -> Prop}
    {program : Serving α} {history : History}
    (h : Always kept post program history) : kept history := by
  cases program with
  | done result => exact h.1
  | act action next => exact h.1

variable {kept : History -> Prop} {post : History -> α -> Prop}

/-- What a program always keeps holds wherever it has come to. -/
theorem Always.sound {program rest : Serving α} {before history : History}
    (h : Always kept post program before) (hreach : Reaches program history rest) :
    Always kept post rest (before ++ history) := by
  induction hreach generalizing before with
  | here => simpa using h
  | more o ho _ ih =>
      have hnext := h.2 o.reply o.toClient o.fromOrigin ho
      simpa using ih hnext

/-! ## Rules -/

theorem always_pure {result : α} {history : History} (hkept : kept history)
    (hpost : post history result) :
    Always kept post (pure result : Serving α) history :=
  ⟨hkept, hpost⟩

theorem always_perform {action : Action} {post : History -> action.Reply -> Prop}
    {history : History} (hkept : kept history)
    (hpost : ∀ reply toClient fromOrigin,
      Occurrence.Possible ⟨action, reply, toClient, fromOrigin⟩ ->
        kept (history ++ [⟨action, reply, toClient, fromOrigin⟩]) ∧
          post (history ++ [⟨action, reply, toClient, fromOrigin⟩]) reply) :
    Always kept post (perform action) history :=
  ⟨hkept, hpost⟩

theorem always_bind {program : Serving α} {rest : α -> Serving β}
    {post : History -> β -> Prop} {history : History}
    (h : Always kept (fun history result => Always kept post (rest result) history)
      program history) :
    Always kept post (program >>= rest) history := by
  induction program generalizing history with
  | done result => exact h.2
  | act action next ih =>
      exact ⟨h.1, fun reply toClient fromOrigin hpossible =>
        ih reply (h.2 reply toClient fromOrigin hpossible)⟩

theorem Always.mono {program : Serving α} {weaker : History -> α -> Prop}
    {history : History} (h : Always kept post program history)
    (hpost : ∀ history result, kept history -> post history result ->
      weaker history result) :
    Always kept weaker program history := by
  induction program generalizing history with
  | done result => exact ⟨h.1, hpost history result h.1 h.2⟩
  | act action next ih =>
      exact ⟨h.1, fun reply toClient fromOrigin hpossible =>
        ih reply (h.2 reply toClient fromOrigin hpossible)⟩

/-- One program after another, given what holds in between. -/
theorem Always.then {program : Serving α} {rest : α -> Serving β}
    {between : History -> α -> Prop} {post : History -> β -> Prop}
    {history : History} (h : Always kept between program history)
    (hrest : ∀ history result, kept history -> between history result ->
      Always kept post (rest result) history) :
    Always kept post (program >>= rest) history :=
  always_bind (h.mono hrest)

end Serving

end Intermediary
