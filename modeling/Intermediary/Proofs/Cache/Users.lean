import Intermediary.Proofs.Cache.Steps

/-!
# Programs that share a cache

Any number of workers use one cache while time passes.  Each takes the steps of
its own program in their order; between two of them the others take theirs.

What is left of a program follows from the steps of its own worker, and what
the cache holds from the steps of all.
-/

namespace Intermediary

open Program (Taken)

structure SharedEvent where
  worker : Nat
  taken : Taken SharedStep.Reply
  time : Nat

def takenBy (worker : Nat) (history : List SharedEvent) : List (Taken SharedStep.Reply) :=
  (history.filter (·.worker == worker)).map (·.taken)

theorem takenBy_append (worker : Nat) (history later : List SharedEvent) :
    takenBy worker (history ++ later) = takenBy worker history ++ takenBy worker later := by
  simp [takenBy]

theorem takenBy_snoc (worker : Nat) (history : List SharedEvent) (event : SharedEvent) :
    takenBy worker (history ++ [event]) =
      takenBy worker history ++ if event.worker = worker then [event.taken] else [] := by
  by_cases h : event.worker = worker <;> simp [takenBy, h]

theorem exists_of_takenBy_eq {worker : Nat} {history : List SharedEvent}
    {before after : List (Taken SharedStep.Reply)} {taken : Taken SharedStep.Reply}
    (h : takenBy worker history = before ++ taken :: after) :
    ∃ began event during, history = began ++ event :: during ∧ event.worker = worker ∧
      event.taken = taken ∧ takenBy worker began = before ∧
      takenBy worker during = after := by
  obtain ⟨first, second, hfilter, hfirst, hsecond⟩ := List.map_eq_append_iff.1 h
  obtain ⟨event, third, rfl, hevent, hthird⟩ := List.map_eq_cons_iff.1 hsecond
  obtain ⟨left, right, rfl, hleft, hright⟩ := List.filter_eq_append_iff.1 hfilter
  obtain ⟨passed, during, rfl, hpassed, hworker, hduring⟩ := List.filter_eq_cons_iff.1 hright
  have hbegan : takenBy worker (left ++ passed) = before := by
    have hnone : passed.filter (·.worker == worker) = [] := List.filter_eq_nil_iff.2 hpassed
    rw [takenBy, List.filter_append, hleft, hnone, List.append_nil, hfirst]
  have hafter : takenBy worker during = after := by
    rw [takenBy, hduring, hthird]
  exact ⟨left ++ passed, event, during, (List.append_assoc ..).symm,
    eq_of_beq hworker, hevent, hbegan, hafter⟩

/-- Programs that share a cache, as they begin. -/
structure CacheUsers (α : Type) where
  sharding : Sharding
  programs : List (Sharing α)
  ceiling : Option Nat

namespace CacheUsers

/-- The cache, the time, and what is left of each program. -/
structure State (α : Type) where
  cache : Cache
  now : Nat
  programs : List (Sharing α)

variable {α : Type} (users : CacheUsers α)

/-- The empty cache, and all programs before their first step. -/
def opened : State α :=
  ⟨⟨[], users.ceiling⟩, 0, users.programs⟩

/-- The steps of the workers lead to a state. -/
inductive Reaches : List SharedEvent -> State α -> Prop where
  | opened : Reaches [] users.opened
  | wait {history state} (h : Reaches history state) (time : Nat) :
      Reaches history { state with now := state.now + time }
  | take {history state worker step next} (h : Reaches history state)
      (hstep : state.programs[worker]? = some (.act step next))
      (world : (action : Action) -> action.Reply) :
      Reaches
        (history ++ [⟨worker, ⟨step, step.reply world state.cache state.now⟩, state.now⟩])
        { cache := step.leave users.sharding state.cache state.now
          now := state.now
          programs :=
            state.programs.set worker (next (step.reply world state.cache state.now)) }

def cacheAfter (history : List SharedEvent) : Cache :=
  history.foldl
    (fun cache event => event.taken.action.leave users.sharding cache event.time)
    ⟨[], users.ceiling⟩

theorem cacheAfter_snoc (history : List SharedEvent) (event : SharedEvent) :
    users.cacheAfter (history ++ [event]) =
      event.taken.action.leave users.sharding (users.cacheAfter history) event.time := by
  simp [cacheAfter]

namespace Reaches

variable {users} {history before after : List SharedEvent} {state : State α}
  {event : SharedEvent}

theorem cache_eq (h : users.Reaches history state) :
    state.cache = users.cacheAfter history := by
  induction h with
  | opened => rfl
  | wait _ _ ih => exact ih
  | take _ _ _ ih =>
      rw [cacheAfter_snoc, ← ih]

private theorem length_programs (h : users.Reaches history state) :
    state.programs.length = users.programs.length := by
  induction h with
  | opened => rfl
  | wait _ _ ih => exact ih
  | take _ _ _ ih => simpa using ih

/-- What is left of a program is what its own steps lead to. -/
theorem runs (h : users.Reaches history state) {worker : Nat} {program : Sharing α}
    (hprogram : users.programs[worker]? = some program) :
    ∃ rest, state.programs[worker]? = some rest ∧
      program.Runs (takenBy worker history) rest := by
  induction h with
  | opened => exact ⟨_, hprogram, .none⟩
  | wait _ _ ih => exact ih
  | @take history state other step next h hstep world ih =>
      obtain ⟨rest, hrest, hruns⟩ := ih
      rw [takenBy_snoc]
      by_cases hother : other = worker
      · subst hother
        cases hstep.symm.trans hrest
        have hlt := (List.getElem?_eq_some_iff.1 hstep).1
        refine ⟨_, List.getElem?_set_self hlt, ?_⟩
        rw [if_pos rfl]
        exact hruns.snoc _
      · refine ⟨rest, ?_, ?_⟩
        · dsimp only
          rw [List.getElem?_set_ne hother, hrest]
        · simpa [hother] using hruns

/-- What is left belongs to a program, and is what its own steps lead to. -/
theorem exists_runs (h : users.Reaches history state) {worker : Nat} {rest : Sharing α}
    (hrest : state.programs[worker]? = some rest) :
    ∃ program, users.programs[worker]? = some program ∧
      program.Runs (takenBy worker history) rest := by
  have hlt := h.length_programs ▸ (List.getElem?_eq_some_iff.1 hrest).1
  have hprogram := List.getElem?_eq_getElem hlt
  obtain ⟨_, hsame, hruns⟩ := h.runs hprogram
  cases hrest.symm.trans hsame
  exact ⟨_, hprogram, hruns⟩

/-- Each step was taken in a state that was reached. -/
theorem at_split (h : users.Reaches (before ++ event :: after) state) :
    ∃ middle next world, users.Reaches before middle ∧
      middle.programs[event.worker]? = some (.act event.taken.action next) ∧
      event.taken.reply = event.taken.action.reply world middle.cache middle.now ∧
      event.time = middle.now ∧ event.time ≤ state.now := by
  generalize hhistory : before ++ event :: after = history at h
  induction h generalizing after with
  | opened => simp at hhistory
  | wait _ time ih =>
      obtain ⟨middle, next, world, hreach, hstep, hreply, htime, hle⟩ := ih hhistory
      exact ⟨middle, next, world, hreach, hstep, hreply, htime, Nat.le_add_right_of_le hle⟩
  | take h hstep world ih =>
      obtain ⟨_, rfl, rfl⟩ | ⟨init, _, hinit⟩ := snoc_eq_append_cons hhistory.symm
      · exact ⟨_, _, world, h, hstep, rfl, rfl, Nat.le_refl _⟩
      · exact ih hinit.symm

end Reaches

/-! ## Playing turns -/

/-- Time passes, and then a worker takes its next step. -/
structure Turn where
  wait : Nat
  worker : Nat

/-- What happens in a turn, if the worker has a step left. -/
def turn (world : (action : Action) -> action.Reply) (before : List SharedEvent × State α)
    (turn : Turn) : List SharedEvent × State α :=
  let now := before.2.now + turn.wait
  match before.2.programs[turn.worker]? with
  | some (.act step next) =>
      let reply := step.reply world before.2.cache now
      (before.1 ++ [⟨turn.worker, ⟨step, reply⟩, now⟩],
        { cache := step.leave users.sharding before.2.cache now
          now
          programs := before.2.programs.set turn.worker (next reply) })
  | _ => before

def play (world : (action : Action) -> action.Reply) (turns : List Turn) :
    List SharedEvent × State α :=
  turns.foldl (users.turn world) ([], users.opened)

theorem reaches_play (world : (action : Action) -> action.Reply) (turns : List Turn) :
    users.Reaches (users.play world turns).1 (users.play world turns).2 := by
  have hturns : ∀ before, users.Reaches before.1 before.2 ->
      users.Reaches (turns.foldl (users.turn world) before).1
        (turns.foldl (users.turn world) before).2 := by
    induction turns with
    | nil => exact fun _ h => h
    | cons turn turns ih =>
        refine fun before h => ih _ ?_
        unfold CacheUsers.turn
        split
        · next hstep => exact (h.wait turn.wait).take hstep world
        · exact h
  exact hturns _ .opened

end CacheUsers

end Intermediary
