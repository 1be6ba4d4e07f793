import Intermediary.Proofs.Cache.Entries
import Intermediary.Proofs.Cache.Lifetime
import Intermediary.Proofs.Program
import Intermediary.Service.Action

/-!
# The steps of the cache

A lookup, an insertion and a purge are not done at one moment: between their
steps others use the cache.  A lookup looks at an entry, and may come back to
remove it.  An insertion asks for the ceiling twice and for the time, and then
puts its entry in place.  A purge empties one shard after another.

Where nothing comes in between, the steps do what the cache does at once.
-/

namespace Intermediary

/-- The parts into which the entries are divided by their fingerprints. -/
structure Sharding where
  count : Nat
  shard : Fingerprint -> Nat
  shard_lt : ∀ print, shard print < count

/-- One step on the cache, or an action that has no part in it. -/
inductive SharedStep where
  | outside (action : Action)
  /-- Look at the entry of a fingerprint, and at its age. -/
  | peek (print : Fingerprint)
  /-- Remove the entry of a fingerprint if it is too old. -/
  | evict (print : Fingerprint)
  | ceiling
  | clock
  | put (print : Fingerprint) (entry : CacheEntry)
  | empty (shard : Nat)
  | setCeiling (seconds : Nat)

namespace SharedStep

def Reply : SharedStep -> Type
  | .outside action => action.Reply
  | .peek _ => Cache.Found
  | .ceiling => Option Nat
  | .clock => Nat
  | .evict _ | .put _ _ | .empty _ | .setCeiling _ => Unit

def reply (world : (action : Action) -> action.Reply) (cache : Cache) (now : Nat) :
    (step : SharedStep) -> step.Reply
  | .outside action => world action
  | .peek print => cache.peek print now
  | .ceiling => cache.ceiling
  | .clock => now
  | .evict _ | .put _ _ | .empty _ | .setCeiling _ => ()

def leave (sharding : Sharding) (cache : Cache) (now : Nat) : SharedStep -> Cache
  | .evict print => (cache.evict print now).1
  | .put print entry => cache.put print entry
  | .empty shard =>
      { cache with
        entries := cache.entries.filter fun held => sharding.shard held.1 != shard }
  | .setCeiling seconds => cache.setCeiling seconds
  | .outside _ | .peek _ | .ceiling | .clock => cache

theorem find?_empty {sharding : Sharding} {cache : Cache} {now shard : Nat}
    {print : Fingerprint} {entry : CacheEntry}
    (h : ((empty shard).leave sharding cache now).find? print = some entry) :
    sharding.shard print ≠ shard ∧ cache.find? print = some entry := by
  rw [leave, Cache.find?_filter (sharding.shard · != shard)] at h
  split at h
  · next hkeep => exact ⟨by simpa using hkeep, h⟩
  · cases h

end SharedStep

/-- A program of steps on the cache, among other actions. -/
abbrev Sharing (α : Type) : Type := Program SharedStep.Reply α

namespace Sharing

def perform (step : SharedStep) : Sharing step.Reply :=
  Program.perform step

def lookup (print : Fingerprint) : Sharing (Option Response) := do
  match <- perform (.peek print) with
  | .hit response => return some response
  | .missing => return none
  | .expired =>
      perform (.evict print)
      return none

def insert (print : Fingerprint) (response : Response) : Sharing Unit := do
  let ceiling <- perform .ceiling
  match response.lifetime? ceiling with
  | none => return ()
  | some lifetime =>
      let now <- perform .clock
      perform (.put print ⟨response, now, lifetime⟩)

def store (print : Fingerprint) (response : Response) : Sharing Unit := do
  let ceiling <- perform .ceiling
  if (response.lifetime? ceiling).isSome then insert print response

def emptyShards : List Nat -> Sharing Unit
  | [] => return ()
  | shard :: shards => do
      perform (.empty shard)
      emptyShards shards

def clear (sharding : Sharding) : Sharing Unit :=
  emptyShards (List.range sharding.count)

def ofAction : (action : Action) -> Sharing action.Reply
  | .lookup print => lookup print
  | .store print response => store print response
  | action => perform (.outside action)

def ofServing {α : Type} : Serving α -> Sharing α
  | .done result => .done result
  | .act action next => (ofAction action).bind fun reply => ofServing (next reply)

theorem ofServing_bind {α β : Type} (program : Serving α) (next : α -> Serving β) :
    ofServing (program >>= next) =
      (ofServing program).bind fun result => ofServing (next result) := by
  induction program with
  | done result => rfl
  | act action rest ih =>
      calc ofServing (Program.act action rest >>= next)
          = (ofAction action).bind fun reply => ofServing (rest reply >>= next) := rfl
        _ = (ofAction action).bind fun reply =>
              (ofServing (rest reply)).bind fun result => ofServing (next result) := by
            simp only [ih]
        _ = (ofServing (Program.act action rest)).bind
              fun result => ofServing (next result) := (Program.bind_assoc ..).symm

/-! ## Rules for guarded programs -/

section Rules

open Program (Taken Guards guards_bind)

variable {may : List (Taken SharedStep.Reply) -> SharedStep -> Prop}
  {past : List (Taken SharedStep.Reply)} {α β : Type}

theorem guards_then {program : Serving α} {next : α -> Serving β}
    {between : List (Taken SharedStep.Reply) -> α -> Prop}
    {post : List (Taken SharedStep.Reply) -> β -> Prop}
    (h : Guards may between (ofServing program) past)
    (hnext : ∀ past result, between past result ->
      Guards may post (ofServing (next result)) past) :
    Guards may post (ofServing (program >>= next)) past := by
  rw [ofServing_bind]
  exact guards_bind (h.mono hnext)

/-- An action that is one step comes first, and then what follows on its reply. -/
theorem guards_outside {action : Action} {next : action.Reply -> Serving β}
    {post : List (Taken SharedStep.Reply) -> β -> Prop}
    (haction : ofAction action = perform (.outside action))
    (hmay : may past (.outside action))
    (hnext : ∀ reply, Guards may post (ofServing (next reply))
      (past ++ [⟨.outside action, reply⟩])) :
    Guards may post (ofServing (Serving.perform action >>= next)) past := by
  show Guards may post ((ofAction action).bind fun reply => ofServing (next reply)) past
  rw [haction]
  exact ⟨hmay, hnext⟩

/-- A whole purge empties every shard. -/
theorem guards_emptyShards (shards : List Nat) (past : List (Taken SharedStep.Reply)) :
    Guards (fun _ step => ∃ shard, step = .empty shard)
      (fun after _ => ∃ more, after = past ++ more ∧
        ∀ shard ∈ shards, (⟨.empty shard, ()⟩ : Taken SharedStep.Reply) ∈ more)
      (Sharing.emptyShards shards) past := by
  induction shards generalizing past with
  | nil => exact ⟨[], (List.append_nil past).symm, List.forall_mem_nil _⟩
  | cons shard shards ih =>
      refine ⟨⟨shard, rfl⟩, fun _ => (ih _).mono fun after _ hpost => ?_⟩
      obtain ⟨more, rfl, hmore⟩ := hpost
      refine ⟨⟨.empty shard, ()⟩ :: more, List.append_assoc .., ?_⟩
      exact List.forall_mem_cons.2 ⟨List.mem_cons_self, fun other hother =>
        List.mem_cons_of_mem _ (hmore other hother)⟩

end Rules

/-! ## Steps that nothing comes between -/

variable (sharding : Sharding) (world : (action : Action) -> action.Reply)
  (cache : Cache) (now : Nat)

/-- The result of a program whose steps are taken at one moment, and the cache after it. -/
def atOnce {α : Type} : Sharing α -> Cache -> α × Cache
  | .done result, cache => (result, cache)
  | .act step next, cache =>
      atOnce (next (step.reply world cache now)) (step.leave sharding cache now)

theorem atOnce_bind {α β : Type} (program : Sharing α) (next : α -> Sharing β) :
    atOnce sharding world now (program >>= next) cache =
      atOnce sharding world now (next (atOnce sharding world now program cache).1)
        (atOnce sharding world now program cache).2 := by
  induction program generalizing cache with
  | done result => rfl
  | act step rest ih => exact ih _ _

theorem atOnce_lookup (print : Fingerprint) :
    atOnce sharding world now (lookup print) cache =
      ((cache.lookup print now).1, (cache.lookup print now).2.1) := by
  refine (atOnce_bind sharding world cache now (perform (.peek print)) _).trans ?_
  simp only [atOnce, perform, Program.perform, SharedStep.reply, SharedStep.leave]
  unfold Cache.lookup
  cases cache.peek print now <;> rfl

private theorem atOnce_insert (print : Fingerprint) (response : Response) :
    atOnce sharding world now (insert print response) cache =
      ((), (cache.insert print response now).1) := by
  refine (atOnce_bind sharding world cache now (perform .ceiling) _).trans ?_
  simp only [atOnce, perform, Program.perform, SharedStep.reply, SharedStep.leave]
  cases hlifetime : response.lifetime? cache.ceiling with
  | none =>
      rw [← Cache.lifetime?_eq] at hlifetime
      rw [Cache.insert_of_not_lifetime hlifetime]
      rfl
  | some lifetime =>
      rw [← Cache.lifetime?_eq] at hlifetime
      rw [Cache.insert_of_lifetime hlifetime]
      rfl

theorem atOnce_store (print : Fingerprint) (response : Response) :
    atOnce sharding world now (store print response) cache =
      ((), (cache.insert print response now).1) := by
  refine (atOnce_bind sharding world cache now (perform .ceiling) _).trans ?_
  simp only [atOnce, perform, Program.perform, SharedStep.reply, SharedStep.leave]
  split
  · exact atOnce_insert sharding world cache now print response
  · next hnone =>
    rw [Option.not_isSome_iff_eq_none, ← Cache.lifetime?_eq] at hnone
    rw [Cache.insert_of_not_lifetime hnone]
    rfl

private theorem atOnce_emptyShards (shards : List Nat) :
    atOnce sharding world now (emptyShards shards) cache =
      ((), { cache with
        entries := cache.entries.filter fun held => sharding.shard held.1 ∉ shards }) := by
  induction shards generalizing cache with
  | nil =>
      have hall : cache.entries.filter (fun held => sharding.shard held.1 ∉ []) =
          cache.entries := by simp
      rw [hall]
      rfl
  | cons shard shards ih =>
      refine (atOnce_bind sharding world cache now (perform (.empty shard)) _).trans ?_
      refine (ih _).trans ?_
      simp [atOnce, perform, Program.perform, SharedStep.leave, List.filter_filter,
        Bool.and_comm, bne, beq_eq_decide]

theorem atOnce_clear :
    atOnce sharding world now (clear sharding) cache = ((), cache.clear.1) := by
  unfold clear Cache.clear
  rw [atOnce_emptyShards]
  simp [sharding.shard_lt]

end Sharing

end Intermediary
