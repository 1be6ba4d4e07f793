import Intermediary.Proofs.Service.Sections
import Mathlib.Logic.Function.Basic

/-!
# Workers that wait for stripes

The workers, and the stripes that they take.  A worker asks for a
stripe, stands in line for it, and goes on when the stripe is its own.  Any worker
can leave at any moment: what it holds is given back, and its place in a line is
given up.

Apart from the stripes, nothing happens here that cannot happen without them.
-/

namespace Intermediary

open Program (Taken)

namespace Stripe

variable {stripe : Stripe Nat} {who other : Nat}

def withdraw (stripe : Stripe Nat) (who : Nat) : Stripe Nat :=
  if stripe.holder = some who then stripe.release
  else { stripe with waiting := stripe.waiting.erase who }

private theorem succession_acquire :
    (stripe.acquire who).succession = stripe.succession ++ [who] ∨
      (stripe.acquire who).succession = who :: stripe.succession := by
  unfold acquire succession
  cases hholder : stripe.holder with
  | none => exact .inr rfl
  | some holder => exact .inl (by simp)

theorem mem_succession_acquire (h : other ∈ (stripe.acquire who).succession) :
    other = who ∨ other ∈ stripe.succession := by
  rcases @succession_acquire stripe who with heq | heq
  · rw [heq, List.mem_append, List.mem_singleton] at h
    exact h.symm
  · rw [heq, List.mem_cons] at h
    exact h

theorem nodup_acquire (h : stripe.succession.Nodup) (hnew : who ∉ stripe.succession) :
    (stripe.acquire who).succession.Nodup := by
  have hcons : (who :: stripe.succession).Nodup := List.nodup_cons.2 ⟨hnew, h⟩
  rcases @succession_acquire stripe who with heq | heq
  · rw [heq]
    exact (List.perm_append_singleton who stripe.succession).nodup_iff.2 hcons
  · rwa [heq]

theorem holder_acquire (h : stripe.holder = some other) :
    (stripe.acquire who).holder = some other := by
  simp [acquire, h]

theorem succession_release (h : stripe.holder = some who) :
    stripe.succession = who :: stripe.release.succession := by
  unfold release succession
  rw [h]
  cases stripe.waiting <;> rfl

theorem succession_withdraw :
    (stripe.withdraw who).succession = stripe.succession.erase who := by
  unfold withdraw
  split
  · next hholder => rw [succession_release hholder, List.erase_cons_head]
  · next hholder =>
    have hnone : who ∉ stripe.holder.toList := by simpa [Option.mem_toList] using hholder
    exact (List.erase_append_right stripe.waiting hnone).symm

theorem holder_withdraw (h : stripe.holder = some other) (hne : other ≠ who) :
    (stripe.withdraw who).holder = some other := by
  unfold withdraw
  rw [if_neg]
  · exact h
  · rw [h, Option.some.injEq]
    exact hne

end Stripe

namespace CacheWorkers

/-- A state of the workers, with the stripes. -/
structure Scene where
  shared : State
  stripes : Nat -> Stripe Nat
  /-- The stripes that each worker holds. -/
  held : Nat -> List Nat
  /-- The workers that have left. -/
  gone : List Nat

namespace Scene

def ask (scene : Scene) (worker stripe : Nat) : Scene :=
  { scene with
    stripes :=
      Function.update scene.stripes stripe ((scene.stripes stripe).acquire worker) }

/-- The stripes after a step, of which one may be given back. -/
def freed (scene : Scene) (step : SharedStep) : Nat -> Stripe Nat :=
  match step.unlock? with
  | some stripe => Function.update scene.stripes stripe (scene.stripes stripe).release
  | none => scene.stripes

theorem freed_of_ne {scene : Scene} {step : SharedStep} {stripe : Nat}
    (h : step.unlock? ≠ some stripe) :
    scene.freed step stripe = scene.stripes stripe := by
  cases hunlock : step.unlock? with
  | none => simp only [freed, hunlock]
  | some given =>
      have hne : stripe ≠ given := by
        rintro rfl
        exact h hunlock
      simp only [freed, hunlock]
      exact Function.update_of_ne hne _ _

def take (scene : Scene) (sharding : Sharding) (worker : Nat) (step : SharedStep)
    (next : step.Reply -> Sharing Unit) (reply : step.Reply) : Scene where
  shared :=
    { cache := step.leave sharding scene.shared.cache scene.shared.now
      now := scene.shared.now
      programs := scene.shared.programs.set worker (next reply) }
  stripes := scene.freed step
  held := Function.update scene.held worker (step.heldAfter (scene.held worker))
  gone := scene.gone

/-- A worker leaves, and lets go of all that it holds or waits for. -/
def leave (scene : Scene) (worker : Nat) : Scene where
  shared := scene.shared
  stripes stripe :=
    if stripe ∈ scene.held worker then (scene.stripes stripe).release
    else (scene.stripes stripe).withdraw worker
  held := Function.update scene.held worker []
  gone := worker :: scene.gone

def Faces (scene : Scene) (worker : Nat) (step : SharedStep) : Prop :=
  worker ∉ scene.gone ∧ ∃ next, scene.shared.programs[worker]? = some (.act step next)

end Scene

variable (workers : CacheWorkers)

/-- All workers before their first step, and all stripes free. -/
def scene : Scene :=
  ⟨workers.opened, fun _ => .free, fun _ => [], []⟩

/-- The steps of workers that take stripes lead to a state. -/
inductive Proceeds : List SharedEvent -> Scene -> Prop where
  | opened : Proceeds [] workers.scene
  | wait {history scene} (h : Proceeds history scene) (time : Nat) :
      Proceeds history
        { scene with shared := { scene.shared with now := scene.shared.now + time } }
  | ask {history scene worker stripe} (h : Proceeds history scene)
      (hfaces : scene.Faces worker (.outside (.lock stripe)))
      (hnew : worker ∉ (scene.stripes stripe).succession) :
      Proceeds history (scene.ask worker stripe)
  | take {history scene worker step next} (h : Proceeds history scene)
      (hstep : scene.shared.programs[worker]? = some (.act step next))
      (hhere : worker ∉ scene.gone)
      (hgranted : ∀ stripe ∈ step.lock?, (scene.stripes stripe).holder = some worker)
      (world : (action : Action) -> action.Reply) :
      Proceeds
        (history ++ [⟨worker, ⟨step, step.reply world scene.shared.cache scene.shared.now⟩,
          scene.shared.now⟩])
        (scene.take workers.sharding worker step next
          (step.reply world scene.shared.cache scene.shared.now))
  | leave {history scene worker} (h : Proceeds history scene) (hhere : worker ∉ scene.gone) :
      Proceeds history (scene.leave worker)

/-- With stripes, the workers do nothing that they cannot do without. -/
theorem Proceeds.reaches {workers : CacheWorkers} {history : List SharedEvent} {scene : Scene}
    (h : workers.Proceeds history scene) : workers.Reaches history scene.shared := by
  induction h with
  | opened => exact .opened
  | wait _ time ih => exact ih.wait time
  | ask _ _ _ ih => exact ih
  | take _ hstep _ _ world ih => exact ih.take hstep world
  | leave _ _ ih => exact ih

/-! ## Playing a schedule -/

/-- What happens next, and by whom. -/
inductive Move where
  | wait (time : Nat)
  | ask (worker : Nat)
  | take (worker : Nat)
  | leave (worker : Nat)

def move (world : (action : Action) -> action.Reply) (before : List SharedEvent × Scene) :
    Move -> List SharedEvent × Scene
  | .wait time =>
      (before.1,
        { before.2 with
          shared := { before.2.shared with now := before.2.shared.now + time } })
  | .ask worker =>
      match before.2.shared.programs[worker]? with
      | some (.act (.outside (.lock stripe)) _) =>
          if worker ∉ before.2.gone ∧ worker ∉ (before.2.stripes stripe).succession then
            (before.1, before.2.ask worker stripe)
          else before
      | _ => before
  | .take worker =>
      match before.2.shared.programs[worker]? with
      | some (.act step next) =>
          if worker ∉ before.2.gone ∧
              ∀ stripe ∈ step.lock?, (before.2.stripes stripe).holder = some worker then
            let reply := step.reply world before.2.shared.cache before.2.shared.now
            (before.1 ++ [⟨worker, ⟨step, reply⟩, before.2.shared.now⟩],
              before.2.take workers.sharding worker step next reply)
          else before
      | _ => before
  | .leave worker =>
      if worker ∉ before.2.gone then (before.1, before.2.leave worker) else before

/-- What comes of moves in which all that is asked of the world outside is given. -/
def perform (world : (action : Action) -> action.Reply) (moves : List Move) :
    List SharedEvent × Scene :=
  moves.foldl (workers.move world) ([], workers.scene)

private theorem proceeds_move {world : (action : Action) -> action.Reply}
    {before : List SharedEvent × Scene} (h : workers.Proceeds before.1 before.2) (move : Move) :
    workers.Proceeds (workers.move world before move).1 (workers.move world before move).2 := by
  cases move with
  | wait time => exact h.wait time
  | ask worker =>
      simp only [CacheWorkers.move]
      split
      · next hstep =>
        split
        · next hfree => exact h.ask ⟨hfree.1, _, hstep⟩ hfree.2
        · exact h
      · exact h
  | take worker =>
      simp only [CacheWorkers.move]
      split
      · next hstep =>
        split
        · next hgranted => exact h.take hstep hgranted.1 hgranted.2 world
        · exact h
      · exact h
  | leave worker =>
      simp only [CacheWorkers.move]
      split
      · next hhere => exact h.leave hhere
      · exact h

theorem proceeds_perform (world : (action : Action) -> action.Reply) (moves : List Move) :
    workers.Proceeds (workers.perform world moves).1 (workers.perform world moves).2 := by
  have hmoves : ∀ before, workers.Proceeds before.1 before.2 ->
      workers.Proceeds (moves.foldl (workers.move world) before).1
        (moves.foldl (workers.move world) before).2 := by
    induction moves with
    | nil => exact fun _ h => h
    | cons move moves ih => exact fun before h => ih _ (workers.proceeds_move h move)
  exact hmoves _ .opened

end CacheWorkers

end Intermediary
