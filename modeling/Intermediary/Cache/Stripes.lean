import Intermediary.Request

/-!
# Stripes

A fixed number of locks that requests share: equal fingerprints always take
the same one.  A lock is granted in the order in which it was asked for.
-/

namespace Intermediary

def Fingerprint.hash (print : Fingerprint) : Nat :=
  (Bytes.ofText print.text).foldl
    (fun h b => (h * 1099511628211 + b.toNat + 1) % Text.wordBound) 14695981039

structure Stripes where
  count : Nat
  count_pos : 0 < count := by omega

namespace Stripes

/-- The number of locks where none is configured: a prime. -/
def defaultCount : Nat := 997

/-- A table of at least one lock. -/
def ofCount (count : Nat) : Stripes :=
  ⟨max count 1, by omega⟩

def index (stripes : Stripes) (print : Fingerprint) : Nat :=
  print.hash % stripes.count

theorem index_lt (stripes : Stripes) (print : Fingerprint) :
    stripes.index print < stripes.count :=
  Nat.mod_lt _ stripes.count_pos

end Stripes

/-- One lock: who holds it, and who waits for it, the first first. -/
structure Stripe (α : Type) where
  holder : Option α
  waiting : List α
  deriving DecidableEq, Repr

namespace Stripe

/-- The lock that nobody holds. -/
def free {α : Type} : Stripe α := ⟨none, []⟩

/-- Take the lock, or wait for it behind all who came before. -/
def acquire {α : Type} (stripe : Stripe α) (who : α) : Stripe α :=
  match stripe.holder with
  | none => { stripe with holder := some who }
  | some _ => { stripe with waiting := stripe.waiting ++ [who] }

/-- Give the lock back; the first who waits gets it. -/
def release {α : Type} (stripe : Stripe α) : Stripe α :=
  match stripe.waiting with
  | [] => free
  | who :: rest => ⟨some who, rest⟩

/-- Those who hold the lock from now on, in order, if nobody else asks for it. -/
def succession {α : Type} (stripe : Stripe α) : List α :=
  stripe.holder.toList ++ stripe.waiting

end Stripe

end Intermediary
