/-!
# Programs of actions

A program says which actions it takes on the world outside, one after another,
each of which may depend on the replies before it.  Carrying the actions out is
left to whoever runs the program.
-/

namespace Intermediary

/-- A sequence of actions that ends with a result. -/
inductive Program {Act : Type} (Reply : Act -> Type) (α : Type) : Type where
  | done (result : α)
  | act (action : Act) (next : Reply action -> Program Reply α)

namespace Program

variable {Act : Type} {Reply : Act -> Type} {α β : Type}

def bind : Program Reply α -> (α -> Program Reply β) -> Program Reply β
  | .done result, rest => rest result
  | .act action next, rest => .act action fun reply => (next reply).bind rest

instance : Monad (Program Reply) where
  pure := .done
  bind := bind

def perform (action : Act) : Program Reply (Reply action) :=
  .act action .done

end Program

end Intermediary
