import Intermediary.Program

/-!
# Runs of a program

The actions that were taken of a program, with their replies, whatever these
were.  What holds whenever an action is taken is shown along the program, by
rules for its actions and for sequences of programs.
-/

namespace Intermediary

/-- A moment of a history is its last one, or one of those before. -/
theorem snoc_eq_append_cons {α : Type} {before after history : List α} {x last : α}
    (h : history ++ [last] = before ++ x :: after) :
    after = [] ∧ history = before ∧ last = x ∨
      ∃ init, after = init ++ [last] ∧ history = before ++ x :: init := by
  obtain rfl | ⟨init, final, rfl⟩ := List.eq_nil_or_concat after
  · obtain ⟨hhistory, hlast⟩ := List.append_inj' h rfl
    exact .inl ⟨rfl, hhistory, by simpa using hlast⟩
  · rw [List.concat_eq_append, ← List.cons_append, ← List.append_assoc] at h
    obtain ⟨hhistory, hlast⟩ := List.append_inj' h rfl
    obtain rfl : last = final := by simpa using hlast
    exact .inr ⟨init, by simp, hhistory⟩

namespace Program

variable {Act : Type} {Reply : Act -> Type} {α β : Type}

theorem bind_assoc {γ : Type} (program : Program Reply α) (next : α -> Program Reply β)
    (last : β -> Program Reply γ) :
    (program.bind next).bind last = program.bind fun result => (next result).bind last := by
  induction program with
  | done result => rfl
  | act action rest ih => exact congrArg (Program.act action) (funext ih)

structure Taken (Reply : Act -> Type) where
  action : Act
  reply : Reply action

/-- Taking some of the actions of a program leads to what is left of it. -/
inductive Runs (program : Program Reply α) :
    List (Taken Reply) -> Program Reply α -> Prop where
  | none : Runs program [] program
  | snoc {taken action next} (h : Runs program taken (.act action next))
      (reply : Reply action) : Runs program (taken ++ [⟨action, reply⟩]) (next reply)

/-- What is taken of a program with given replies, and its result. -/
def complete (world : (action : Act) -> Reply action) :
    Program Reply α -> List (Taken Reply) × α
  | .done result => ([], result)
  | .act action next =>
      let (taken, result) := complete world (next (world action))
      (⟨action, world action⟩ :: taken, result)

theorem Runs.cons {action : Act} {next : Reply action -> Program Reply α}
    {reply : Reply action} {taken : List (Taken Reply)} {rest : Program Reply α}
    (h : (next reply).Runs taken rest) :
    (act action next).Runs (⟨action, reply⟩ :: taken) rest := by
  induction h with
  | none => exact Runs.none.snoc reply
  | snoc _ reply' ih => exact ih.snoc reply'

/-- A program that begins with an action is at its beginning, or has taken it. -/
theorem Runs.act {action : Act} {next : Reply action -> Program Reply α}
    {taken : List (Taken Reply)} {rest : Program Reply α}
    (h : (Program.act action next).Runs taken rest) :
    taken = [] ∧ rest = .act action next ∨
      ∃ reply later, taken = ⟨action, reply⟩ :: later ∧ (next reply).Runs later rest := by
  induction h with
  | none => exact .inl ⟨rfl, rfl⟩
  | snoc _ reply ih =>
      obtain ⟨rfl, heq⟩ | ⟨first, later, rfl, hlater⟩ := ih
      · cases heq
        exact .inr ⟨reply, [], rfl, .none⟩
      · exact .inr ⟨first, later ++ [_], rfl, hlater.snoc reply⟩

theorem runs_complete (world : (action : Act) -> Reply action) (program : Program Reply α) :
    program.Runs (complete world program).1 (.done (complete world program).2) := by
  induction program with
  | done result => exact .none
  | act action next ih => exact (ih (world action)).cons

/--
After what was taken before, every action is taken when it may be, and the
result is one that there may be.
-/
def Guards (may : List (Taken Reply) -> Act -> Prop)
    (post : List (Taken Reply) -> α -> Prop) :
    Program Reply α -> List (Taken Reply) -> Prop
  | .done result, past => post past result
  | .act action next, past =>
      may past action ∧ ∀ reply, Guards may post (next reply) (past ++ [⟨action, reply⟩])

variable {may : List (Taken Reply) -> Act -> Prop} {past : List (Taken Reply)}

theorem Guards.sound {post : List (Taken Reply) -> α -> Prop}
    {program rest : Program Reply α} {taken : List (Taken Reply)}
    (h : Guards may post program past) (hruns : program.Runs taken rest) :
    Guards may post rest (past ++ taken) := by
  induction hruns with
  | none => simpa using h
  | snoc _ reply ih =>
      have hnext := ih.2 reply
      rwa [List.append_assoc] at hnext

/-- Every action was taken when it might be. -/
theorem Guards.may_of_runs {post : List (Taken Reply) -> α -> Prop}
    {program rest : Program Reply α} {before after : List (Taken Reply)}
    {taken : Taken Reply} (h : Guards may post program past)
    (hruns : program.Runs (before ++ taken :: after) rest) :
    may (past ++ before) taken.action := by
  generalize hall : before ++ taken :: after = all at hruns
  induction hruns generalizing after with
  | none => simp at hall
  | snoc hruns reply ih =>
      obtain ⟨_, rfl, rfl⟩ | ⟨init, _, hinit⟩ := snoc_eq_append_cons hall.symm
      · exact (h.sound hruns).1
      · exact ih hinit.symm

theorem guards_pure {post : List (Taken Reply) -> α -> Prop} {result : α}
    (h : post past result) : Guards may post (pure result : Program Reply α) past :=
  h

theorem guards_act {action : Act} {next : Reply action -> Program Reply β}
    {post : List (Taken Reply) -> β -> Prop} (hmay : may past action)
    (hnext : ∀ reply, Guards may post (next reply) (past ++ [⟨action, reply⟩])) :
    Guards may post (perform action >>= next) past :=
  ⟨hmay, hnext⟩

/-- One program after another. -/
theorem guards_bind {program : Program Reply α} {next : α -> Program Reply β}
    {post : List (Taken Reply) -> β -> Prop}
    (h : Guards may (fun past result => Guards may post (next result) past) program past) :
    Guards may post (program.bind next) past := by
  induction program generalizing past with
  | done result => exact h
  | act action rest ih => exact ⟨h.1, fun reply => ih reply (h.2 reply)⟩

theorem Guards.mono {post weaker : List (Taken Reply) -> α -> Prop}
    {program : Program Reply α} (h : Guards may post program past)
    (hpost : ∀ past result, post past result -> weaker past result) :
    Guards may weaker program past := by
  induction program generalizing past with
  | done result => exact hpost past result h
  | act action rest ih => exact ⟨h.1, fun reply => ih reply (h.2 reply)⟩

theorem Guards.weaken {sooner : List (Taken Reply) -> Act -> Prop}
    {post : List (Taken Reply) -> α -> Prop} {program : Program Reply α}
    (h : Guards may post program past)
    (hmay : ∀ past action, may past action -> sooner past action) :
    Guards sooner post program past := by
  induction program generalizing past with
  | done result => exact h
  | act action rest ih => exact ⟨hmay past action h.1, fun reply => ih reply (h.2 reply)⟩

/-- One program after another, given what holds in between. -/
theorem Guards.then {program : Program Reply α} {next : α -> Program Reply β}
    {between : List (Taken Reply) -> α -> Prop} {post : List (Taken Reply) -> β -> Prop}
    (h : Guards may between program past)
    (hnext : ∀ past result, between past result -> Guards may post (next result) past) :
    Guards may post (program >>= next) past :=
  guards_bind (h.mono hnext)

end Program

end Intermediary
