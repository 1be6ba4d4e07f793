import Intermediary.Proofs.Cache.Entries
import Intermediary.Proofs.Service.Asking
import Intermediary.Proofs.Service.Conduct

/-!
# Outcomes

What a client gets of a connection, and what is left of the cache.  Both are said
of a whole history, and found piece by piece: a piece is mute, in which the client
is sent nothing and nothing is stored, or sound, in which the origin did not fail,
or has nothing to do with the origin and the cache.
-/

namespace Intermediary

open Serving

/-! ## What a client gets -/

namespace Occurrence

/-- Whether an exchange with the origin, or with the parent before it, failed. -/
def originFails (limits : Limits) (method : Method) : Occurrence -> Bool
  | ⟨.connect _ _, .error _, _, _⟩ | ⟨.send _, .error _, _, _⟩ => true
  | ⟨.receive .origin _, inflow, _, _⟩ =>
      if method = .connect then
        match Inflow.read (Response.readHead limits) inflow with
        | .ok (reply, _) => ! reply.status.isSuccess
        | .error _ => true
      else
        match Inflow.read (Response.read limits method) inflow with
        | .ok _ => false
        | .error _ => true
  | _ => false

def fromClient? : Occurrence -> Option Inflow
  | ⟨.receive .client _, inflow, _, _⟩ => some inflow
  | _ => none

def answerFails : Occurrence -> Bool
  | ⟨.answer _, .error _, _, _⟩ => true
  | _ => false

end Occurrence

namespace History

def fromClient? (history : History) : Option Inflow :=
  history.findSome? Occurrence.fromClient?

/-- What happened before the client was told that its tunnel is open. -/
def beforeTunnel (history : History) : History :=
  history.takeWhile fun o => ! o.isTunnel

/-- One response was written to the client, as much of it as the client took. -/
structure Gets (history : History) (response : Response) : Prop where
  answers : history.answers = [response.render]
  untunnelled : history.isTunnelled = false
  begun : history.toClient <+: response.render
  whole : (∀ o ∈ history, o.answerFails = false) -> history.toClient = response.render

/-- The client was sent nothing, or a refusal of some status. -/
def Concludes (history : History) : Option Status -> Prop
  | none => history.Silent
  | some status => ∃ text, history.Gets (Response.ofMessage status text)

end History

/-! ## What becomes of the cache -/

def Action.leave (cache : Cache) (now : Nat) : Action -> Cache
  | .lookup print => (cache.lookup print now).2.1
  | .store print response => (cache.insert print response now).1
  | _ => cache

namespace History

/-- The cache after the actions of a history, each at its time. -/
def leave (cache : Cache) (moments : List (Occurrence × Nat)) : Cache :=
  moments.foldl (fun cache moment => moment.1.action.leave cache moment.2) cache

/-- The cache is left as it was, but for an entry that had become too old. -/
def SparesCache (history : History) (print : Option Fingerprint) : Prop :=
  ∀ cache moments, moments.map Prod.fst = history ->
    leave cache moments = cache ∨
      ∃ own ∈ print, ∃ entry, cache.find? own = some entry ∧
        (∃ moment ∈ moments, entry.isExpired moment.2 = true) ∧
        leave cache moments = cache.erase own

end History

/-! ## Pieces of a history -/

def Action.isSpoken : Action -> Bool
  | .answer _ | .greet _ | .relay _ _ => true
  | _ => false

/-- The actions in which neither the origin nor the cache takes part. -/
def Action.isApart : Action -> Bool
  | .receive .client _ | .answer _ | .lock _ | .unlock _ | .measure _ | .log _ => true
  | _ => false

/-- What an action may do to the cache when nothing is stored. -/
def Action.Spares (print : Option Fingerprint) : Action -> Prop
  | .lookup asked => print = some asked
  | .store _ _ => False
  | _ => True

namespace History

/-- A piece in which the client is sent nothing and nothing is stored. -/
structure Mute (print : Option Fingerprint) (piece : History) : Prop where
  silent : piece.Silent
  spares : ∀ o ∈ piece, o.action.Spares print

def Sound (limits : Limits) (method : Method) (piece : History) : Prop :=
  ∀ o ∈ piece, o.originFails limits method = false

variable {print : Option Fingerprint} {limits : Limits} {method : Method}
  {piece first last : History} {o : Occurrence}

theorem Silent.append (h : first.Silent) (h' : last.Silent) : Silent (first ++ last) where
  answers := by rw [answers_append, h.answers, h'.answers, List.append_nil]
  untunnelled := by rw [isTunnelled_append, h.untunnelled, h'.untunnelled, Bool.or_false]
  toClient := by rw [toClient_append, h.toClient, h'.toClient, List.append_nil]

theorem silent_singleton (ho : o.Possible) (haction : o.action.isSpoken = false) :
    Silent [o] := by
  obtain ⟨action, reply, toClient, fromOrigin⟩ := o
  have hclient : toClient = [] := by
    cases action with
    | receive side enough => cases side <;> exact ho.1
    | answer bytes => cases haction
    | greet bytes => cases haction
    | relay ahead behind => cases haction
    | _ => exact ho.1
  subst hclient
  cases action <;> first | exact ⟨rfl, rfl, rfl⟩ | cases haction

theorem Mute.nil : Mute print [] where
  silent := ⟨rfl, rfl, rfl⟩
  spares := List.forall_mem_nil _

theorem Mute.append (h : Mute print first) (h' : Mute print last) :
    Mute print (first ++ last) where
  silent := h.silent.append h'.silent
  spares := List.forall_mem_append.2 ⟨h.spares, h'.spares⟩

theorem Mute.cons (ho : o.Possible) (hspoken : o.action.isSpoken = false)
    (hspares : o.action.Spares print) (h : Mute print piece) : Mute print (o :: piece) where
  silent := (silent_singleton ho hspoken).append h.silent
  spares := List.forall_mem_cons.2 ⟨hspares, h.spares⟩

theorem Mute.weaken (h : Mute none piece) : Mute print piece where
  silent := h.silent
  spares o ho := by
    have hspares := h.spares o ho
    obtain ⟨action, reply, toClient, fromOrigin⟩ := o
    cases action <;> first | exact trivial | cases hspares

/-- One step on the cache: it stays, or an entry is gone that is too old. -/
theorem leave_of_spares {action : Action} (h : action.Spares print) (cache : Cache)
    (now : Nat) :
    action.leave cache now = cache ∨
      ∃ own ∈ print, ∃ entry, cache.find? own = some entry ∧
        entry.isExpired now = true ∧ action.leave cache now = cache.erase own := by
  cases action with
  | lookup asked =>
      rcases cache.lookup_cache asked now with hsame | hevict
      · exact .inl hsame
      · rcases cache.evict_cache asked now with hsame | ⟨entry, hfound, hold, herase⟩
        · exact .inl (hevict.trans hsame)
        · exact .inr ⟨asked, h, entry, hfound, hold, hevict.trans herase⟩
  | store asked response => cases h
  | _ => exact .inl rfl

theorem sparesCache_of_spares (h : ∀ o ∈ piece, o.action.Spares print) :
    piece.SparesCache print := by
  intro cache moments hmoments
  induction moments generalizing cache piece with
  | nil => exact .inl rfl
  | cons moment moments ih =>
      obtain ⟨o, now⟩ := moment
      subst hmoments
      obtain ⟨ho, hrest⟩ := List.forall_mem_cons.1 h
      have hleave : leave cache ((o, now) :: moments) =
          leave (o.action.leave cache now) moments := rfl
      rw [hleave]
      rcases leave_of_spares ho cache now with
        hsame | ⟨own, hown, entry, hfound, hold, herase⟩
      · rw [hsame]
        refine (ih hrest cache rfl).imp_right ?_
        rintro ⟨own, hown, entry, hfound, ⟨moment, hmem, hold⟩, herase⟩
        exact ⟨own, hown, entry, hfound, ⟨moment, List.mem_cons_of_mem _ hmem, hold⟩,
          herase⟩
      · -- An entry that is gone cannot be found again.
        rw [herase]
        refine .inr ⟨own, hown, entry, hfound, ⟨_, List.mem_cons_self, hold⟩, ?_⟩
        rcases ih hrest (cache.erase own) rfl with hsame | ⟨other, hother, _, hagain, _⟩
        · exact hsame
        · obtain rfl : own = other := Option.mem_unique hown hother
          rw [Cache.find?_erase_self] at hagain
          cases hagain

/-- A piece in which neither the origin nor the cache takes part. -/
def Apart (piece : History) : Prop :=
  ∀ o ∈ piece, o.action.isApart = true

theorem Apart.append (h : first.Apart) (h' : last.Apart) : Apart (first ++ last) :=
  List.forall_mem_append.2 ⟨h, h'⟩

theorem Apart.spares (h : piece.Apart) : ∀ o ∈ piece, o.action.Spares print := by
  intro o ho
  have hapart := h o ho
  obtain ⟨action, reply, toClient, fromOrigin⟩ := o
  cases action <;> first | exact trivial | cases hapart

theorem Apart.sound (h : piece.Apart) : piece.Sound limits method := by
  intro o ho
  have hapart := h o ho
  obtain ⟨action, reply, toClient, fromOrigin⟩ := o
  cases action with
  | receive side enough =>
      cases side
      · rfl
      · cases hapart
  | connect host port => cases hapart
  | send bytes => cases hapart
  | _ => rfl

/-- What was not written before a response is no part of it. -/
theorem Gets.after {response : Response} (h : last.Gets response)
    (hfirst : first.Silent) : Gets (first ++ last) response where
  answers := by rw [answers_append, hfirst.answers, h.answers, List.nil_append]
  untunnelled := by
    rw [isTunnelled_append, hfirst.untunnelled, h.untunnelled, Bool.or_false]
  begun := by
    rw [toClient_append, hfirst.toClient, List.nil_append]
    exact h.begun
  whole htaken := by
    rw [toClient_append, hfirst.toClient, List.nil_append]
    exact h.whole fun o ho => htaken o (List.mem_append_right first ho)

theorem Gets.before {response : Response} (h : first.Gets response)
    (hlast : last.Silent) : Gets (first ++ last) response where
  answers := by rw [answers_append, hlast.answers, h.answers, List.append_nil]
  untunnelled := by
    rw [isTunnelled_append, hlast.untunnelled, h.untunnelled, Bool.or_false]
  begun := by
    rw [toClient_append, hlast.toClient, List.append_nil]
    exact h.begun
  whole htaken := by
    rw [toClient_append, hlast.toClient, List.append_nil]
    exact h.whole fun o ho => htaken o (List.mem_append_left last ho)

theorem Silent.beforeTunnel_append (h : first.Silent) :
    beforeTunnel (first ++ last) = first ++ last.beforeTunnel := by
  have hnone : ∀ o ∈ first, (! o.isTunnel) = true := by
    intro o ho
    have huntunnelled := List.any_eq_false.1 h.untunnelled o ho
    simpa using huntunnelled
  exact List.takeWhile_append_of_pos hnone

theorem mem_of_mem_beforeTunnel (h : o ∈ piece.beforeTunnel) : o ∈ piece :=
  List.takeWhile_subset _ h

end History

end Intermediary
