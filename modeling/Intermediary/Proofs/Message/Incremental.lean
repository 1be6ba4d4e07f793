import Intermediary.Proofs.Message.Line
import Intermediary.Request.Reader
import Intermediary.Response.Reader

/-!
# Incremental reading

A reader is incremental when what it makes of a stream depends only on the
bytes it has taken: a message that is accepted stays accepted, and an error
that is the message's own stays an error, whatever follows.  A message that is
cut short is then never taken for a complete one.

Readers are sequences of smaller readers, so the property is shown for lines
and blocks and carried through the loops by the length of the stream.
-/

namespace Intermediary

/-- A reader of values at the front of a stream; it returns what follows. -/
abbrev StreamReader (α : Type) : Type :=
  Bytes -> Except MessageError (α × Bytes)

def MessageError.IsCut (e : MessageError) : Prop :=
  e = .closed ∨ e = .ended

/-- What a reader says of a stream does not depend on what comes after the bytes it takes. -/
structure Incremental {α : Type} (reader : StreamReader α) : Prop where
  /-- What was accepted is accepted from its own bytes, whatever follows. -/
  accepted : ∀ {stream value rest}, reader stream = .ok (value, rest) ->
    ∃ taken, stream = taken ++ rest ∧
      ∀ tail, reader (taken ++ tail) = .ok (value, tail)
  /-- An error of the message itself is not mended by more bytes. -/
  refused : ∀ {stream e}, reader stream = .error e -> e.isTransport = false ->
    ∀ tail, reader (stream ++ tail) = .error e
  /-- Without its last bytes an accepted message is only ever cut short. -/
  cut : ∀ {taken value}, reader taken = .ok (value, []) ->
    ∀ {front missing}, taken = front ++ missing -> missing ≠ [] ->
      ∃ e, reader front = .error e ∧ e.IsCut

namespace StreamReader

variable {α β : Type}

/-- A reader has settled on a stream what it also says of longer ones. -/
structure SettledOn (reader : StreamReader α) (stream : Bytes) : Prop where
  accepted : ∀ {value rest}, reader stream = .ok (value, rest) ->
    ∃ taken, stream = taken ++ rest ∧
      ∀ tail, reader (taken ++ tail) = .ok (value, tail)
  failed : ∀ {e}, reader stream = .error e ->
    e.IsCut ∨ e.isTransport = false ∧
      ∀ tail, reader (stream ++ tail) = .error e

theorem incremental_of_settledOn {reader : StreamReader α}
    (h : ∀ stream, reader.SettledOn stream) : Incremental reader where
  accepted hok := (h _).accepted hok
  refused herror hkind tail := by
    rcases (h _).failed herror with (rfl | rfl) | ⟨_, hsame⟩
    · cases hkind
    · cases hkind
    · exact hsame tail
  cut := by
    intro taken value hok front missing hsplit hmissing
    cases hfront : reader front with
    | ok result =>
        obtain ⟨early, rest⟩ := result
        obtain ⟨own, rfl, hall⟩ := (h front).accepted hfront
        have hlong := hall (rest ++ missing)
        rw [← List.append_assoc, ← hsplit, hok] at hlong
        have hnil : ([] : Bytes) = rest ++ missing := by
          injection hlong with hpair
          exact (Prod.mk.inj hpair).2
        exact absurd (List.append_eq_nil_iff.1 hnil.symm).2 hmissing
    | error e =>
        rcases (h front).failed hfront with hcut | ⟨_, hsame⟩
        · exact ⟨e, rfl, hcut⟩
        · have hlong := hsame missing
          rw [← hsplit, hok] at hlong
          cases hlong

/-! ## Sequences of readers -/

def andThen (first : StreamReader α) (next : α -> StreamReader β) :
    StreamReader β := fun stream =>
  match first stream with
  | .error e => .error e
  | .ok (value, rest) => next value rest

def check (result : Except MessageError α) : StreamReader α := fun stream =>
  result.map fun value => (value, stream)

theorem settledOn_check {result : Except MessageError α}
    (h : ∀ e, result = .error e -> e.isTransport = false) (stream : Bytes) :
    (check result).SettledOn stream where
  accepted hok := by
    cases result with
    | error e => cases hok
    | ok value =>
        cases hok
        exact ⟨[], rfl, fun tail => rfl⟩
  failed herror := by
    cases result with
    | error e =>
        cases herror
        exact .inr ⟨h _ rfl, fun tail => rfl⟩
    | ok value => cases herror

theorem settledOn_andThen {first : StreamReader α} {next : α -> StreamReader β}
    {stream : Bytes} (hfirst : first.SettledOn stream)
    (hnext : ∀ {value rest}, first stream = .ok (value, rest) ->
      (next value).SettledOn rest) :
    (first.andThen next).SettledOn stream := by
  cases h : first stream with
  | error e =>
      have herror : first.andThen next stream = .error e := by
        simp [andThen, h]
      refine ⟨fun hok => ?_, fun hsame => ?_⟩
      · rw [herror] at hok
        cases hok
      · rw [herror] at hsame
        cases hsame
        rcases hfirst.failed h with hcut | ⟨hkind, hlong⟩
        · exact .inl hcut
        · exact .inr ⟨hkind, fun tail => by simp [andThen, hlong tail]⟩
  | ok result =>
      obtain ⟨value, rest⟩ := result
      obtain ⟨taken, rfl, hlong⟩ := hfirst.accepted h
      have hsame : ∀ tail, first.andThen next (taken ++ tail) = next value tail :=
        fun tail => by simp [andThen, hlong tail]
      have hrest := hnext h
      refine ⟨fun hok => ?_, fun herror => ?_⟩
      · rw [hsame] at hok
        obtain ⟨more, rfl, hall⟩ := hrest.accepted hok
        refine ⟨taken ++ more, by rw [List.append_assoc], fun tail => ?_⟩
        rw [List.append_assoc, hsame, hall]
      · rw [hsame] at herror
        rcases hrest.failed herror with hcut | ⟨hkind, hall⟩
        · exact .inl hcut
        · refine .inr ⟨hkind, fun tail => ?_⟩
          rw [List.append_assoc, hsame, hall]

theorem settledOn_checked {result : Except MessageError α}
    {next : α -> StreamReader β} {stream : Bytes}
    (hkind : ∀ e, result = .error e -> e.isTransport = false)
    (hnext : ∀ value, result = .ok value -> (next value).SettledOn stream) :
    ((check result).andThen next).SettledOn stream := by
  refine settledOn_andThen (settledOn_check hkind stream) fun {value rest} h => ?_
  cases hresult : result with
  | error e =>
      rw [hresult] at h
      cases h
  | ok found =>
      rw [hresult] at h
      cases h
      exact hnext value hresult

theorem settledOn_map {reader : StreamReader α} {stream : Bytes} (f : α -> β)
    (h : reader.SettledOn stream) :
    (reader.andThen fun value => check (.ok (f value))).SettledOn stream :=
  settledOn_andThen h fun _ => settledOn_check (fun _ he => by cases he) _

end StreamReader

open StreamReader

/-! ## Lines and blocks -/

namespace Line

theorem settledOn_takeWithin (part : BoundedPart) (limit : Nat) (stream : Bytes) :
    StreamReader.SettledOn (takeWithin part limit) stream where
  accepted {line rest} hok := by
    have htake := takeWithin_eq_ok_iff.1 hok
    refine ⟨line, (take_eq_ok_iff.1 htake).1, fun tail => ?_⟩
    exact takeWithin_eq_ok_iff.2 (take_append_of_ok htake tail)
  failed {e} herror := by
    unfold takeWithin at herror
    split at herror
    · cases herror
    · cases herror
      exact .inl (.inr rfl)
    · cases herror
      exact .inl (.inr rfl)
    · next hlong =>
      cases herror
      refine .inr ⟨rfl, fun tail => ?_⟩
      simp [takeWithin, take_append_of_tooLong hlong tail]

theorem settledOn_takeFirst (part : BoundedPart) (limit : Nat) (stream : Bytes) :
    StreamReader.SettledOn (takeFirst part limit) stream where
  accepted {line rest} hok := by
    unfold takeFirst at hok
    split at hok
    · next htake =>
      cases hok
      refine ⟨line, (take_eq_ok_iff.1 htake).1, fun tail => ?_⟩
      simp [takeFirst, take_append_of_ok htake tail]
    all_goals cases hok
  failed {e} herror := by
    unfold takeFirst at herror
    split at herror
    · cases herror
    · cases herror
      exact .inl (.inl rfl)
    · cases herror
      exact .inl (.inr rfl)
    · next hlong =>
      cases herror
      refine .inr ⟨rfl, fun tail => ?_⟩
      simp [takeFirst, take_append_of_tooLong hlong tail]

theorem text_error {kind : LineKind} {line : Bytes} {e : MessageError}
    (h : text kind line = .error e) : e.isTransport = false := by
  unfold text at h
  split at h <;> cases h
  rfl

end Line

namespace Block

private theorem take_eq_error {size : Nat} {stream : Bytes} {e : MessageError}
    (h : take size stream = .error e) : e = .ended := by
  unfold take at h
  dsimp only at h
  split at h
  · split at h <;> cases h
    rfl
  · cases h

theorem settledOn_take (size : Nat) (stream : Bytes) :
    StreamReader.SettledOn (take size) stream where
  accepted {block rest} hok := by
    obtain ⟨hsplit, hlength⟩ := take_eq_ok_iff.1 hok
    exact ⟨block, hsplit, fun tail => take_eq_ok_iff.2 ⟨rfl, hlength⟩⟩
  failed herror := .inl (.inr (take_eq_error herror))

end Block

end Intermediary
