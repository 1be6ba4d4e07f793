import Intermediary.Proofs.Tunnel.Deeds

/-!
# The loop that runs a tunnel

A tunnel is run while time passes, bytes come from both peers, and their
streams end or their connections fail.  It waits until a peer of a direction
that is open seems to have something to be read; if none has for too long, it
is over.

What has happened tells what was done in both directions, and what there is to
be read.
-/

namespace Intermediary

inductive Happening where
  /-- Bytes have come from a peer. -/
  | came (side : Side) (bytes : Bytes)
  /-- A peer has ended its stream. -/
  | finished (side : Side)
  /-- The connection of a peer has failed. -/
  | broke (side : Side)
  /-- A wait for the peers has begun. -/
  | began (time : Nat)
  /-- A wait has lasted too long. -/
  | idled (time : Nat)
  /-- Something was done in the direction that comes from a peer. -/
  | did (side : Side) (deed : Flow.Deed)
  deriving DecidableEq

namespace Happening

def isOutside : Happening -> Bool
  | .came _ _ | .finished _ | .broke _ => true
  | _ => false

def deed? (side : Side) : Happening -> Option Flow.Deed
  | .did other deed => if other = side then some deed else none
  | _ => none

def bytesCame (side : Side) : Happening -> Bytes
  | .came other bytes => if other = side then bytes else []
  | _ => []

end Happening

/-- What was done in the direction that comes from a peer. -/
def deedsIn (side : Side) (history : List Happening) : List Flow.Deed :=
  history.filterMap (Happening.deed? side)

def bytesCame (side : Side) (history : List Happening) : Bytes :=
  history.flatMap (Happening.bytesCame side)

def HasEnded (history : List Happening) (side : Side) : Prop :=
  ∃ deed, .did side deed ∈ history ∧ deed.ends = true

section Happenings

variable {side other : Side} {history more : List Happening} {deeds : List Flow.Deed}
  {deed : Flow.Deed}

@[simp] theorem deedsIn_append :
    deedsIn side (history ++ more) = deedsIn side history ++ deedsIn side more :=
  List.filterMap_append

@[simp] theorem bytesCame_append :
    bytesCame side (history ++ more) = bytesCame side history ++ bytesCame side more :=
  List.flatMap_append

@[simp] theorem deedsIn_did : deedsIn side (deeds.map (.did side)) = deeds := by
  simp [deedsIn, Happening.deed?, Function.comp_def]

private theorem deedsIn_did_of_ne (h : other ≠ side) :
    deedsIn other (deeds.map (.did side)) = [] := by
  simp [deedsIn, Happening.deed?, h.symm]

@[simp] theorem bytesCame_did : bytesCame other (deeds.map (.did side)) = [] := by
  simp [bytesCame, Happening.bytesCame]

theorem deedsIn_outside (h : ∀ happening ∈ more, happening.isOutside = true) :
    deedsIn side more = [] := by
  refine List.filterMap_eq_nil_iff.2 fun happening hmem => ?_
  have houtside := h happening hmem
  cases happening <;> first | rfl | cases houtside

theorem mem_deedsIn : deed ∈ deedsIn side history ↔ .did side deed ∈ history := by
  refine List.mem_filterMap.trans ⟨?_, fun hmem => ⟨_, hmem, if_pos rfl⟩⟩
  rintro ⟨happening, hmem, hdeed⟩
  cases happening with
  | did other deed' =>
      obtain ⟨rfl, rfl⟩ := by simpa [Happening.deed?] using hdeed
      exact hmem
  | _ => cases hdeed

theorem hasEnded_iff :
    HasEnded history side ↔ (deedsIn side history).any Flow.Deed.ends = true := by
  simp [HasEnded, mem_deedsIn]

end Happenings

/-! ## Steps -/

/-- A tunnel that is run, with its connections and the time. -/
structure TunnelLoop where
  /-- The direction that comes from a peer. -/
  lanes : Side -> Lane
  /-- The connection of a peer has failed. -/
  broken : Side -> Bool
  relaying : Relaying
  /-- When the wait began that goes on. -/
  since : Option Nat
  now : Nat

namespace TunnelLoop

def opened (bufferSize : Nat) : TunnelLoop :=
  ⟨fun _ => .fresh, fun _ => false, .fresh bufferSize, none, 0⟩

/-- The tunnel is between two waits, or after the last. -/
def AtHead (loop : TunnelLoop) : Prop :=
  loop.relaying.current = none ∧ loop.since = none

def transit (loop : TunnelLoop) (side : Side) : Transit :=
  ⟨loop.lanes side, loop.relaying.tunnel.flow side, loop.relaying.buffer⟩

def work? (loop : TunnelLoop) (side : Side) : Option Transit.Work :=
  loop.relaying.current.bind fun current =>
    if current.1 = side then some current.2 else none

def withLane (loop : TunnelLoop) (side : Side) (lane : Lane) : TunnelLoop :=
  { loop with lanes := Function.update loop.lanes side lane }

def after (loop : TunnelLoop) (side : Side) (transit : Transit) (left : Option Transit.Work) :
    TunnelLoop :=
  { loop with
    lanes := Function.update loop.lanes side transit.lane
    relaying :=
      ⟨loop.relaying.tunnel.withFlow transit.flow side, transit.buffer,
        left.map fun work => (side, work)⟩
    since := none }

/-- Something could be read from a peer, or an end or a failure found. -/
def CanBeRead (loop : TunnelLoop) (side : Side) : Prop :=
  (loop.lanes side).unread ≠ [] ∨ (loop.lanes side).isEnded = true ∨
    loop.broken side = true

/-- One step of a tunnel, or of what surrounds it. -/
inductive Step (limit : Nat) (loop : TunnelLoop) : List Happening -> TunnelLoop -> Prop where
  | pass (time : Nat) : Step limit loop [] { loop with now := loop.now + time }
  | arrive (side : Side) (bytes : Bytes) (h : (loop.lanes side).isEnded = false) :
      Step limit loop [.came side bytes]
        (loop.withLane side ((loop.lanes side).arrive bytes))
  | finish (side : Side) :
      Step limit loop [.finished side]
        (loop.withLane side { loop.lanes side with isEnded := true })
  | fail (side : Side) :
      Step limit loop [.broke side]
        { loop with broken := Function.update loop.broken side true }
  | begin (hhead : loop.AtHead) (hover : loop.relaying.tunnel.isOver = false) :
      Step limit loop [.began loop.now] { loop with since := some loop.now }
  /-- The wait has lasted too long, and no peer of a direction that is open can be read now. -/
  | idle {start} (hsince : loop.since = some start) (hlong : start + limit ≤ loop.now)
      (hnone : ∀ side, (loop.relaying.tunnel.flow side).isOpen = true ->
        ¬ loop.CanBeRead side) :
      Step limit loop [.idled loop.now]
        { loop with
          relaying :=
            { loop.relaying with tunnel := loop.relaying.tunnel.step .idle }
          since := none }
  | ready {start} (side : Side) (hsince : loop.since = some start)
      (hopen : (loop.relaying.tunnel.flow side).isOpen = true) :
      Step limit loop ([.ready].map (.did side))
        (loop.after side (loop.transit side) (some .probing))
  /-- Waiting for a peer failed. -/
  | unready {start} (side : Side) (hsince : loop.since = some start)
      (hopen : (loop.relaying.tunnel.flow side).isOpen = true) :
      Step limit loop ([.unready, .shut].map (.did side))
        (loop.after side (loop.transit side).shut none)
  | work {side work deeds transit left}
      (hcurrent : loop.relaying.current = some (side, work))
      (hdoes : (loop.transit side).Does work deeds transit left) :
      Step limit loop (deeds.map (.did side)) (loop.after side transit left)

inductive Runs (limit : Nat) (start : TunnelLoop) : List Happening -> TunnelLoop -> Prop where
  | here : Runs limit start [] start
  | snoc {history loop more next} (h : Runs limit start history loop)
      (hstep : Step limit loop more next) : Runs limit start (history ++ more) next

theorem Runs.trans {limit : Nat} {start loop last : TunnelLoop} {history more : List Happening}
    (h : Runs limit start history loop) (hmore : Runs limit loop more last) :
    Runs limit start (history ++ more) last := by
  induction hmore with
  | here => rwa [List.append_nil]
  | snoc _ hstep ih =>
      rw [← List.append_assoc]
      exact ih.snoc hstep

section After

variable {loop : TunnelLoop} {side other : Side} {transit : Transit} {left : Option Transit.Work}

@[simp] theorem transit_after_self : (loop.after side transit left).transit side = transit := by
  simp [TunnelLoop.transit, after]

@[simp] theorem work?_after_self : (loop.after side transit left).work? side = left := by
  cases left <;> simp [work?, after]

private theorem transit_after_of_ne (h : other ≠ side) :
    (loop.after side transit left).transit other =
      ⟨loop.lanes other, loop.relaying.tunnel.flow other, transit.buffer⟩ := by
  simp [TunnelLoop.transit, after, h, Tunnel.flow_withFlow_of_ne _ _ h]

private theorem work?_after_of_ne (h : other ≠ side) :
    (loop.after side transit left).work? other = none := by
  cases left <;> simp [work?, after, h.symm]

end After

/-! ## What has happened accounts for the tunnel -/

/-- The tunnel waits, since a time, and only its peers have done something since. -/
structure Waiting (loop : TunnelLoop) (history : List Happening) (start : Nat) : Prop where
  current : loop.relaying.current = none
  isOver : loop.relaying.tunnel.isOver = false
  began : ∃ before during, history = before ++ .began start :: during ∧
    (∀ happening ∈ during, happening.isOutside = true) ∧
    ∀ side, bytesRead (deedsIn side before) <+: bytesCame side before

/-- What has happened tells what was done in both directions, and what came to be read. -/
structure Recorded (history : List Happening) (loop : TunnelLoop) : Prop where
  accounts : ∀ side,
    Transit.Accounts (deedsIn side history) (loop.transit side) (loop.work? side)
  came : ∀ side, (loop.lanes side).came = bytesCame side history
  isEnded : ∀ side, (loop.lanes side).isEnded = true ↔ .finished side ∈ history
  broken : ∀ side, loop.broken side = true ↔ .broke side ∈ history
  buffer : 0 < loop.relaying.buffer.length
  waiting : ∀ start, loop.since = some start -> loop.Waiting history start

section Recorded

variable {limit bufferSize start : Nat} {loop loop' : TunnelLoop}
  {history more : List Happening} {happening : Happening} {side : Side}

private theorem Waiting.outside (h : loop.Waiting history start)
    (houtside : happening.isOutside = true) (hrelaying : loop'.relaying = loop.relaying) :
    loop'.Waiting (history ++ [happening]) start := by
  obtain ⟨before, during, rfl, hduring, hread⟩ := h.began
  refine ⟨by rw [hrelaying, h.current], by rw [hrelaying, h.isOver], before,
    during ++ [happening], by simp, ?_, hread⟩
  exact List.forall_mem_append.2 ⟨hduring, List.forall_mem_singleton.2 houtside⟩

private theorem recorded_opened : Recorded [] (opened bufferSize) where
  accounts side := by
    refine .inl ⟨?_, ?_, nofun, by simp [deedsIn, work?, opened, Relaying.fresh], rfl, rfl, rfl⟩
    · cases side <;> rfl
    · cases side <;> rfl
  came _ := rfl
  isEnded _ := by simp [opened, Lane.fresh]
  broken _ := by simp [opened]
  buffer := by
    rw [opened, Relaying.fresh, List.length_replicate]
    omega
  waiting := nofun

/-- What happens while nothing is done in either direction. -/
theorem Recorded.happens (h : Recorded history loop)
    (hdeed : ∀ side, happening.deed? side = none)
    (htransit : ∀ side, loop'.transit side =
      ⟨loop'.lanes side, loop.relaying.tunnel.flow side, loop.relaying.buffer⟩)
    (hcurrent : loop'.relaying.current = loop.relaying.current)
    (hgrows : ∀ side, (loop.lanes side).Grows (loop'.lanes side))
    (hcame : ∀ side,
      (loop'.lanes side).came = (loop.lanes side).came ++ happening.bytesCame side)
    (hended : ∀ side, (loop'.lanes side).isEnded = true ↔
      (loop.lanes side).isEnded = true ∨ .finished side = happening)
    (hbroken : ∀ side, loop'.broken side = true ↔
      loop.broken side = true ∨ .broke side = happening)
    (hwaiting : ∀ start, loop'.since = some start ->
      loop'.Waiting (history ++ [happening]) start) :
    Recorded (history ++ [happening]) loop' where
  accounts side := by
    have hnone : deedsIn side [happening] = [] := by simp [deedsIn, hdeed]
    rw [deedsIn_append, hnone, List.append_nil, htransit, work?, hcurrent]
    exact (h.accounts side).grows (hgrows side)
  came side := by
    rw [hcame, h.came, bytesCame_append, bytesCame, bytesCame, List.flatMap_singleton]
  isEnded side := by
    rw [hended, h.isEnded, List.mem_append, List.mem_singleton]
  broken side := by
    rw [hbroken, h.broken, List.mem_append, List.mem_singleton]
  buffer := by
    have hbuffer : loop'.relaying.buffer = loop.relaying.buffer :=
      congrArg Transit.buffer (htransit .client)
    rw [hbuffer]
    exact h.buffer
  waiting := hwaiting

/-- What happens when something is done in the one direction that may be worked on. -/
theorem Recorded.does (h : Recorded history loop) {deeds : List Flow.Deed} {transit : Transit}
    {left : Option Transit.Work} (hothers : ∀ other, other ≠ side -> loop.work? other = none)
    (haccounts : Transit.Accounts (deedsIn side history ++ deeds) transit left)
    (hcame : transit.lane.came = (loop.lanes side).came)
    (hended : transit.lane.isEnded = (loop.lanes side).isEnded)
    (hbuffer : 0 < transit.buffer.length) :
    Recorded (history ++ deeds.map (.did side)) (loop.after side transit left) where
  accounts other := by
    by_cases hother : other = side
    · subst hother
      rwa [deedsIn_append, deedsIn_did, transit_after_self, work?_after_self]
    · rw [deedsIn_append, deedsIn_did_of_ne hother, List.append_nil,
        transit_after_of_ne hother, work?_after_of_ne hother]
      have hother' := h.accounts other
      rw [hothers other hother] at hother'
      exact hother'.withBuffer _
  came other := by
    rw [bytesCame_append, bytesCame_did, List.append_nil, ← h.came]
    by_cases hother : other = side
    · subst hother
      simpa [after] using hcame
    · simp [after, hother]
  isEnded other := by
    have hnone : .finished other ∉ deeds.map (Happening.did side) := by simp
    rw [List.mem_append, or_iff_left hnone, ← h.isEnded]
    by_cases hother : other = side
    · subst hother
      simp [after, hended]
    · simp [after, hother]
  broken other := by
    have hnone : .broke other ∉ deeds.map (Happening.did side) := by simp
    rw [List.mem_append, or_iff_left hnone]
    exact h.broken other
  buffer := hbuffer
  waiting := nofun

theorem Recorded.step (h : Recorded history loop)
    (hstep : loop.Step limit more loop') : Recorded (history ++ more) loop' := by
  cases hstep with
  | pass time =>
      rw [List.append_nil]
      refine ⟨h.accounts, h.came, h.isEnded, h.broken, h.buffer, fun start hsince => ?_⟩
      have hwaiting := h.waiting start hsince
      exact ⟨hwaiting.current, hwaiting.isOver, hwaiting.began⟩
  | arrive side bytes hended =>
      refine h.happens (fun _ => rfl) (fun _ => rfl) rfl ?_ ?_ ?_ (by simp [withLane])
        fun start hsince => (h.waiting start hsince).outside rfl rfl
      · exact (Function.forall_update_iff _ fun other lane => (loop.lanes other).Grows lane).2
          ⟨Lane.grows_arrive hended bytes, fun _ _ => .refl _⟩
      · exact (Function.forall_update_iff _ fun other (lane : Lane) =>
            lane.came = (loop.lanes other).came ++ _).2
          ⟨by simp [Lane.arrive, Happening.bytesCame],
            fun other hother => by simp [Happening.bytesCame, hother.symm]⟩
      · exact (Function.forall_update_iff _ fun other (lane : Lane) =>
            lane.isEnded = true ↔ (loop.lanes other).isEnded = true ∨ _).2
          ⟨by simp [Lane.arrive], fun _ _ => by simp⟩
  | finish side =>
      refine h.happens (fun _ => rfl) (fun _ => rfl) rfl ?_ ?_ ?_ (by simp [withLane])
        fun start hsince => (h.waiting start hsince).outside rfl rfl
      · exact (Function.forall_update_iff _ fun other lane => (loop.lanes other).Grows lane).2
          ⟨Lane.grows_finish _, fun _ _ => .refl _⟩
      · exact (Function.forall_update_iff _ fun other (lane : Lane) =>
            lane.came = (loop.lanes other).came ++ _).2
          ⟨by simp [Happening.bytesCame], fun _ _ => by simp [Happening.bytesCame]⟩
      · exact (Function.forall_update_iff _ fun other (lane : Lane) =>
            lane.isEnded = true ↔ (loop.lanes other).isEnded = true ∨ _).2
          ⟨by simp, fun other hother => by simp [hother]⟩
  | fail side =>
      refine h.happens (fun _ => rfl) (fun _ => rfl) rfl (fun _ => Lane.Grows.refl _)
        (fun _ => by simp [Happening.bytesCame]) (by simp) ?_
        fun start hsince => (h.waiting start hsince).outside rfl rfl
      exact (Function.forall_update_iff _ fun other broken =>
          broken = true ↔ loop.broken other = true ∨ _).2
        ⟨by simp, fun other hother => by simp [hother]⟩
  | begin hhead hover =>
      refine h.happens (fun _ => rfl) (fun _ => rfl) rfl (fun _ => Lane.Grows.refl _)
        (fun _ => by simp [Happening.bytesCame]) (by simp) (by simp) ?_
      rintro _ ⟨⟩
      refine ⟨hhead.1, hover, history, [], rfl, nofun, fun side => ?_⟩
      exact ⟨_, (h.accounts side).came.trans (h.came side)⟩
  | idle hsince hlong hnone =>
      refine h.happens (fun _ => rfl) (fun side => ?_) rfl (fun _ => Lane.Grows.refl _)
        (fun _ => by simp [Happening.bytesCame]) (by simp) (by simp) nofun
      cases side <;> rfl
  | ready side hsince hopen =>
      have hcurrent := (h.waiting _ hsince).current
      have haccounts := h.accounts side
      rw [work?, hcurrent] at haccounts
      exact h.does (fun _ _ => by rw [work?, hcurrent]; rfl)
        (.inl (haccounts.going hopen).ready) rfl rfl h.buffer
  | unready side hsince hopen =>
      have hcurrent := (h.waiting _ hsince).current
      have haccounts := h.accounts side
      rw [work?, hcurrent] at haccounts
      exact h.does (fun _ _ => by rw [work?, hcurrent]; rfl)
        ((haccounts.going hopen).shut rfl rfl nofun (.inl rfl)) rfl rfl h.buffer
  | @work side work deeds transit left hcurrent hdoes =>
      have haccounts := h.accounts side
      have hwork : loop.work? side = some work := by simp [work?, hcurrent]
      rw [hwork] at haccounts
      exact h.does (fun other hother => by simp [work?, hcurrent, Ne.symm hother])
        (haccounts.going_of_work.does hdoes) hdoes.came hdoes.isEnded
        (hdoes.buffer_pos h.buffer)

theorem recorded_of_runs (h : (opened bufferSize).Runs limit history loop) :
    Recorded history loop := by
  induction h with
  | here => exact recorded_opened
  | snoc _ hstep ih => exact ih.step hstep

end Recorded

end TunnelLoop

end Intermediary
