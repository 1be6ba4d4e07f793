import Intermediary.Proofs.Tunnel.Loop
import Intermediary.Proofs.Tunnel.Waits

/-!
# Half-closing a tunnel

Between two waits, the half that a direction writes to is shut just when the
direction has ended: its peer has ended its stream, or reading or writing has
failed.  The other direction goes on.  The tunnel is over when both have ended,
or when it has waited too long while no peer of an open one could be read.
-/

namespace Intermediary

/-- A peer can be read: bytes of it were not read, or its stream has ended, or it has failed. -/
def IsReadable (history : List Happening) (side : Side) : Prop :=
  bytesRead (deedsIn side history) ≠ bytesCame side history ∨
    .finished side ∈ history ∨ .broke side ∈ history

/-- A tunnel goes on unless it has waited too long or both directions are shut. -/
theorem Tunnel.isOver_eq_false_iff (tunnel : Tunnel) :
    tunnel.isOver = false ↔
      tunnel.timedOut = false ∧ ∃ side, (tunnel.flow side).isOpen = true := by
  have hsides : (∃ side, (tunnel.flow side).isOpen = true) ↔ tunnel.isOpen = true := by
    refine ⟨?_, fun hopen => ?_⟩
    · rintro ⟨_ | _, hside⟩
      · exact Bool.or_eq_true_iff.2 (.inl hside)
      · exact Bool.or_eq_true_iff.2 (.inr hside)
    · obtain hclient | horigin := Bool.or_eq_true_iff.1 hopen
      · exact ⟨.client, hclient⟩
      · exact ⟨.origin, horigin⟩
  rw [hsides, isOver, Bool.or_eq_false_iff, Bool.not_eq_false']

/-! ## Waiting too long -/

/-- A wait that lasted too long, with what came before it, during it and after it. -/
structure IdleWait where
  before : List Happening
  start : Nat
  during : List Happening
  finish : Nat
  later : List Happening

namespace IdleWait

def upTo (wait : IdleWait) (passed : List Happening) : List Happening :=
  wait.before ++ .began wait.start :: passed

def history (wait : IdleWait) : List Happening :=
  wait.upTo wait.during ++ .idled wait.finish :: wait.later

/--
The wait was as long as the time limit, some direction was open, and at no
moment could a peer of one that was open be read.  Nothing else was done
meanwhile, and nothing was done since.
-/
structure TimesOut (wait : IdleWait) (limit : Nat) : Prop where
  long : wait.start + limit ≤ wait.finish
  isOpen : ∃ side, ¬ HasEnded wait.before side
  quiet : ∀ side, ¬ HasEnded wait.before side -> ∀ passed, passed <+: wait.during ->
    ¬ IsReadable (wait.upTo passed) side
  during : ∀ happening ∈ wait.during, happening.isOutside = true
  later : ∀ happening ∈ wait.later, happening.isOutside = true

variable {wait : IdleWait} {limit : Nat} {passed : List Happening} {happening : Happening}
  {side : Side}

theorem history_snoc (wait : IdleWait) :
    wait.history ++ [happening] =
      { wait with later := wait.later ++ [happening] }.history := by
  simp [history, upTo]

theorem deedsIn_upTo (h : ∀ happening ∈ passed, happening.isOutside = true) :
    deedsIn side (wait.upTo passed) = deedsIn side wait.before := by
  rw [upTo, deedsIn_append]
  exact (congrArg _ (deedsIn_outside h)).trans (List.append_nil _)

private theorem bytesCame_upTo :
    bytesCame side (wait.upTo passed) = bytesCame side wait.before ++ bytesCame side passed := by
  simp [upTo, bytesCame, Happening.bytesCame]

/-- A peer that can be read at some moment of a wait can be read at its end. -/
theorem isReadable_of_prefix (hduring : ∀ happening ∈ wait.during, happening.isOutside = true)
    (hread : bytesRead (deedsIn side wait.before) <+: bytesCame side wait.before)
    (hpassed : passed <+: wait.during) (h : IsReadable (wait.upTo passed) side) :
    IsReadable (wait.upTo wait.during) side := by
  obtain ⟨rest, hrest⟩ := hpassed
  rw [← hrest] at hduring ⊢
  have hlonger : wait.upTo (passed ++ rest) = wait.upTo passed ++ rest := by simp [upTo]
  obtain hdiffer | hfinished | hbroke := h
  · refine .inl fun hsame => hdiffer ?_
    rw [deedsIn_upTo hduring, bytesCame_upTo, bytesCame_append] at hsame
    rw [deedsIn_upTo fun happening hmem => hduring _ (List.mem_append_left rest hmem),
      bytesCame_upTo]
    -- all that was read had come before the wait
    obtain ⟨tail, htail⟩ := hread
    obtain ⟨hpassed, hrest, _⟩ :
        bytesCame side passed = [] ∧ bytesCame side rest = [] ∧ tail = [] := by
      simpa [hsame] using htail
    rw [hsame, hrest, List.append_nil]
  · exact .inr (.inl (hlonger ▸ List.mem_append_left rest hfinished))
  · exact .inr (.inr (hlonger ▸ List.mem_append_left rest hbroke))

namespace TimesOut

private theorem outside (h : wait.TimesOut limit) (houtside : happening.isOutside = true) :
    { wait with later := wait.later ++ [happening] }.TimesOut limit :=
  ⟨h.long, h.isOpen, h.quiet, h.during,
    List.forall_mem_append.2 ⟨h.later, List.forall_mem_singleton.2 houtside⟩⟩

private theorem deedsIn_history (h : wait.TimesOut limit) (side : Side) :
    deedsIn side wait.history = deedsIn side wait.before := by
  rw [history, deedsIn_append, deedsIn_upTo h.during]
  exact (congrArg _ (deedsIn_outside h.later)).trans (List.append_nil _)

/-- A direction that was open has not ended since. -/
theorem not_hasEnded (h : wait.TimesOut limit) : ∃ side, ¬ HasEnded wait.history side := by
  obtain ⟨side, hside⟩ := h.isOpen
  refine ⟨side, ?_⟩
  rwa [hasEnded_iff, h.deedsIn_history, ← hasEnded_iff]

end TimesOut

end IdleWait

namespace TunnelLoop

variable {limit bufferSize start : Nat} {loop loop' : TunnelLoop}
  {history more : List Happening} {happening : Happening} {side : Side}

/-! ## What is known between two waits -/

theorem Recorded.accounts_atHead (h : Recorded history loop) (hhead : loop.AtHead)
    (side : Side) : Transit.Accounts (deedsIn side history) (loop.transit side) none := by
  have haccounts := h.accounts side
  rwa [work?, hhead.1] at haccounts

theorem Recorded.isOpen_iff (h : Recorded history loop) (hhead : loop.AtHead) (side : Side) :
    (loop.relaying.tunnel.flow side).isOpen = true ↔ ¬ HasEnded history side := by
  rw [hasEnded_iff, Bool.not_eq_true]
  exact (h.accounts_atHead hhead side).isOpen_iff

theorem Recorded.shut_mem_iff (h : Recorded history loop) (hhead : loop.AtHead)
    (side : Side) : .did side .shut ∈ history ↔ HasEnded history side := by
  rw [← mem_deedsIn, hasEnded_iff]
  exact (h.accounts_atHead hhead side).shut_mem_iff

theorem Recorded.canBeRead_iff (h : Recorded history loop) (side : Side) :
    loop.CanBeRead side ↔ IsReadable history side := by
  have hcame : bytesRead (deedsIn side history) ++ (loop.lanes side).unread =
      bytesCame side history :=
    (h.accounts side).came.trans (h.came side)
  have hunread : (loop.lanes side).unread ≠ [] ↔
      bytesRead (deedsIn side history) ≠ bytesCame side history := by
    simp [← hcame]
  rw [CanBeRead, hunread, h.isEnded, h.broken, IsReadable]

private theorem Recorded.nothing_after_shut {before after : List Happening}
    (h : Recorded (before ++ .did side .shut :: after) loop) (deed : Flow.Deed) :
    .did side deed ∉ after := by
  have hdeeds : deedsIn side (before ++ .did side .shut :: after) =
      deedsIn side before ++ .shut :: deedsIn side after := by
    simp [deedsIn, Happening.deed?]
  have haccounts := h.accounts side
  rw [hdeeds] at haccounts
  rw [← mem_deedsIn, haccounts.nil_of_shut]
  exact List.not_mem_nil

private theorem after_after (loop : TunnelLoop) (side : Side) (transit last : Transit)
    (left next : Option Transit.Work) :
    (loop.after side transit left).after side last next = loop.after side last next := by
  simp [after]

private theorem timedOut_after (loop : TunnelLoop) (side : Side) (transit : Transit)
    (left : Option Transit.Work) :
    (loop.after side transit left).relaying.tunnel.timedOut =
      loop.relaying.tunnel.timedOut := by
  cases side <;> rfl

/-! ## The waits of the tunnel -/

/-- A step of the loop is one of the tunnel, or leaves the tunnel as it is. -/
theorem Step.relaying (h : Recorded history loop) (hstep : loop.Step limit more loop') :
    loop'.relaying = loop.relaying ∨
      Relaying.Step loop.lanes loop.relaying loop'.lanes loop'.relaying := by
  obtain ⟨lanes, broken, ⟨tunnel, buffer, current⟩, since, now⟩ := loop
  cases hstep with
  | idle hsince hlong hnone =>
      have hwaiting := h.waiting _ hsince
      obtain rfl : current = none := hwaiting.current
      exact .inr (.idle hwaiting.isOver)
  | ready side hsince hopen =>
      have hwaiting := h.waiting _ hsince
      obtain rfl : current = none := hwaiting.current
      refine .inr ?_
      simp only [after, transit, Function.update_eq_self, Tunnel.withFlow_flow]
      exact .ready side hwaiting.isOver hopen
  | unready side hsince hopen =>
      have hwaiting := h.waiting _ hsince
      obtain rfl : current = none := hwaiting.current
      refine .inr ?_
      simp only [after, transit, Transit.shut, Function.update_eq_self]
      exact .unready side hwaiting.isOver hopen
  | work hcurrent hdoes =>
      obtain rfl : current = _ := hcurrent
      exact .inr (.work hdoes.step)
  | _ => exact .inl rfl

private theorem traced_of_runs (h : (opened bufferSize).Runs limit history loop) :
    loop.relaying.Traced := by
  induction h with
  | here => exact ⟨[], rfl⟩
  | snoc hruns hstep ih =>
      obtain hsame | hrelaying := hstep.relaying (recorded_of_runs hruns)
      · rwa [hsame]
      · exact ih.step hrelaying

/-! ## When the tunnel is over -/

/-- A wait that ends for want of traffic was long enough, and nothing was to be read in it. -/
theorem Recorded.timesOut (h : Recorded history loop) (hsince : loop.since = some start)
    (hlong : start + limit ≤ loop.now)
    (hnone : ∀ side, (loop.relaying.tunnel.flow side).isOpen = true ->
      ¬ loop.CanBeRead side) :
    ∃ wait : IdleWait, history ++ [.idled loop.now] = wait.history ∧ wait.TimesOut limit := by
  have hwaiting := h.waiting start hsince
  obtain ⟨before, during, rfl, hduring, hread⟩ := hwaiting.began
  let wait : IdleWait := ⟨before, start, during, loop.now, []⟩
  have haccounts (side : Side) :
      Transit.Accounts (deedsIn side before) (loop.transit side) none := by
    have hdeeds : deedsIn side (before ++ .began start :: during) = deedsIn side before :=
      wait.deedsIn_upTo hduring
    have haccounts := h.accounts side
    rwa [work?, hwaiting.current, hdeeds] at haccounts
  have hopen (side : Side) : (loop.relaying.tunnel.flow side).isOpen = true ↔
      ¬ HasEnded before side := by
    rw [hasEnded_iff, Bool.not_eq_true]
    exact (haccounts side).isOpen_iff
  refine ⟨wait, rfl, hlong, ?_, fun side hside passed hpassed hreadable => ?_, hduring,
    List.forall_mem_nil _⟩
  · obtain ⟨_, side, hside⟩ := (Tunnel.isOver_eq_false_iff _).1 hwaiting.isOver
    exact ⟨side, (hopen side).1 hside⟩
  · have hlast := wait.isReadable_of_prefix hduring (hread side) hpassed hreadable
    exact hnone side ((hopen side).2 hside) ((h.canBeRead_iff side).2 hlast)

private theorem timesOut_of_runs (h : (opened bufferSize).Runs limit history loop)
    (htimedOut : loop.relaying.tunnel.timedOut = true) :
    loop.AtHead ∧ ∃ wait : IdleWait, history = wait.history ∧ wait.TimesOut limit := by
  induction h with
  | here => cases htimedOut
  | snoc hruns hstep ih =>
      have hrecorded := recorded_of_runs hruns
      cases hstep with
      | pass time =>
          rw [List.append_nil]
          exact ih htimedOut
      | arrive side bytes hended =>
          obtain ⟨hhead, wait, rfl, hwait⟩ := ih htimedOut
          exact ⟨hhead, _, wait.history_snoc, hwait.outside rfl⟩
      | finish side =>
          obtain ⟨hhead, wait, rfl, hwait⟩ := ih htimedOut
          exact ⟨hhead, _, wait.history_snoc, hwait.outside rfl⟩
      | fail side =>
          obtain ⟨hhead, wait, rfl, hwait⟩ := ih htimedOut
          exact ⟨hhead, _, wait.history_snoc, hwait.outside rfl⟩
      | begin hhead hover =>
          rw [Tunnel.isOver, htimedOut] at hover
          cases hover
      | idle hsince hlong hnone =>
          exact ⟨⟨(hrecorded.waiting _ hsince).current, rfl⟩,
            hrecorded.timesOut hsince hlong hnone⟩
      | ready side hsince hopen =>
          have hover := (hrecorded.waiting _ hsince).isOver
          rw [Tunnel.isOver, ← timedOut_after, htimedOut] at hover
          cases hover
      | unready side hsince hopen =>
          have hover := (hrecorded.waiting _ hsince).isOver
          rw [Tunnel.isOver, ← timedOut_after, htimedOut] at hover
          cases hover
      | work hcurrent hdoes =>
          rw [timedOut_after] at htimedOut
          cases hcurrent.symm.trans (ih htimedOut).1.1

/-! ## The direction that has not ended -/

/-- Reads and writes in a direction, one after another, are steps of the loop. -/
theorem runs_of_works {work : Transit.Work} {deeds : List Flow.Deed} {transit : Transit}
    {left : Option Transit.Work} (hcurrent : loop.relaying.current = some (side, work))
    (hsince : loop.since = none)
    (h : (loop.transit side).Works work deeds transit left) :
    loop.Runs limit (deeds.map (.did side)) (loop.after side transit left) := by
  induction h with
  | here =>
      have hsame : loop.after side (loop.transit side) (some work) = loop := by
        obtain ⟨lanes, broken, ⟨tunnel, buffer, current⟩, since, now⟩ := loop
        cases hcurrent
        cases hsince
        simp [after, TunnelLoop.transit]
      rw [hsame]
      exact .here
  | snoc _ hdoes ih =>
      rw [List.map_append, ← after_after loop side]
      exact ih.snoc (.work rfl (by rwa [transit_after_self]))

/--
A direction goes on: the tunnel is not over, what was read in the direction was
written, and steps of the tunnel can lead to a moment at which all has been
written that has come so far.
-/
structure GoesOn (limit : Nat) (history : List Happening) (loop : TunnelLoop) (side : Side) :
    Prop where
  isOver : loop.relaying.tunnel.isOver = false
  written : bytesWritten (deedsIn side history) = bytesRead (deedsIn side history)
  next : ∃ more loop', loop.Runs limit more loop' ∧ loop'.AtHead ∧
    ¬ HasEnded (history ++ more) side ∧
    bytesWritten (deedsIn side (history ++ more)) = bytesCame side history

private theorem goesOn_of_runs (h : (opened bufferSize).Runs limit history loop)
    (hhead : loop.AtHead) (htimedOut : loop.relaying.tunnel.timedOut = false)
    (hside : ¬ HasEnded history side) : loop.GoesOn limit history side := by
  have hrecorded := recorded_of_runs h
  have hopen := (hrecorded.isOpen_iff hhead side).2 hside
  have hover := (Tunnel.isOver_eq_false_iff _).2 ⟨htimedOut, side, hopen⟩
  have hgoing := (hrecorded.accounts_atHead hhead side).going hopen
  have hwritten : bytesRead (deedsIn side history) = bytesWritten (deedsIn side history) :=
    hgoing.read.trans (List.append_nil _)
  refine ⟨hover, hwritten.symm, ?_⟩
  by_cases hunread : (loop.lanes side).unread = []
  · refine ⟨[], loop, .here, hhead, by rwa [List.append_nil], ?_⟩
    have hcame := hgoing.came
    rw [show (loop.transit side).lane.unread = [] from hunread, List.append_nil] at hcame
    rw [List.append_nil, ← hwritten, hcame]
    exact hrecorded.came side
  · let probing := { loop with since := some loop.now }.after side
      (loop.transit side) (some .probing)
    have hprobing : loop.Runs limit ([.began loop.now] ++ [.did side .ready]) probing :=
      (Runs.here.snoc (.begin hhead hover)).snoc (.ready side rfl hopen)
    obtain ⟨deeds, transit, hworks, hnone, hstays, hcame⟩ :=
      (loop.transit side).exists_relayed hrecorded.buffer hunread
    have htransit : probing.transit side = loop.transit side := transit_after_self
    have hrelayed : loop.Runs limit _ (probing.after side transit none) :=
      hprobing.trans (runs_of_works rfl rfl (htransit.symm ▸ hworks))
    have hall := recorded_of_runs (h.trans hrelayed)
    have hlast : (probing.after side transit none).AtHead := ⟨rfl, rfl⟩
    have hgoing' := (hall.accounts_atHead hlast side).going
      (by rw [transit_after_self, hstays]; exact hopen)
    refine ⟨_, _, hrelayed, hlast, (hall.isOpen_iff hlast side).1 hgoing'.isOpen, ?_⟩
    have hread := hgoing'.read.trans (List.append_nil _)
    have hcame' := hgoing'.came
    rw [transit_after_self, hnone, List.append_nil, hcame] at hcame'
    rw [← hread, hcame']
    exact hrecorded.came side

/-! ## Closing halves -/

/-- The tunnel is over, by a wait that was too long or because both directions have ended. -/
structure Returns (loop : TunnelLoop) (timedOut : Bool) : Prop where
  atHead : loop.AtHead
  isOver : loop.relaying.tunnel.isOver = true
  timedOut : loop.relaying.tunnel.timedOut = timedOut

theorem returns_false_iff (h : (opened bufferSize).Runs limit history loop)
    (hhead : loop.AtHead) : loop.Returns false ↔ ∀ side, HasEnded history side := by
  have hopen := (recorded_of_runs h).isOpen_iff hhead
  refine ⟨fun hreturns side => ?_, fun hall => ⟨hhead, ?_, ?_⟩⟩
  · refine Classical.not_not.1 fun hside => ?_
    have hover := (Tunnel.isOver_eq_false_iff _).2
      ⟨hreturns.timedOut, side, (hopen side).2 hside⟩
    cases hreturns.isOver.symm.trans hover
  · rw [← Bool.not_eq_false]
    intro hover
    obtain ⟨_, side, hside⟩ := (Tunnel.isOver_eq_false_iff _).1 hover
    exact (hopen side).1 hside (hall side)
  · -- a tunnel that has waited too long has a direction that did not end
    refine Bool.eq_false_iff.2 fun htimedOut => ?_
    obtain ⟨_, wait, rfl, hwait⟩ := timesOut_of_runs h htimedOut
    obtain ⟨side, hside⟩ := hwait.not_hasEnded
    exact hside (hall side)

/-- The halves of a tunnel are shut as its directions end, and it ends when it should. -/
structure HalfCloses (limit : Nat) (history : List Happening) (loop : TunnelLoop) : Prop where
  /-- Between two waits, a direction was shut just when it has ended. -/
  shut_iff : loop.AtHead -> ∀ side, .did side .shut ∈ history ↔ HasEnded history side
  /-- After it was shut, nothing is done in the direction: it is not written, nor shut again. -/
  last {side before after} : history = before ++ .did side .shut :: after ->
    ∀ deed, .did side deed ∉ after
  /-- The tunnel counts how often it shuts a direction. -/
  shuts : ∀ side,
    (loop.relaying.tunnel.flow side).shuts = (deedsIn side history).count .shut
  written : ∀ side, (loop.lanes side).written = bytesWritten (deedsIn side history)
  /-- Between two waits, a direction that has not ended goes on. -/
  goesOn : loop.AtHead -> loop.relaying.tunnel.timedOut = false ->
    ∀ side, ¬ HasEnded history side -> loop.GoesOn limit history side
  returns_false_iff : loop.AtHead ->
    (loop.Returns false ↔ ∀ side, HasEnded history side)
  timesOut : loop.Returns true ->
    ∃ wait : IdleWait, history = wait.history ∧ wait.TimesOut limit
  /-- Between two waits, the tunnel is what its run over the waits so far leaves. -/
  waits : loop.AtHead -> ∃ waits, loop.relaying.tunnel = Tunnel.fresh.run waits

theorem halfCloses_of_runs (h : (opened bufferSize).Runs limit history loop) :
    loop.HalfCloses limit history where
  shut_iff hhead side := (recorded_of_runs h).shut_mem_iff hhead side
  last := by
    rintro side before after rfl deed
    exact (recorded_of_runs h).nothing_after_shut deed
  shuts side := ((recorded_of_runs h).accounts side).shuts_eq
  written side := ((recorded_of_runs h).accounts side).written.symm
  goesOn hhead htimedOut _ hside := goesOn_of_runs h hhead htimedOut hside
  returns_false_iff hhead := returns_false_iff h hhead
  timesOut hreturns := (timesOut_of_runs h hreturns.timedOut).2
  waits hhead := by
    have htraced := traced_of_runs h
    rwa [Relaying.Traced, hhead.1] at htraced

/-- The client has ended its stream at once, and the origin has kept silent. -/
def silentOrigin : List Happening :=
  [.finished .client, .began 0, .did .client .ready, .did .client .readEnd,
    .did .client .shut, .began 0, .idled 5000]

/-- One half of the tunnel is shut, and five seconds later it is over. -/
theorem halfCloses_of_silentOrigin :
    ∃ loop, (opened 1).Runs 5000 silentOrigin loop ∧ loop.Returns true ∧
      ¬ HasEnded silentOrigin .origin ∧ loop.HalfCloses 5000 silentOrigin := by
  have hfinished : (opened 1).Runs 5000 _ _ := Runs.here.snoc (.finish .client)
  have hready := (hfinished.snoc (.begin ⟨rfl, rfl⟩ rfl)).snoc (.ready .client rfl rfl)
  have hshut := hready.snoc (.work rfl (.probeEnded ⟨rfl, rfl⟩))
  have hwaited := (hshut.snoc (.begin ⟨rfl, rfl⟩ rfl)).snoc (.pass 5000)
  have hover := hwaited.snoc (.idle rfl (by decide) fun side hopen hcan => by
    cases side with
    | client => cases hopen
    | origin =>
        obtain hunread | hended | hbroken := hcan
        · exact hunread rfl
        · cases hended
        · cases hbroken)
  exact ⟨_, hover, ⟨⟨rfl, rfl⟩, rfl, rfl⟩, by simp [HasEnded, silentOrigin],
    halfCloses_of_runs hover⟩

end TunnelLoop

end Intermediary
