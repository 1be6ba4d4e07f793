import Intermediary.Proofs.Tunnel.Session

/-!
# What a session delivers

In each direction the bytes that came are, in their order, those that were
taken, those that are in the buffer, and those that were not read; and the
bytes that were written are those that were given, and some of those that are
in the buffer.  Every single read and write keeps this.
-/

namespace Intermediary

/-! ## One direction -/

namespace Flow

variable (flow : Flow) (piece : Bytes) (sent : Nat)

@[simp] theorem bytesTaken_moved :
    (flow.transfer (.moved piece)).bytesTaken = flow.bytesTaken ++ piece := by
  simp [transfer, bytesTaken]

@[simp] theorem bytesGiven_moved :
    (flow.transfer (.moved piece)).bytesGiven = flow.bytesGiven ++ piece := by
  simp [transfer, bytesGiven]

@[simp] theorem bytesTaken_broken :
    (flow.transfer (.broken piece sent)).bytesTaken = flow.bytesTaken ++ piece := by
  simp [transfer, bytesTaken]

@[simp] theorem bytesGiven_broken :
    (flow.transfer (.broken piece sent)).bytesGiven =
      flow.bytesGiven ++ piece.take sent := by
  simp [transfer, bytesGiven]

end Flow

/--
A direction carries what comes to where it leads, after `start` was written
there and `later` was read ahead.  The buffer holds `piece`, of which `part` was
written.
-/
structure Carries (start later : Bytes) (lane : Lane) (flow : Flow)
    (piece part : Bytes) : Prop where
  read : flow.bytesTaken ++ (piece ++ lane.unread) = later ++ lane.came
  wrote : lane.written = start ++ (flow.bytesGiven ++ part)
  begins : flow.bytesGiven <+: flow.bytesTaken
  whole : flow.isOpen = true ∨ lane.endRead = true ->
    flow.bytesGiven = flow.bytesTaken ∧ flow.moved = flow.bytesGiven.length
  ended : lane.endRead = true -> lane.atEnd

structure Settled (start later : Bytes) (lane : Lane) (flow : Flow) : Prop where
  carries : Carries start later lane flow [] []
  goesOn : flow.isOpen = true -> lane.endRead = false

/-- A direction that is open, and whose end was not read. -/
structure Active (start later : Bytes) (transit : Transit) (piece part : Bytes) : Prop where
  carries : Carries start later transit.lane transit.flow piece part
  isOpen : transit.flow.isOpen = true
  goesOn : transit.lane.endRead = false

def UnderWork (start later : Bytes) (transit : Transit) : Transit.Work -> Prop
  | .probing | .draining => Active start later transit [] []
  | .writing size sent =>
      Active start later transit (transit.buffer.take size) (transit.buffer.take sent) ∧
        sent ≤ size
  | .flushing stillOpen =>
      Carries start later transit.lane transit.flow [] [] ∧
        (stillOpen = true -> transit.lane.endRead = false)

section Direction

variable {start later piece part : Bytes} {lane : Lane} {flow : Flow} {transit : Transit}

private theorem Carries.shut (h : Carries start later lane flow piece part) :
    Carries start later lane flow.shut piece part where
  read := h.read
  wrote := h.wrote
  begins := h.begins
  whole hend := by
    obtain hopen | hend := hend
    · cases hopen
    · exact h.whole (.inr hend)
  ended := h.ended

private theorem Carries.settled_shut (h : Carries start later lane flow [] []) :
    Settled start later lane flow.shut :=
  ⟨h.shut, fun hopen => by cases hopen⟩

private theorem Active.settled (h : Active start later transit [] []) :
    Settled start later transit.lane transit.flow :=
  ⟨h.carries, fun _ => h.goesOn⟩

private theorem Active.readEnd (h : Active start later transit [] []) (hend : transit.lane.atEnd) :
    Carries start later transit.lane.readEnd transit.flow [] [] where
  read := h.carries.read
  wrote := h.carries.wrote
  begins := h.carries.begins
  whole _ := h.carries.whole (.inl h.isOpen)
  ended _ := hend

private theorem Active.load (h : Active start later transit [] []) {size : Nat}
    (hsize : size ≤ transit.lane.unread.length) :
    UnderWork start later (transit.load size) (.writing size 0) := by
  have hpiece : (transit.load size).buffer.take size = transit.lane.unread.take size :=
    List.take_left' (List.length_take_of_le hsize)
  refine ⟨⟨?_, h.isOpen, h.goesOn⟩, Nat.zero_le _⟩
  rw [hpiece, List.take_zero]
  exact {
    read := by
      have hread := h.carries.read
      simpa [Transit.load, Lane.read] using hread
    wrote := h.carries.wrote
    begins := h.carries.begins
    whole := h.carries.whole
    ended := fun hend => by cases h.goesOn.symm.trans hend }

private theorem Active.pass {size sent : Nat}
    (h : Active start later transit (transit.buffer.take size) (transit.buffer.take sent))
    (count : Nat) :
    Active start later (transit.pass sent count) (transit.buffer.take size)
      (transit.buffer.take (sent + count)) where
  carries :=
    { read := h.carries.read
      wrote := by
        simp [Transit.pass, Lane.write, h.carries.wrote, List.take_add]
      begins := h.carries.begins
      whole := h.carries.whole
      ended := h.carries.ended }
  isOpen := h.isOpen
  goesOn := h.goesOn

private theorem Active.moved (h : Active start later transit piece piece) :
    Active start later (transit.moved (.moved piece)) [] [] where
  carries :=
    { read := by
        have hread := h.carries.read
        simpa [Transit.moved] using hread
      wrote := by
        have hwrote := h.carries.wrote
        simpa [Transit.moved] using hwrote
      begins := by
        obtain ⟨hsame, _⟩ := h.carries.whole (.inl h.isOpen)
        simp [Transit.moved, hsame]
      whole := fun _ => by
        obtain ⟨hsame, hmoved⟩ := h.carries.whole (.inl h.isOpen)
        refine ⟨by simp [Transit.moved, hsame], ?_⟩
        simp [Transit.moved, Flow.transfer, hmoved, Flow.bytesGiven]
      ended := h.carries.ended }
  isOpen := h.isOpen
  goesOn := h.goesOn

private theorem Active.broken {sent : Nat}
    (h : Active start later transit piece (piece.take sent)) :
    Settled start later transit.lane (transit.moved (.broken piece sent)).shut.flow where
  carries :=
    { read := by
        have hread := h.carries.read
        change (transit.flow.transfer (.broken piece sent)).bytesTaken ++ ([] ++ _) = _
        simpa using hread
      wrote := by
        have hwrote := h.carries.wrote
        change _ = start ++ ((transit.flow.transfer (.broken piece sent)).bytesGiven ++ [])
        simpa using hwrote
      begins := by
        obtain ⟨hsame, _⟩ := h.carries.whole (.inl h.isOpen)
        change (transit.flow.transfer (.broken piece sent)).bytesGiven <+:
          (transit.flow.transfer (.broken piece sent)).bytesTaken
        simp [hsame, List.take_prefix]
      whole := fun hend => by
        obtain hopen | hend := hend
        · cases hopen
        · cases h.goesOn.symm.trans hend
      ended := h.carries.ended }
  goesOn hopen := by cases hopen

/-- One read or write keeps what a direction carries. -/
theorem UnderWork.step {work : Transit.Work} {transit' : Transit}
    {left : Option Transit.Work} (h : UnderWork start later transit work)
    (hstep : transit.Step work transit' left) :
    match left with
    | none => Settled start later transit'.lane transit'.flow
    | some work' => UnderWork start later transit' work' := by
  cases hstep with
  | probeBlocked => exact h.settled
  | probeFailed => exact h.carries.settled_shut
  | probeEnded hend => exact (h.readEnd hend).settled_shut
  | probed hunread => exact h.load (List.length_pos_iff.2 hunread)
  | wrote count hcount => exact ⟨h.1.pass count, hcount⟩
  | writeDone => exact h.1.moved
  | @writeFailed size sent =>
      obtain ⟨hactive, hsent⟩ := h
      have hpart : (transit.buffer.take size).take sent = transit.buffer.take sent := by
        rw [List.take_take, Nat.min_eq_left hsent]
      exact Active.broken (hpart ▸ hactive)
  | drained size hpos hsize hunread => exact h.load hunread
  | drainBlocked => exact ⟨h.carries, fun _ => h.goesOn⟩
  | drainFailed => exact ⟨h.carries, nofun⟩
  | drainEnded hend => exact ⟨h.readEnd hend, nofun⟩
  | flushed => exact ⟨h.1, fun _ => h.2 rfl⟩
  | flushShut => exact h.1.settled_shut

end Direction

/-! ## What comes meanwhile -/

/-- More has come from the peer of a direction, or its stream has ended. -/
structure Lane.Grows (lane lane' : Lane) : Prop where
  bytes : ∃ bytes, lane'.came = lane.came ++ bytes ∧ lane'.unread = lane.unread ++ bytes ∧
    (lane.isEnded = true -> bytes = [])
  isEnded : lane.isEnded = true -> lane'.isEnded = true
  endRead : lane'.endRead = lane.endRead
  written : lane'.written = lane.written

namespace Lane

theorem Grows.refl (lane : Lane) : lane.Grows lane :=
  ⟨⟨[], by simp, by simp, fun _ => rfl⟩, id, rfl, rfl⟩

theorem grows_arrive {lane : Lane} (h : lane.isEnded = false) (bytes : Bytes) :
    lane.Grows (lane.arrive bytes) :=
  ⟨⟨bytes, rfl, rfl, fun hend => by cases h.symm.trans hend⟩, id, rfl, rfl⟩

theorem grows_finish (lane : Lane) : lane.Grows { lane with isEnded := true } :=
  ⟨⟨[], by simp, by simp, fun _ => rfl⟩, fun _ => rfl, rfl, rfl⟩

end Lane

section Grows

variable {start later piece part : Bytes} {lane lane' : Lane} {flow : Flow}
  {buffer : Bytes}

theorem Carries.grows (h : Carries start later lane flow piece part)
    (hgrows : lane.Grows lane') : Carries start later lane' flow piece part := by
  obtain ⟨bytes, hcame, hunread, hnone⟩ := hgrows.bytes
  exact {
    read := by
      have hread := congrArg (· ++ bytes) h.read
      simpa [hcame, hunread] using hread
    wrote := hgrows.written.trans h.wrote
    begins := h.begins
    whole := hgrows.endRead ▸ h.whole
    ended := fun hend => by
      obtain ⟨hempty, hended⟩ := h.ended (hgrows.endRead ▸ hend)
      exact ⟨by rw [hunread, hempty, hnone hended]; rfl, hgrows.isEnded hended⟩ }

private theorem Settled.grows (h : Settled start later lane flow) (hgrows : lane.Grows lane') :
    Settled start later lane' flow :=
  ⟨h.carries.grows hgrows, hgrows.endRead ▸ h.goesOn⟩

private theorem Active.grows (h : Active start later ⟨lane, flow, buffer⟩ piece part)
    (hgrows : lane.Grows lane') : Active start later ⟨lane', flow, buffer⟩ piece part :=
  ⟨h.carries.grows hgrows, h.isOpen, hgrows.endRead.trans h.goesOn⟩

private theorem UnderWork.grows {work : Transit.Work}
    (h : UnderWork start later ⟨lane, flow, buffer⟩ work) (hgrows : lane.Grows lane') :
    UnderWork start later ⟨lane', flow, buffer⟩ work := by
  cases work with
  | probing => exact Active.grows h hgrows
  | writing size sent => exact ⟨Active.grows h.1 hgrows, h.2⟩
  | draining => exact Active.grows h hgrows
  | flushing stillOpen =>
      exact ⟨h.1.grows hgrows, fun hopen => hgrows.endRead.trans (h.2 hopen)⟩

end Grows

/-! ## Both directions -/

namespace Tunnel

@[simp] theorem flow_withFlow_self (tunnel : Tunnel) (flow : Flow) (side : Side) :
    (tunnel.withFlow flow side).flow side = flow := by
  cases side <;> rfl

theorem flow_withFlow_of_ne (tunnel : Tunnel) (flow : Flow) {side other : Side}
    (h : other ≠ side) : (tunnel.withFlow flow side).flow other = tunnel.flow other := by
  cases side <;> cases other <;> first | rfl | exact absurd rfl h

end Tunnel

/-- Every direction carries what comes to where it leads. -/
structure Relaying.Sound (starts laters : Side -> Bytes) (lanes : Side -> Lane)
    (relaying : Relaying) : Prop where
  settled : ∀ side, (∀ work, relaying.current ≠ some (side, work)) ->
    Settled (starts side) (laters side) (lanes side) (relaying.tunnel.flow side)
  current : ∀ side work, relaying.current = some (side, work) ->
    UnderWork (starts side) (laters side)
      ⟨lanes side, relaying.tunnel.flow side, relaying.buffer⟩ work

namespace Relaying

variable {starts laters : Side -> Bytes} {lanes lanes' : Side -> Lane}
  {relaying relaying' : Relaying}

theorem Sound.grows (h : relaying.Sound starts laters lanes)
    (hgrows : ∀ side, (lanes side).Grows (lanes' side)) :
    relaying.Sound starts laters lanes' where
  settled side hside := (h.settled side hside).grows (hgrows side)
  current side work hwork := (h.current side work hwork).grows (hgrows side)

theorem Sound.step (h : relaying.Sound starts laters lanes)
    (hstep : Step lanes relaying lanes' relaying') :
    relaying'.Sound starts laters lanes' := by
  cases hstep with
  | idle hover =>
      refine ⟨fun side _ => ?_, nofun⟩
      cases side
      · exact h.settled .client nofun
      · exact h.settled .origin nofun
  | ready side hover hopen =>
      refine ⟨fun other _ => h.settled other nofun, fun other work hwork => ?_⟩
      cases hwork
      have hsettled := h.settled side nofun
      exact ⟨hsettled.carries, hopen, hsettled.goesOn hopen⟩
  | @unready tunnel buffer side hover hopen =>
      refine ⟨fun other _ => ?_, nofun⟩
      by_cases hother : other = side
      · subst hother
        rw [Tunnel.flow_withFlow_self]
        exact (h.settled other nofun).carries.settled_shut
      · rw [Tunnel.flow_withFlow_of_ne _ _ hother]
        exact h.settled other nofun
  | @work tunnel buffer side work transit left hwork =>
      have hnext := (h.current side work rfl).step hwork
      refine ⟨fun other hquiet => ?_, fun other work' hwork' => ?_⟩
      · by_cases hother : other = side
        · subst hother
          rw [Function.update_self, Tunnel.flow_withFlow_self]
          cases left with
          | none => exact hnext
          | some work' => exact absurd rfl (hquiet work')
        · rw [Function.update_of_ne hother, Tunnel.flow_withFlow_of_ne _ _ hother]
          refine h.settled other fun work' heq => hother ?_
          exact congrArg Prod.fst (Option.some.inj heq).symm
      · obtain ⟨work'', rfl, heq⟩ := Option.map_eq_some_iff.1 hwork'
        cases heq
        rw [Function.update_self, Tunnel.flow_withFlow_self]
        exact hnext

end Relaying

end Intermediary
