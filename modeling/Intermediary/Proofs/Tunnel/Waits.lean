import Intermediary.Proofs.Tunnel.Delivery

/-!
# The waits of a session

The single reads and writes of a tunnel that is run group into waits, each with
the attempts to move bytes that follow it.  What is left of a tunnel between
two waits is what its run over those waits leaves.
-/

namespace Intermediary

theorem Flow.relay_append (flow : Flow) (pieces : List Bytes) (rest : List Transfer) :
    flow.relay (pieces.map .moved ++ rest) = (flow.relay (pieces.map .moved)).relay rest := by
  induction pieces generalizing flow with
  | nil => rfl
  | cons piece pieces ih => exact ih _

namespace Tunnel

theorem run_snoc {tunnel : Tunnel} {waits : List Wait} (last : Wait)
    (h : (tunnel.run waits).isOver = false) :
    tunnel.run (waits ++ [last]) = (tunnel.run waits).step last := by
  induction waits generalizing tunnel with
  | nil =>
      have hover : tunnel.isOver = false := h
      simp [run, hover]
  | cons first waits ih =>
      cases hover : tunnel.isOver with
      | true => simp [run, hover] at h
      | false =>
          simp only [run, hover, Bool.false_eq_true, if_false, List.cons_append] at h ⊢
          exact ih h

private theorem step_ready {tunnel : Tunnel} {side : Side} (transfers : List Transfer)
    (h : (tunnel.flow side).isOpen = true) :
    tunnel.step (.ready side transfers) =
      tunnel.withFlow ((tunnel.flow side).relay transfers) side :=
  if_pos h

@[simp] theorem withFlow_withFlow (tunnel : Tunnel) (flow other : Flow) (side : Side) :
    (tunnel.withFlow flow side).withFlow other side = tunnel.withFlow other side := by
  cases side <;> rfl

@[simp] theorem withFlow_flow (tunnel : Tunnel) (side : Side) :
    tunnel.withFlow (tunnel.flow side) side = tunnel := by
  cases side <;> rfl

end Tunnel

/-- A read or write is an attempt to move bytes, and moves them where more work is left. -/
theorem Transit.Step.flow {transit transit' : Transit} {work : Transit.Work}
    {left : Option Transit.Work} (h : transit.Step work transit' left) :
    ∃ transfers, transit'.flow = transit.flow.relay transfers ∧
      (left.isSome = true -> ∃ pieces, transfers = List.map Transfer.moved pieces) := by
  cases h with
  | probeBlocked => exact ⟨[], rfl, nofun⟩
  | probeFailed => exact ⟨[.failed], rfl, nofun⟩
  | probeEnded _ => exact ⟨[.ended], rfl, nofun⟩
  | probed _ => exact ⟨[], rfl, fun _ => ⟨[], rfl⟩⟩
  | wrote _ _ => exact ⟨[], rfl, fun _ => ⟨[], rfl⟩⟩
  | @writeDone size =>
      exact ⟨[.moved (transit.buffer.take size)], rfl, fun _ => ⟨[_], rfl⟩⟩
  | @writeFailed size sent =>
      exact ⟨[.broken (transit.buffer.take size) sent], rfl, nofun⟩
  | drained _ _ _ _ => exact ⟨[], rfl, fun _ => ⟨[], rfl⟩⟩
  | drainBlocked => exact ⟨[], rfl, fun _ => ⟨[], rfl⟩⟩
  | drainFailed => exact ⟨[], rfl, fun _ => ⟨[], rfl⟩⟩
  | drainEnded _ => exact ⟨[], rfl, fun _ => ⟨[], rfl⟩⟩
  | flushed => exact ⟨[], rfl, nofun⟩
  | flushShut => exact ⟨[.failed], rfl, nofun⟩

/--
A tunnel that is run is what some waits leave; in the midst of the work on a
direction some pieces were moved after the last of them.
-/
def Relaying.Traced (relaying : Relaying) : Prop :=
  match relaying.current with
  | none => ∃ waits, relaying.tunnel = Tunnel.fresh.run waits
  | some (side, _) =>
      ∃ (waits : List Wait) (pieces : List Bytes), (Tunnel.fresh.run waits).isOver = false ∧
        ((Tunnel.fresh.run waits).flow side).isOpen = true ∧
        relaying.tunnel = (Tunnel.fresh.run waits).withFlow
          (((Tunnel.fresh.run waits).flow side).relay (pieces.map .moved)) side

theorem Relaying.Traced.step {relaying relaying' : Relaying} {lanes lanes' : Side -> Lane}
    (h : relaying.Traced) (hstep : Relaying.Step lanes relaying lanes' relaying') :
    relaying'.Traced := by
  cases hstep with
  | idle hover =>
      obtain ⟨waits, rfl⟩ := h
      exact ⟨waits ++ [.idle], (Tunnel.run_snoc .idle hover).symm⟩
  | ready side hover hopen =>
      obtain ⟨waits, rfl⟩ := h
      exact ⟨waits, [], hover, hopen, (Tunnel.withFlow_flow _ side).symm⟩
  | unready side hover hopen =>
      obtain ⟨waits, rfl⟩ := h
      refine ⟨waits ++ [.ready side [.failed]], ?_⟩
      rw [Tunnel.run_snoc _ hover, Tunnel.step_ready _ hopen]
      rfl
  | @work tunnel buffer side work transit left hwork =>
      obtain ⟨waits, pieces, hover, hopen, rfl⟩ := h
      obtain ⟨transfers, hflow, hmoved⟩ := hwork.flow
      rw [Tunnel.flow_withFlow_self, ← Flow.relay_append] at hflow
      cases left with
      | none =>
          refine ⟨waits ++ [.ready side (pieces.map .moved ++ transfers)], ?_⟩
          rw [Tunnel.run_snoc _ hover, Tunnel.step_ready _ hopen, ← hflow]
          exact Tunnel.withFlow_withFlow _ _ _ side
      | some left =>
          obtain ⟨more, rfl⟩ := hmoved rfl
          refine ⟨waits, pieces ++ more, hover, hopen, ?_⟩
          rw [List.map_append, ← hflow]
          exact Tunnel.withFlow_withFlow _ _ _ side

/-- Between two waits, a tunnel that is run is what its run over the waits so far leaves. -/
theorem TunnelSession.Reaches.traced {fromClient fromOrigin : Held} {bufferSize : Nat}
    {session : TunnelSession}
    (h : TunnelSession.Reaches bufferSize (.opened fromClient fromOrigin) session)
    {relaying : Relaying} {next : Relayed -> Serving Unit}
    (hstage : session.stage = .relaying relaying next) : relaying.Traced := by
  induction h generalizing relaying next with
  | here => cases hstage
  | snoc _ hstep ih =>
      cases hstep with
      | arrive _ _ _ => exact ih hstage
      | finish _ => exact ih hstage
      | relay _ =>
          cases hstage
          exact ⟨[], rfl⟩
      | pass hbefore hstep' =>
          cases hstage
          exact (ih hbefore).step hstep'
      | _ => cases hstage

end Intermediary
