import Intermediary.Tunnel

/-!
# What a tunnel passes on

A direction of a tunnel writes what it reads, in order and unchanged, up to the
piece whose writing fails; after that piece it is shut.
-/

namespace Intermediary

namespace Flow

/-- What was written is the beginning of what was read, and all of it while open. -/
structure Faithful (flow : Flow) : Prop where
  given_begins : flow.bytesGiven <+: flow.bytesTaken
  given_eq : flow.isOpen = true -> flow.bytesGiven = flow.bytesTaken

private theorem faithful_fresh : fresh.Faithful where
  given_begins := List.prefix_refl _
  given_eq _ := rfl

private theorem Faithful.shut {flow : Flow} (h : flow.Faithful) : flow.shut.Faithful where
  given_begins := h.given_begins
  given_eq hopen := by cases hopen

private theorem faithful_moved {flow : Flow} (h : flow.bytesGiven = flow.bytesTaken)
    (piece : Bytes) :
    (flow.transfer (.moved piece)).bytesGiven =
      (flow.transfer (.moved piece)).bytesTaken := by
  simp only [bytesGiven, bytesTaken] at h
  simp [transfer, bytesGiven, bytesTaken, h]

private theorem faithful_broken {flow : Flow} (h : flow.bytesGiven = flow.bytesTaken)
    (piece : Bytes) (written : Nat) :
    (flow.transfer (.broken piece written)).bytesGiven <+:
      (flow.transfer (.broken piece written)).bytesTaken := by
  simp only [bytesGiven, bytesTaken] at h
  simp [transfer, bytesGiven, bytesTaken, h, List.take_prefix]

private theorem faithful_relay {flow : Flow} (h : flow.Faithful) (hopen : flow.isOpen = true)
    (transfers : List Transfer) : (flow.relay transfers).Faithful := by
  induction transfers generalizing flow with
  | nil => exact h
  | cons first rest ih =>
      have hequal := h.given_eq hopen
      cases first with
      | moved piece =>
          have hmoved := faithful_moved hequal piece
          exact ih ⟨hmoved ▸ List.prefix_refl _, fun _ => hmoved⟩ hopen
      | broken piece written =>
          exact ⟨faithful_broken hequal piece written, fun hclosed => by cases hclosed⟩
      | nothing => exact h
      | ended => exact h.shut
      | failed => exact h.shut

end Flow

namespace Tunnel

def Faithful (tunnel : Tunnel) : Prop :=
  ∀ side, (tunnel.flow side).Faithful

theorem faithful_fresh : fresh.Faithful := by
  intro side
  cases side <;> exact Flow.faithful_fresh

theorem faithful_step {tunnel : Tunnel} (h : tunnel.Faithful) (next : Wait) :
    (tunnel.step next).Faithful := by
  cases next with
  | idle =>
      intro side
      cases side
      · exact h .client
      · exact h .origin
  | ready side transfers =>
      by_cases hopen : (tunnel.flow side).isOpen = true
      · have hrelay := Flow.faithful_relay (h side) hopen transfers
        simp only [step, if_pos hopen]
        intro other
        cases side <;> cases other
        · exact hrelay
        · exact h .origin
        · exact h .client
        · exact hrelay
      · simp only [step, if_neg hopen]
        exact h

theorem faithful_run {tunnel : Tunnel} (h : tunnel.Faithful) (waits : List Wait) :
    (tunnel.run waits).Faithful := by
  induction waits generalizing tunnel with
  | nil => exact h
  | cons next rest ih =>
      unfold run
      split
      · exact h
      · exact ih (faithful_step h next)

end Tunnel

end Intermediary
