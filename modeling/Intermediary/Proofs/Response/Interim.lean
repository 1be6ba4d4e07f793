import Intermediary.Proofs.Message.Reading

/-!
# Waiting for a final response

Interim responses are dropped one head at a time, and nothing of them is kept for
what follows.  A stream is therefore read as what stands behind the interim heads
at its front, and since each of them takes a part of the stream there is a first
head that is not interim, or none that can be read.
-/

namespace Intermediary

open StreamReader

namespace Response

def AnnouncesAnother (status : Status) : Prop :=
  100 ≤ status.code ∧ status.code < 200 ∧ status.code ≠ 101

instance (status : Status) : Decidable (AnnouncesAnother status) :=
  inferInstanceAs (Decidable (_ ∧ _ ∧ _))

structure IsInterimHead (limits : Limits) (bytes : Bytes) (head : Response) : Prop where
  read : readHead limits bytes = .ok (head, [])
  interim : AnnouncesAnother head.status

/-- What the wait comes to on a stream at whose front no interim head stands. -/
inductive Ends (limits : Limits) (method : Method) (stream : Bytes) :
    Except MessageError (Response × Bytes) -> Prop where
  /-- The first head there is final, and its payload is read. -/
  | final {head : Response} {rest : Bytes}
      (hread : readHead limits stream = .ok (head, rest))
      (hfinal : ¬ AnnouncesAnother head.status) :
      Ends limits method stream (readPayload limits method head rest)
  | failed {e : MessageError} (hread : readHead limits stream = .error e) :
      Ends limits method stream (.error e)

theorem isInterim_iff (head : Response) :
    head.isInterim = true ↔ AnnouncesAnother head.status := by
  simp [isInterim, Status.isInformational, AnnouncesAnother, and_assoc]

variable {limits : Limits} {method : Method}

/-! ## One head -/

private theorem read_of_head {stream rest : Bytes} {head : Response}
    (h : readHead limits stream = .ok (head, rest)) :
    read limits method stream =
      if head.isInterim then read limits method rest
      else readPayload limits method head rest := by
  conv => lhs; rw [read_eq]
  simp only [andThen, h]
  split <;> rfl

private theorem read_of_head_error {stream : Bytes} {e : MessageError}
    (h : readHead limits stream = .error e) : read limits method stream = .error e := by
  rw [read_eq]
  simp only [andThen, h]

theorem IsInterimHead.ne_nil {bytes : Bytes} {head : Response}
    (h : IsInterimHead limits bytes head) : bytes ≠ [] := by
  intro hnil
  have hlength := readHead_length_lt h.read
  rw [hnil] at hlength
  exact Nat.lt_irrefl _ hlength

/-- An interim head is dropped from the front of whatever stream it stands on. -/
theorem IsInterimHead.read_append {bytes : Bytes} {head : Response}
    (h : IsInterimHead limits bytes head) (stream : Bytes) :
    Response.read limits method (bytes ++ stream) = Response.read limits method stream := by
  obtain ⟨taken, htaken, hall⟩ := (settledOn_readHead limits bytes).accepted h.read
  rw [List.append_nil] at htaken
  have hhead : readHead limits (bytes ++ stream) = .ok (head, stream) := by
    rw [htaken]
    exact hall stream
  rw [read_of_head hhead, if_pos ((isInterim_iff head).2 h.interim)]

/-- A head that is read is cut off its stream, and by itself it is read as well. -/
private theorem exists_taken_of_readHead {stream rest : Bytes} {head : Response}
    (h : readHead limits stream = .ok (head, rest)) :
    ∃ taken, stream = taken ++ rest ∧ readHead limits taken = .ok (head, []) := by
  obtain ⟨taken, htaken, hall⟩ := (settledOn_readHead limits stream).accepted h
  refine ⟨taken, htaken, ?_⟩
  have halone := hall []
  rwa [List.append_nil] at halone

/-! ## Any number of heads -/

theorem read_flatten_append {heads : List Bytes}
    (h : ∀ bytes ∈ heads, ∃ head, IsInterimHead limits bytes head) (stream : Bytes) :
    read limits method (heads.flatten ++ stream) = read limits method stream := by
  induction heads with
  | nil => rfl
  | cons bytes heads ih =>
      obtain ⟨⟨head, hhead⟩, hheads⟩ := List.forall_mem_cons.1 h
      rw [List.flatten_cons, List.append_assoc, hhead.read_append, ih hheads]

private theorem length_le_length_flatten {heads : List Bytes}
    (h : ∀ bytes ∈ heads, ∃ head, IsInterimHead limits bytes head) :
    heads.length ≤ heads.flatten.length := by
  induction heads with
  | nil => exact Nat.le_refl _
  | cons bytes heads ih =>
      obtain ⟨⟨head, hhead⟩, hheads⟩ := List.forall_mem_cons.1 h
      have hpos := List.length_pos_iff.2 hhead.ne_nil
      have hrest := ih hheads
      rw [List.flatten_cons, List.length_append, List.length_cons]
      omega

/-- Every stream is some interim heads and then a place where the wait is over. -/
private theorem exists_ends (limits : Limits) (method : Method) (stream : Bytes) :
    ∃ (heads : List Bytes) (rest : Bytes), stream = heads.flatten ++ rest ∧
      (∀ bytes ∈ heads, ∃ head, IsInterimHead limits bytes head) ∧
      Ends limits method rest (read limits method stream) := by
  -- What is left behind an interim head is shorter than the stream.
  induction hlength : stream.length using Nat.strong_induction_on generalizing stream with
  | _ n ih =>
      cases hread : readHead limits stream with
      | error e =>
          rw [read_of_head_error hread]
          exact ⟨[], stream, rfl, List.forall_mem_nil _, .failed hread⟩
      | ok found =>
          obtain ⟨head, after⟩ := found
          rw [read_of_head hread]
          by_cases hinterim : AnnouncesAnother head.status
          · rw [if_pos ((isInterim_iff head).2 hinterim)]
            obtain ⟨taken, htaken, halone⟩ := exists_taken_of_readHead hread
            have hshorter : after.length < n := hlength ▸ readHead_length_lt hread
            obtain ⟨heads, rest, hafter, hheads, hends⟩ := ih _ hshorter after rfl
            refine ⟨taken :: heads, rest, ?_, ?_, hends⟩
            · rw [htaken, hafter, List.flatten_cons, List.append_assoc]
            · exact List.forall_mem_cons.2 ⟨⟨head, halone, hinterim⟩, hheads⟩
          · rw [if_neg (mt (isInterim_iff head).1 hinterim)]
            exact ⟨[], stream, rfl, List.forall_mem_nil _, .final hread hinterim⟩

/--
Interim responses are invisible: in front of any stream they change neither the
response, nor the error, nor what is left unread.  And the wait ends: after at most
as many interim heads as the stream has bytes it comes to a final head, whose
response is the one that is read, or to a head that cannot be read.
-/
theorem waits_for_final (limits : Limits) (method : Method) :
    (∀ heads : List Bytes, (∀ bytes ∈ heads, ∃ head, IsInterimHead limits bytes head) ->
      ∀ stream, read limits method (heads.flatten ++ stream) = read limits method stream) ∧
    ∀ stream, ∃ (heads : List Bytes) (rest : Bytes), stream = heads.flatten ++ rest ∧
      (∀ bytes ∈ heads, ∃ head, IsInterimHead limits bytes head) ∧
      heads.length ≤ stream.length ∧
      Ends limits method rest (read limits method stream) := by
  refine ⟨fun heads hheads => read_flatten_append hheads, fun stream => ?_⟩
  obtain ⟨heads, rest, hsplit, hheads, hends⟩ := exists_ends limits method stream
  refine ⟨heads, rest, hsplit, hheads, ?_, hends⟩
  have hcount := length_le_length_flatten hheads
  rw [hsplit, List.length_append]
  omega

/-- Two interim heads, whose headers announce payloads that do not come. -/
def interimHeads : List Bytes :=
  [Bytes.ofText "HTTP/1.1 100 Continue\r\nContent-Length: 5\r\n\r\n",
    Bytes.ofText "HTTP/1.1 103 Soon\nTransfer-Encoding: chunked\n\n"]

/-- The heads are dropped before a response that switches protocols. -/
theorem waits_for_final_switching :
    (∀ bytes ∈ interimHeads, ∃ head, IsInterimHead .default bytes head) ∧
      read .default .get (interimHeads.flatten ++
          Bytes.ofText "HTTP/1.1 101 Switching\r\nContent-Length: 5\r\n\r\nhello") =
        .ok (⟨"HTTP/1.1", ⟨101⟩, ⟨[⟨"Content-Length", "5"⟩]⟩, .empty⟩,
          Bytes.ofText "hello") := by
  have hheads : ∀ bytes ∈ interimHeads, ∃ head, IsInterimHead .default bytes head := by
    refine List.forall_mem_cons.2 ⟨?_, List.forall_mem_singleton.2 ?_⟩
    · exact ⟨⟨"HTTP/1.1", ⟨100⟩, ⟨[⟨"Content-Length", "5"⟩]⟩, .empty⟩,
        ⟨by decide +kernel, by decide⟩⟩
    · exact ⟨⟨"HTTP/1.1", ⟨103⟩, ⟨[⟨"Transfer-Encoding", "chunked"⟩]⟩, .empty⟩,
        ⟨by decide +kernel, by decide⟩⟩
  refine ⟨hheads, ?_⟩
  have hskip := (waits_for_final .default .get).1 interimHeads hheads
  rw [hskip]
  decide +kernel

end Response

end Intermediary
