import Intermediary.Proofs.Program
import Intermediary.Proofs.Tunnel.Delivery

/-!
# What is done in a direction

Every step of the work on a direction reads or writes something, or finds that
it cannot.  What was done so far tells which bytes were read and written,
whether the direction has ended, and whether the half that it writes to was
shut: this is the last that is ever done in it.
-/

namespace Intermediary

/-- What is done in one direction of a tunnel. -/
inductive Flow.Deed where
  /-- The peer that it comes from seems to have something to be read. -/
  | ready
  /-- Waiting for that peer failed. -/
  | unready
  | read (bytes : Bytes)
  /-- There was nothing to be read. -/
  | blocked
  | readEnd
  | readFailed
  | wrote (bytes : Bytes)
  | writeFailed
  | flushed
  | flushFailed
  /-- The half that it writes to was shut. -/
  | shut
  deriving DecidableEq

namespace Flow.Deed

/-- The stream has ended, or reading or writing failed. -/
def ends : Flow.Deed -> Bool
  | .unready | .readEnd | .readFailed | .writeFailed | .flushFailed => true
  | _ => false

def bytesRead : Flow.Deed -> Bytes
  | .read bytes => bytes
  | _ => []

def bytesWritten : Flow.Deed -> Bytes
  | .wrote bytes => bytes
  | _ => []

end Flow.Deed

def bytesRead (deeds : List Flow.Deed) : Bytes :=
  deeds.flatMap Flow.Deed.bytesRead

def bytesWritten (deeds : List Flow.Deed) : Bytes :=
  deeds.flatMap Flow.Deed.bytesWritten

@[simp] theorem bytesRead_append (deeds more : List Flow.Deed) :
    bytesRead (deeds ++ more) = bytesRead deeds ++ bytesRead more :=
  List.flatMap_append

@[simp] theorem bytesWritten_append (deeds more : List Flow.Deed) :
    bytesWritten (deeds ++ more) = bytesWritten deeds ++ bytesWritten more :=
  List.flatMap_append

namespace Transit

/-- One read or write in a direction, with what is done, and the work that is left. -/
inductive Does (transit : Transit) : Work -> List Flow.Deed -> Transit -> Option Work -> Prop where
  | probeBlocked : Does transit .probing [.blocked] transit none
  | probeFailed : Does transit .probing [.readFailed, .shut] transit.shut none
  | probeEnded (h : transit.lane.atEnd) :
      Does transit .probing [.readEnd, .shut]
        { transit with lane := transit.lane.readEnd }.shut none
  | probed (h : transit.lane.unread ≠ []) :
      Does transit .probing [.read (transit.lane.unread.take 1)] (transit.load 1)
        (some (.writing 1 0))
  | wrote {size sent} (count : Nat) (h : sent + count ≤ size) :
      Does transit (.writing size sent) [.wrote ((transit.buffer.drop sent).take count)]
        (transit.pass sent count) (some (.writing size (sent + count)))
  | writeDone {size} :
      Does transit (.writing size size) []
        (transit.moved (.moved (transit.buffer.take size))) (some .draining)
  | writeFailed {size sent} :
      Does transit (.writing size sent) [.writeFailed, .shut]
        (transit.moved (.broken (transit.buffer.take size) sent)).shut none
  | drained (size : Nat) (hpos : 0 < size) (hsize : size ≤ transit.buffer.length)
      (h : size ≤ transit.lane.unread.length) :
      Does transit .draining [.read (transit.lane.unread.take size)] (transit.load size)
        (some (.writing size 0))
  | drainBlocked : Does transit .draining [.blocked] transit (some (.flushing true))
  | drainFailed : Does transit .draining [.readFailed] transit (some (.flushing false))
  | drainEnded (h : transit.lane.atEnd) :
      Does transit .draining [.readEnd] { transit with lane := transit.lane.readEnd }
        (some (.flushing false))
  | flushed : Does transit (.flushing true) [.flushed] transit none
  /-- There is nothing more to be read. -/
  | flushedLast : Does transit (.flushing false) [.flushed, .shut] transit.shut none
  | flushFailed {stillOpen} :
      Does transit (.flushing stillOpen) [.flushFailed, .shut] transit.shut none

variable {transit transit' : Transit} {work : Work} {deeds more : List Flow.Deed}
  {left : Option Work}

theorem Does.step (h : transit.Does work deeds transit' left) :
    transit.Step work transit' left := by
  cases h with
  | probeBlocked => exact .probeBlocked
  | probeFailed => exact .probeFailed
  | probeEnded hend => exact .probeEnded hend
  | probed hunread => exact .probed hunread
  | wrote count hcount => exact .wrote count hcount
  | writeDone => exact .writeDone
  | writeFailed => exact .writeFailed
  | drained size hpos hsize hunread => exact .drained size hpos hsize hunread
  | drainBlocked => exact .drainBlocked
  | drainFailed => exact .drainFailed
  | drainEnded hend => exact .drainEnded hend
  | flushed => exact .flushed
  | flushedLast => exact .flushShut
  | flushFailed => exact .flushShut

/-- In every read or write something is done. -/
theorem Step.exists_does (h : transit.Step work transit' left) :
    ∃ deeds, transit.Does work deeds transit' left := by
  cases h with
  | probeBlocked => exact ⟨_, .probeBlocked⟩
  | probeFailed => exact ⟨_, .probeFailed⟩
  | probeEnded hend => exact ⟨_, .probeEnded hend⟩
  | probed hunread => exact ⟨_, .probed hunread⟩
  | wrote count hcount => exact ⟨_, .wrote count hcount⟩
  | writeDone => exact ⟨_, .writeDone⟩
  | writeFailed => exact ⟨_, .writeFailed⟩
  | drained size hpos hsize hunread => exact ⟨_, .drained size hpos hsize hunread⟩
  | drainBlocked => exact ⟨_, .drainBlocked⟩
  | drainFailed => exact ⟨_, .drainFailed⟩
  | drainEnded hend => exact ⟨_, .drainEnded hend⟩
  | flushed => exact ⟨_, .flushed⟩
  | flushShut => exact ⟨_, .flushFailed⟩

/-- The bytes of the buffer that are still to be written. -/
def pending (transit : Transit) : Option Work -> Bytes
  | some (.writing size sent) => (transit.buffer.take size).drop sent
  | _ => []

/-- What was done in a direction that is open. -/
structure Going (deeds : List Flow.Deed) (transit : Transit) (work : Option Work) : Prop where
  isOpen : transit.flow.isOpen = true
  shuts : transit.flow.shuts = 0
  unshut : .shut ∉ deeds
  /-- A direction that has ended is shut when what it has written is flushed. -/
  ended : deeds.any Flow.Deed.ends = true ↔ work = some (.flushing false)
  came : bytesRead deeds ++ transit.lane.unread = transit.lane.came
  written : bytesWritten deeds = transit.lane.written
  read : bytesRead deeds = bytesWritten deeds ++ transit.pending work

/-- What was done in a direction that is shut. -/
structure Gone (deeds : List Flow.Deed) (transit : Transit) : Prop where
  isOpen : transit.flow.isOpen = false
  shuts : transit.flow.shuts = 1
  /-- It had ended, then it was shut, and nothing was done since. -/
  last : ∃ earlier, deeds = earlier ++ [.shut] ∧ .shut ∉ earlier ∧
    earlier.any Flow.Deed.ends = true
  came : bytesRead deeds ++ transit.lane.unread = transit.lane.came
  written : bytesWritten deeds = transit.lane.written

def Accounts (deeds : List Flow.Deed) (transit : Transit) (work : Option Work) : Prop :=
  Going deeds transit work ∨ work = none ∧ Gone deeds transit

namespace Going

private theorem readEnd {work : Option Work} (h : Going deeds transit work) :
    Going deeds { transit with lane := transit.lane.readEnd } work :=
  ⟨h.isOpen, h.shuts, h.unshut, h.ended, h.came, h.written, h.read⟩

private theorem moved {work : Option Work} (h : Going deeds transit work) (transfer : Transfer) :
    Going deeds (transit.moved transfer) work := by
  cases transfer <;> exact ⟨h.isOpen, h.shuts, h.unshut, h.ended, h.came, h.written, h.read⟩

/-- A direction that has ended, or ends now, is shut. -/
theorem shut {work : Option Work} (h : Going deeds transit work) {last : Flow.Deed}
    (hread : last.bytesRead = []) (hwritten : last.bytesWritten = []) (hlast : last ≠ .shut)
    (hends : last.ends = true ∨ work = some (.flushing false)) :
    Accounts (deeds ++ [last, .shut]) transit.shut none := by
  refine .inr ⟨rfl, rfl, congrArg (· + 1) h.shuts, ⟨deeds ++ [last], by simp, ?_, ?_⟩,
    ?_, ?_⟩
  · simp [h.unshut, hlast.symm]
  · obtain hends | hends := hends
    · simp [hends]
    · simp only [List.any_append, h.ended.2 hends, Bool.true_or]
  · have hquiet : bytesRead [last, .shut] = [] := by
      rw [bytesRead, List.flatMap_cons, hread]
      rfl
    rw [bytesRead_append, hquiet, List.append_nil]
    exact h.came
  · have hquiet : bytesWritten [last, .shut] = [] := by
      rw [bytesWritten, List.flatMap_cons, hwritten]
      rfl
    rw [bytesWritten_append, hquiet, List.append_nil]
    exact h.written

/-- Where nothing is pending, a deed that reads and writes nothing leaves the direction open. -/
theorem quiet {work next : Option Work} (h : Going deeds transit work) {deed : Flow.Deed}
    (hread : deed.bytesRead = []) (hwritten : deed.bytesWritten = []) (hdeed : deed ≠ .shut)
    (hends : (deed.ends = true ∨ work = some (.flushing false)) ↔
      next = some (.flushing false))
    (hpending : transit.pending work = transit.pending next) :
    Going (deeds ++ [deed]) transit next where
  isOpen := h.isOpen
  shuts := h.shuts
  unshut := by simp [h.unshut, hdeed.symm]
  ended := by
    rw [← hends, or_comm, ← h.ended]
    simp
  came := by simpa [bytesRead, hread] using h.came
  written := by simpa [bytesWritten, hwritten] using h.written
  read := by simpa [bytesRead, bytesWritten, hread, hwritten, ← hpending] using h.read

theorem ready (h : Going deeds transit none) :
    Going (deeds ++ [.ready]) transit (some .probing) :=
  h.quiet rfl rfl nofun (by simp [Flow.Deed.ends]) rfl

/-- What is read is in the buffer, to be written. -/
theorem load {work : Work} (h : Going deeds transit (some work))
    (hwork : work = .probing ∨ work = .draining) {size : Nat}
    (hsize : size ≤ transit.lane.unread.length) :
    Going (deeds ++ [.read (transit.lane.unread.take size)]) (transit.load size)
      (some (.writing size 0)) where
  isOpen := h.isOpen
  shuts := h.shuts
  unshut := by simp [h.unshut]
  ended := by
    have hended : deeds.any Flow.Deed.ends = false := by
      rw [← Bool.not_eq_true, h.ended]
      obtain rfl | rfl := hwork <;> simp
    simp [hended, Flow.Deed.ends]
  came := by
    have hcame := h.came
    simpa [bytesRead, Flow.Deed.bytesRead, Transit.load, Lane.read] using hcame
  written := by
    have hwritten := h.written
    simpa [bytesWritten, Flow.Deed.bytesWritten, Transit.load, Lane.read] using hwritten
  read := by
    have hread : bytesRead deeds = bytesWritten deeds := by
      obtain rfl | rfl := hwork <;> simpa [pending] using h.read
    have hpiece : (transit.load size).buffer.take size = transit.lane.unread.take size :=
      List.take_left' (List.length_take_of_le hsize)
    rw [bytesRead_append, bytesWritten_append, hread, pending, hpiece]
    simp [bytesRead, bytesWritten, Flow.Deed.bytesRead, Flow.Deed.bytesWritten]

private theorem pass {size sent : Nat} (h : Going deeds transit (some (.writing size sent)))
    {count : Nat} (hcount : sent + count ≤ size) :
    Going (deeds ++ [.wrote ((transit.buffer.drop sent).take count)])
      (transit.pass sent count) (some (.writing size (sent + count))) where
  isOpen := h.isOpen
  shuts := h.shuts
  unshut := by simp [h.unshut]
  ended := by
    have hended := h.ended
    simpa [Flow.Deed.ends] using hended
  came := by
    have hcame := h.came
    simpa [bytesRead, Flow.Deed.bytesRead, Transit.pass, Lane.write] using hcame
  written := by
    have hwritten := h.written
    simpa [bytesWritten, Flow.Deed.bytesWritten, Transit.pass, Lane.write] using hwritten
  read := by
    have hpart : (transit.buffer.take size).drop sent =
        (transit.buffer.drop sent).take count ++
          (transit.buffer.take size).drop (sent + count) := by
      rw [List.drop_take, List.drop_take, ← List.drop_drop,
        ← List.take_append_drop count ((transit.buffer.drop sent).take (size - sent)),
        List.take_take, List.drop_take, Nat.min_eq_left (by omega), Nat.sub_sub]
    have hread := h.read
    rw [pending, hpart] at hread
    simpa [bytesRead, bytesWritten, Flow.Deed.bytesRead, Flow.Deed.bytesWritten, pending,
      Transit.pass] using hread

/-- One read or write in a direction is accounted for. -/
theorem does (h : Going deeds transit (some work))
    (hdoes : transit.Does work more transit' left) :
    Accounts (deeds ++ more) transit' left := by
  cases hdoes with
  | probeBlocked => exact .inl (h.quiet rfl rfl nofun (by simp [Flow.Deed.ends]) rfl)
  | probeFailed => exact h.shut rfl rfl nofun (.inl rfl)
  | probeEnded _ => exact h.readEnd.shut rfl rfl nofun (.inl rfl)
  | probed hunread => exact .inl (h.load (.inl rfl) (List.length_pos_iff.2 hunread))
  | wrote count hcount => exact .inl (h.pass hcount)
  | @writeDone size =>
      refine .inl ?_
      rw [List.append_nil]
      have hread := h.read
      have hended := h.ended
      have hmoved := h.moved (.moved (transit.buffer.take size))
      exact ⟨hmoved.isOpen, hmoved.shuts, h.unshut, by simpa using hended, hmoved.came,
        hmoved.written, by simpa [pending] using hread⟩
  | writeFailed => exact (h.moved _).shut rfl rfl nofun (.inl rfl)
  | drained size _ _ hunread => exact .inl (h.load (.inr rfl) hunread)
  | drainBlocked => exact .inl (h.quiet rfl rfl nofun (by simp [Flow.Deed.ends]) rfl)
  | drainFailed => exact .inl (h.quiet rfl rfl nofun (by simp [Flow.Deed.ends]) rfl)
  | drainEnded _ => exact .inl (h.readEnd.quiet rfl rfl nofun (by simp [Flow.Deed.ends]) rfl)
  | flushed => exact .inl (h.quiet rfl rfl nofun (by simp [Flow.Deed.ends]) rfl)
  | flushedLast => exact h.shut rfl rfl nofun (.inr rfl)
  | flushFailed => exact h.shut rfl rfl nofun (.inl rfl)

end Going

namespace Accounts

variable {lane lane' : Lane} {flow : Flow} {buffer : Bytes}

/-- What comes from the peer of a direction meanwhile changes nothing in the account. -/
theorem grows {work : Option Work} (h : Accounts deeds ⟨lane, flow, buffer⟩ work)
    (hgrows : lane.Grows lane') : Accounts deeds ⟨lane', flow, buffer⟩ work := by
  obtain ⟨bytes, hcame, hunread, _⟩ := hgrows.bytes
  have hread (hbefore : bytesRead deeds ++ lane.unread = lane.came) :
      bytesRead deeds ++ lane'.unread = lane'.came := by
    rw [hunread, hcame, ← hbefore, List.append_assoc]
  obtain hgoing | ⟨hwork, hgone⟩ := h
  · exact .inl ⟨hgoing.isOpen, hgoing.shuts, hgoing.unshut, hgoing.ended, hread hgoing.came,
      hgoing.written.trans hgrows.written.symm, hgoing.read⟩
  · exact .inr ⟨hwork, hgone.isOpen, hgone.shuts, hgone.last, hread hgone.came,
      hgone.written.trans hgrows.written.symm⟩

/-- The buffer is of no account in a direction that is not worked on. -/
theorem withBuffer (h : Accounts deeds ⟨lane, flow, buffer⟩ none) (other : Bytes) :
    Accounts deeds ⟨lane, flow, other⟩ none := by
  obtain hgoing | ⟨_, hgone⟩ := h
  · exact .inl ⟨hgoing.isOpen, hgoing.shuts, hgoing.unshut, hgoing.ended, hgoing.came,
      hgoing.written, hgoing.read⟩
  · exact .inr ⟨rfl, hgone.isOpen, hgone.shuts, hgone.last, hgone.came, hgone.written⟩

theorem going {work : Option Work} (h : Accounts deeds transit work)
    (hopen : transit.flow.isOpen = true) : Going deeds transit work := by
  obtain hgoing | ⟨_, hgone⟩ := h
  · exact hgoing
  · cases hgone.isOpen.symm.trans hopen

/-- A direction that is worked on is open. -/
theorem going_of_work (h : Accounts deeds transit (some work)) :
    Going deeds transit (some work) := by
  obtain hgoing | ⟨hnone, _⟩ := h
  · exact hgoing
  · cases hnone

/-- A direction that is not worked on is open unless it has ended. -/
theorem isOpen_iff (h : Accounts deeds transit none) :
    transit.flow.isOpen = true ↔ deeds.any Flow.Deed.ends = false := by
  obtain hgoing | ⟨_, hgone⟩ := h
  · simp [hgoing.isOpen, Bool.eq_false_iff, hgoing.ended]
  · obtain ⟨earlier, rfl, _, hends⟩ := hgone.last
    simp [hgone.isOpen, hends]

/-- A direction that is not worked on has ended just when it was shut. -/
theorem shut_mem_iff (h : Accounts deeds transit none) :
    .shut ∈ deeds ↔ deeds.any Flow.Deed.ends = true := by
  obtain hgoing | ⟨_, hgone⟩ := h
  · simp [hgoing.unshut, hgoing.ended]
  · obtain ⟨earlier, rfl, _, hends⟩ := hgone.last
    simp [hends]

theorem shuts_eq {work : Option Work} (h : Accounts deeds transit work) :
    transit.flow.shuts = deeds.count .shut := by
  obtain hgoing | ⟨_, hgone⟩ := h
  · rw [hgoing.shuts, List.count_eq_zero_of_not_mem hgoing.unshut]
  · obtain ⟨earlier, rfl, hunshut, _⟩ := hgone.last
    rw [hgone.shuts, List.count_append, List.count_eq_zero_of_not_mem hunshut]
    rfl

/-- Nothing is done after the direction was shut. -/
theorem nil_of_shut {work : Option Work} {before after : List Flow.Deed}
    (h : Accounts (before ++ .shut :: after) transit work) : after = [] := by
  obtain hgoing | ⟨_, hgone⟩ := h
  · exact absurd (List.mem_append_right _ List.mem_cons_self) hgoing.unshut
  · obtain ⟨earlier, hearlier, hunshut, _⟩ := hgone.last
    obtain ⟨hnil, _⟩ | ⟨init, _, rfl⟩ := snoc_eq_append_cons hearlier.symm
    · exact hnil
    · exact absurd (List.mem_append_right _ List.mem_cons_self) hunshut

theorem came {work : Option Work} (h : Accounts deeds transit work) :
    bytesRead deeds ++ transit.lane.unread = transit.lane.came := by
  obtain hgoing | ⟨_, hgone⟩ := h
  · exact hgoing.came
  · exact hgone.came

theorem written {work : Option Work} (h : Accounts deeds transit work) :
    bytesWritten deeds = transit.lane.written := by
  obtain hgoing | ⟨_, hgone⟩ := h
  · exact hgoing.written
  · exact hgone.written

end Accounts

/-! ## Relaying what is there -/

/-- Reads and writes in a direction, one after another. -/
inductive Works (transit : Transit) (work : Work) :
    List Flow.Deed -> Transit -> Option Work -> Prop where
  | here : Works transit work [] transit (some work)
  | snoc {deeds transit' work' more last left}
      (h : Works transit work deeds transit' (some work'))
      (hdoes : transit'.Does work' more last left) :
      Works transit work (deeds ++ more) last left

theorem Works.trans {next : Work} {last : Transit}
    (h : Works transit work deeds transit' (some next))
    (hmore : Works transit' next more last left) :
    Works transit work (deeds ++ more) last left := by
  induction hmore with
  | here => rwa [List.append_nil]
  | snoc _ hdoes ih =>
      rw [← List.append_assoc]
      exact ih.snoc hdoes

/-- Some bytes were moved in a direction that stays open, and those after them were not read. -/
structure Moves (transit transit' : Transit) (size : Nat) : Prop where
  unread : transit'.lane.unread = transit.lane.unread.drop size
  came : transit'.lane.came = transit.lane.came
  isOpen : transit'.flow.isOpen = transit.flow.isOpen
  buffer : transit'.buffer.length = transit.buffer.length

theorem moves_load {size : Nat} (hsize : size ≤ transit.buffer.length)
    (hunread : size ≤ transit.lane.unread.length) : Moves transit (transit.load size) size where
  unread := rfl
  came := rfl
  isOpen := rfl
  buffer := by
    simp only [load, List.length_append, List.length_take, List.length_drop]
    omega

/-- A piece that was read can be written. -/
theorem exists_written (transit : Transit) (size : Nat) :
    ∃ deeds transit', Works transit (.writing size 0) deeds transit' (some .draining) ∧
      Moves transit transit' 0 := by
  have hwrote : Works transit (.writing size 0) _ _ _ :=
    Works.here.snoc (.wrote size (Nat.le_of_eq (Nat.zero_add size)))
  rw [Nat.zero_add] at hwrote
  exact ⟨_, _, hwrote.snoc .writeDone, rfl, rfl, rfl, rfl⟩

/-- All that is there can be moved, piece by piece. -/
private theorem exists_drained (transit : Transit) (hbuffer : 0 < transit.buffer.length) :
    ∃ deeds transit', Works transit .draining deeds transit' none ∧
      Moves transit transit' transit.lane.unread.length := by
  generalize hlength : transit.lane.unread.length = length
  induction length using Nat.strongRecOn generalizing transit with
  | ind length ih =>
      by_cases hnone : length = 0
      · refine ⟨_, _, (Works.here.snoc .drainBlocked).snoc .flushed, ?_, rfl, rfl, rfl⟩
        subst hnone
        rfl
      · -- the next piece fills the buffer, or takes all that is left
        let size := min transit.buffer.length length
        have hpos : 0 < size := by omega
        have hsize : size ≤ transit.buffer.length := Nat.min_le_left _ _
        have hunread : size ≤ transit.lane.unread.length := by omega
        have hload := moves_load hsize hunread
        obtain ⟨deeds, written, hwrite, hwritten⟩ := exists_written (transit.load size) size
        have hpiece := (Works.here.snoc (.drained size hpos hsize hunread)).trans hwrite
        have hrest : written.lane.unread = transit.lane.unread.drop size :=
          hwritten.unread.trans hload.unread
        obtain ⟨more, last, hdrain, hlast⟩ := ih (length - size) (by omega) written
          (by rw [hwritten.buffer, hload.buffer]; exact hbuffer)
          (by rw [hrest, List.length_drop, hlength])
        refine ⟨_, last, hpiece.trans hdrain, ?_, ?_, ?_, ?_⟩
        · rw [hlast.unread, hrest, List.drop_drop]
          congr 1
          omega
        · exact hlast.came.trans (hwritten.came.trans hload.came)
        · exact hlast.isOpen.trans (hwritten.isOpen.trans hload.isOpen)
        · exact hlast.buffer.trans (hwritten.buffer.trans hload.buffer)

/-- Where there is something, the work on a direction can come to an end with nothing left. -/
theorem exists_relayed (transit : Transit) (hbuffer : 0 < transit.buffer.length)
    (hunread : transit.lane.unread ≠ []) :
    ∃ deeds transit', Works transit .probing deeds transit' none ∧
      transit'.lane.unread = [] ∧ transit'.flow.isOpen = transit.flow.isOpen ∧
      transit'.lane.came = transit.lane.came := by
  have hload := moves_load hbuffer (List.length_pos_iff.2 hunread)
  obtain ⟨deeds, written, hwrite, hwritten⟩ := exists_written (transit.load 1) 1
  obtain ⟨more, last, hdrain, hlast⟩ := exists_drained written
    (by rw [hwritten.buffer, hload.buffer]; exact hbuffer)
  refine ⟨_, last, ((Works.here.snoc (.probed hunread)).trans hwrite).trans hdrain, ?_, ?_, ?_⟩
  · rw [hlast.unread, List.drop_length]
  · exact hlast.isOpen.trans (hwritten.isOpen.trans hload.isOpen)
  · exact hlast.came.trans (hwritten.came.trans hload.came)

/-! ## What a read or write leaves as it was -/

theorem Does.came (h : transit.Does work deeds transit' left) :
    transit'.lane.came = transit.lane.came := by
  cases h <;> rfl

theorem Does.isEnded (h : transit.Does work deeds transit' left) :
    transit'.lane.isEnded = transit.lane.isEnded := by
  cases h <;> rfl

/-- The buffer has room for a byte at least. -/
theorem Does.buffer_pos (h : transit.Does work deeds transit' left)
    (hbuffer : 0 < transit.buffer.length) : 0 < transit'.buffer.length := by
  cases h with
  | probed hunread =>
      exact (moves_load hbuffer (List.length_pos_iff.2 hunread)).buffer ▸ hbuffer
  | drained size _ hsize hunread => exact (moves_load hsize hunread).buffer ▸ hbuffer
  | _ => exact hbuffer

end Transit

end Intermediary
