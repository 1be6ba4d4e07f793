import Intermediary.Proofs.Message.Reading
import Intermediary.Proofs.Program
import Intermediary.Proofs.Service.Conduct
import Intermediary.Proofs.Tunnel.Delivery

/-!
# What a bridge delivers and reports

A bridge writes the head and what was read ahead from both peers, runs the
tunnel, and reports what was passed on.  The part of its program that is left
fits what was written so far, and its reports fit what was read to the end.
-/

namespace Intermediary

/-! ## The program of a bridge -/

namespace Bridge

variable (fromClient fromOrigin : Held)

/-- What is written in a direction before anything is relayed. -/
def start : Side -> Bytes
  | .client => fromClient.pending
  | .origin => Response.tunnelEstablished.render ++ fromOrigin.pending

/-- What is relayed in a direction before anything else. -/
def later : Side -> Bytes
  | .client => fromClient.later
  | .origin => fromOrigin.later

/-- A program that only reports, and only numbers that it may report. -/
def Ends (may : Nat -> Nat -> Prop) : Serving Unit -> Prop
  | .done _ => True
  | .act (.measure recording) next =>
      (∀ outcome toOrigin toClient, recording = .tunnel outcome toOrigin toClient ->
        may toOrigin toClient) ∧ Ends may (next ())
  | .act (.log event) next =>
      (∀ toOrigin toClient, event = .tunnelClosed toOrigin toClient ->
        may toOrigin toClient) ∧ Ends may (next ())
  | .act _ _ => False

def Reports (relayed : Relayed) (toOrigin toClient : Nat) : Prop :=
  toOrigin = relayed.toOrigin + fromClient.pending.length ∧
    toClient = relayed.toClient + fromOrigin.pending.length

/--
A program that writes what is to be written before the relay, after some of it
was written, and then relays and reports.
-/
def Greets : Serving Unit -> (Side -> Bytes) -> Prop
  | .act (.greet bytes) next, written =>
      written .origin ++ bytes <+: start fromClient fromOrigin .origin ∧
        Greets (next (.ok ())) (Function.update written .origin (written .origin ++ bytes)) ∧
        ∀ cause, Ends (fun _ _ => True) (next (.error cause))
  | .act (.send bytes) next, written =>
      written .client ++ bytes <+: start fromClient fromOrigin .client ∧
        Greets (next (.ok ())) (Function.update written .client (written .client ++ bytes)) ∧
        ∀ cause, Ends (fun _ _ => True) (next (.error cause))
  | .act (.measure recording) next, written =>
      (∀ outcome toOrigin toClient, recording ≠ .tunnel outcome toOrigin toClient) ∧
        Greets (next ()) written
  | .act (.relay ahead behind) next, written =>
      written = start fromClient fromOrigin ∧ ahead = fromClient.later ∧
        behind = fromOrigin.later ∧
        ∀ relayed, Ends (Reports fromClient fromOrigin relayed) (next relayed)
  | _, _ => False

variable {fromClient fromOrigin} {written : Side -> Bytes}
  {next : Except TransportError Unit -> Serving Unit} {bytes : Bytes}

theorem Ends.mono {may weaker : Nat -> Nat -> Prop} {program : Serving Unit}
    (h : Ends may program)
    (hmay : ∀ toOrigin toClient, may toOrigin toClient -> weaker toOrigin toClient) :
    Ends weaker program := by
  induction program with
  | done result => trivial
  | act action next ih =>
      cases action with
      | measure recording =>
          exact ⟨fun outcome toOrigin toClient heq => hmay _ _ (h.1 outcome _ _ heq),
            ih () h.2⟩
      | log event =>
          exact ⟨fun toOrigin toClient heq => hmay _ _ (h.1 _ _ heq), ih () h.2⟩
      | _ => exact h

private theorem greets_greet
    (hbegins : written .origin ++ bytes <+: start fromClient fromOrigin .origin)
    (hnext : Greets fromClient fromOrigin (next (.ok ()))
      (Function.update written .origin (written .origin ++ bytes)))
    (herror : ∀ cause, Ends (fun _ _ => True) (next (.error cause))) :
    Greets fromClient fromOrigin ((Service.passOn .greet id bytes).bind next) written := by
  unfold Service.passOn
  split
  · next hempty =>
    rw [List.isEmpty_iff.1 hempty, List.append_nil, Function.update_eq_self] at hnext
    exact hnext
  · exact ⟨hbegins, hnext, herror⟩

private theorem greets_send
    (hbegins : written .client ++ bytes <+: start fromClient fromOrigin .client)
    (hnext : Greets fromClient fromOrigin (next (.ok ()))
      (Function.update written .client (written .client ++ bytes)))
    (herror : ∀ cause, Ends (fun _ _ => True) (next (.error cause))) :
    Greets fromClient fromOrigin ((Service.passOn .send id bytes).bind next) written := by
  unfold Service.passOn
  split
  · next hempty =>
    rw [List.isEmpty_iff.1 hempty, List.append_nil, Function.update_eq_self] at hnext
    exact hnext
  · exact ⟨hbegins, hnext, herror⟩

private theorem greets_handshake
    (hnext : Greets fromClient fromOrigin (next (.ok ())) (start fromClient fromOrigin))
    (herror : ∀ cause, Ends (fun _ _ => True) (next (.error cause))) :
    Greets fromClient fromOrigin
      ((Service.handshake fromClient.pending fromOrigin.pending).bind next)
      fun _ => [] := by
  refine ⟨List.prefix_append _ _, ?_, herror⟩
  show Greets fromClient fromOrigin
    (((Service.passOn .greet id fromOrigin.pending).bind _).bind next) _
  rw [Program.bind_assoc]
  refine greets_greet (List.prefix_refl _) ?_ herror
  show Greets fromClient fromOrigin
    ((Service.passOn .send id fromClient.pending).bind next) _
  refine greets_send (List.prefix_refl _) ?_ herror
  have hwritten : start fromClient fromOrigin = Function.update (Function.update
      (Function.update (fun _ => []) .origin Response.tunnelEstablished.render) .origin
        (Response.tunnelEstablished.render ++ fromOrigin.pending)) .client
          fromClient.pending := by
    funext side
    cases side <;> rfl
  rw [hwritten] at hnext
  exact hnext

private theorem greets_bridge :
    Greets fromClient fromOrigin (Service.bridge fromClient fromOrigin) fun _ => [] := by
  refine greets_handshake ?_ fun cause => ?_
  · refine ⟨nofun, rfl, rfl, rfl, fun relayed => ⟨?_, ?_, trivial⟩⟩
    · intro outcome toOrigin toClient hreport
      cases hreport
      exact ⟨rfl, rfl⟩
    · intro toOrigin toClient hreport
      cases hreport
      exact ⟨rfl, rfl⟩
  · exact ⟨fun _ _ _ => trivial, fun _ _ _ _ => trivial, trivial⟩

end Bridge

/-! ## Along a session -/

/--
What was written in a direction is a beginning of what there was to write, and
all of it once the end of the stream was read.
-/
structure Delivers (start later : Bytes) (lane : Lane) : Prop where
  begins : lane.written <+: start ++ (later ++ lane.came)
  all : lane.endRead = true -> lane.isEnded = true ∧ lane.written = start ++ (later ++ lane.came)

/-- Nothing was read in a direction, and a beginning was written. -/
structure Opening (start : Bytes) (lane : Lane) : Prop where
  unread : lane.unread = lane.came
  endRead : lane.endRead = false
  begins : lane.written <+: start

section Lane

variable {start later piece part : Bytes} {lane lane' : Lane} {flow : Flow}

private theorem Opening.delivers (h : Opening start lane) : Delivers start later lane where
  begins := h.begins.trans (List.prefix_append _ _)
  all hend := by cases h.endRead.symm.trans hend

private theorem Carries.delivers (h : Carries start later lane flow [] []) :
    Delivers start later lane where
  begins := by
    rw [h.wrote, ← h.read, List.append_nil]
    exact (List.prefix_append_right_inj _).2 (h.begins.trans (List.prefix_append _ _))
  all hend := by
    obtain ⟨hunread, hended⟩ := h.ended hend
    obtain ⟨hsame, _⟩ := h.whole (.inr hend)
    refine ⟨hended, ?_⟩
    rw [h.wrote, ← h.read, hunread, hsame]
    simp

private theorem Active.delivers {transit : Transit} (h : Active start later transit piece part)
    (hpart : part <+: piece) : Delivers start later transit.lane where
  begins := by
    obtain ⟨hsame, _⟩ := h.carries.whole (.inl h.isOpen)
    rw [h.carries.wrote, ← h.carries.read, hsame]
    exact (List.prefix_append_right_inj _).2
      ((List.prefix_append_right_inj _).2 (hpart.trans (List.prefix_append _ _)))
  all hend := by cases h.goesOn.symm.trans hend

private theorem UnderWork.delivers {transit : Transit} {work : Transit.Work}
    (h : UnderWork start later transit work) : Delivers start later transit.lane := by
  cases work with
  | probing => exact Active.delivers h (List.prefix_refl _)
  | draining => exact Active.delivers h (List.prefix_refl _)
  | writing size sent => exact h.1.delivers (List.take_prefix_take_left h.2)
  | flushing stillOpen => exact h.1.delivers

private theorem Delivers.grows (h : Delivers start later lane) (hgrows : lane.Grows lane') :
    Delivers start later lane' := by
  obtain ⟨bytes, hcame, _, hnone⟩ := hgrows.bytes
  refine ⟨?_, fun hend => ?_⟩
  · rw [hgrows.written, hcame, ← List.append_assoc, ← List.append_assoc,
      List.append_assoc start]
    exact h.begins.trans (List.prefix_append _ _)
  · obtain ⟨hended, hall⟩ := h.all (hgrows.endRead ▸ hend)
    refine ⟨hgrows.isEnded hended, ?_⟩
    rw [hgrows.written, hall, hcame, hnone hended, List.append_nil]

private theorem Opening.grows (h : Opening start lane) (hgrows : lane.Grows lane') :
    Opening start lane' := by
  obtain ⟨bytes, hcame, hunread, _⟩ := hgrows.bytes
  exact ⟨by rw [hcame, hunread, h.unread], hgrows.endRead.trans h.endRead,
    hgrows.written ▸ h.begins⟩

/-- A direction begins to be relayed after what was read ahead is put back. -/
theorem Opening.settled (h : Opening start lane) (hwritten : lane.written = start) :
    Settled start later (lane.putBack later) .fresh where
  carries :=
    { read := by simp [Flow.bytesTaken, Flow.fresh, Lane.putBack, h.unread]
      wrote := by simp [Flow.bytesGiven, Flow.fresh, Lane.putBack, hwritten]
      begins := List.prefix_refl _
      whole := fun _ => ⟨rfl, rfl⟩
      ended := fun hend => by cases h.endRead.symm.trans hend }
  goesOn _ := h.endRead

end Lane

private theorem Relaying.Sound.delivers {starts laters : Side -> Bytes} {lanes : Side -> Lane}
    {relaying : Relaying} (h : relaying.Sound starts laters lanes) (side : Side) :
    Delivers (starts side) (laters side) (lanes side) := by
  by_cases hside : ∃ work, relaying.current = some (side, work)
  · obtain ⟨work, hwork⟩ := hside
    exact (h.current side work hwork).delivers
  · exact (h.settled side fun work hwork => hside ⟨work, hwork⟩).carries.delivers

/--
The numbers are those of the bytes that were written in the directions that were
read to the end.
-/
def Fair (lanes : Side -> Lane) (toOrigin toClient : Nat) : Prop :=
  ((lanes .client).endRead = true -> toOrigin = (lanes .client).written.length) ∧
    ((lanes .origin).endRead = true ->
      Response.tunnelEstablished.render.length + toClient = (lanes .origin).written.length)

private theorem Fair.grows {lanes lanes' : Side -> Lane} {toOrigin toClient : Nat}
    (h : Fair lanes toOrigin toClient) (hgrows : ∀ side, (lanes side).Grows (lanes' side)) :
    Fair lanes' toOrigin toClient := by
  unfold Fair
  rw [(hgrows .client).endRead, (hgrows .client).written, (hgrows .origin).endRead,
    (hgrows .origin).written]
  exact h

private theorem fair_of_opening {starts : Side -> Bytes} {lanes : Side -> Lane}
    (h : ∀ side, Opening (starts side) (lanes side)) (toOrigin toClient : Nat) :
    Fair lanes toOrigin toClient := by
  refine ⟨fun hend => ?_, fun hend => ?_⟩
  · cases (h .client).endRead.symm.trans hend
  · cases (h .origin).endRead.symm.trans hend

namespace TunnelSession

open Bridge

def Reported (session : TunnelSession) (toOrigin toClient : Nat) : Prop :=
  (∃ outcome, .tunnel outcome toOrigin toClient ∈ session.measures) ∨
    .tunnelClosed toOrigin toClient ∈ session.events

private theorem Reported.of_measure {lanes : Side -> Lane} {stage stage' : Stage}
    {measures : List Measure} {recording : Measure} {events : List Event}
    {toOrigin toClient : Nat}
    (h : Reported ⟨lanes, stage', measures ++ [recording], events⟩ toOrigin toClient) :
    Reported ⟨lanes, stage, measures, events⟩ toOrigin toClient ∨
      ∃ outcome, recording = .tunnel outcome toOrigin toClient := by
  obtain ⟨outcome, hmem⟩ | hmem := h
  · obtain hbefore | hnew := List.mem_append.1 hmem
    · exact .inl (.inl ⟨outcome, hbefore⟩)
    · exact .inr ⟨outcome, (List.mem_singleton.1 hnew).symm⟩
  · exact .inl (.inr hmem)

private theorem Reported.of_log {lanes : Side -> Lane} {stage stage' : Stage}
    {measures : List Measure} {events : List Event} {event : Event} {toOrigin toClient : Nat}
    (h : Reported ⟨lanes, stage', measures, events ++ [event]⟩ toOrigin toClient) :
    Reported ⟨lanes, stage, measures, events⟩ toOrigin toClient ∨
      event = .tunnelClosed toOrigin toClient := by
  obtain hmem | hmem := h
  · exact .inl (.inl hmem)
  · obtain hbefore | hnew := List.mem_append.1 hmem
    · exact .inl (.inr hbefore)
    · exact .inr (List.mem_singleton.1 hnew).symm

/-- What was written and reported fits what came, wherever the program has come to. -/
def Sound (fromClient fromOrigin : Held) (session : TunnelSession) : Prop :=
  match session.stage with
  | .acting rest =>
      ((∀ toOrigin toClient, ¬ session.Reported toOrigin toClient) ∧
        (∀ side, Opening (start fromClient fromOrigin side) (session.lanes side)) ∧
        Greets fromClient fromOrigin rest fun side => (session.lanes side).written) ∨
      ((∀ toOrigin toClient, session.Reported toOrigin toClient ->
          Fair session.lanes toOrigin toClient) ∧
        (∀ side, Delivers (start fromClient fromOrigin side)
          (later fromClient fromOrigin side) (session.lanes side)) ∧
        Ends (Fair session.lanes) rest)
  | .writing side bytes next =>
      (∀ toOrigin toClient, ¬ session.Reported toOrigin toClient) ∧
      (∀ other, Opening (start fromClient fromOrigin other) (session.lanes other)) ∧
      (session.lanes side).written ++ bytes <+: start fromClient fromOrigin side ∧
      Greets fromClient fromOrigin (next (.ok ()))
        (Function.update (fun other => (session.lanes other).written) side
          ((session.lanes side).written ++ bytes)) ∧
      ∀ cause, Ends (fun _ _ => True) (next (.error cause))
  | .relaying relaying next =>
      (∀ toOrigin toClient, ¬ session.Reported toOrigin toClient) ∧
      relaying.Sound (start fromClient fromOrigin) (later fromClient fromOrigin)
        session.lanes ∧
      ∀ relayed, Ends (Reports fromClient fromOrigin relayed) (next relayed)

variable {fromClient fromOrigin : Held} {session session' : TunnelSession}

private theorem Sound.grows (h : session.Sound fromClient fromOrigin) {lanes : Side -> Lane}
    (hgrows : ∀ side, (session.lanes side).Grows (lanes side)) :
    Sound fromClient fromOrigin { session with lanes := lanes } := by
  obtain ⟨before, stage, measures, events⟩ := session
  have hwritten : (fun side => (lanes side).written) = fun side => (before side).written :=
    funext fun side => (hgrows side).written
  cases stage with
  | acting rest =>
      obtain ⟨hnone, hopening, hgreets⟩ | ⟨hfair, hdelivers, hends⟩ := h
      · refine .inl ⟨hnone, fun side => (hopening side).grows (hgrows side), ?_⟩
        rw [hwritten]
        exact hgreets
      · exact .inr ⟨fun _ _ hreported => (hfair _ _ hreported).grows hgrows,
          fun side => (hdelivers side).grows (hgrows side),
          hends.mono fun _ _ hmay => hmay.grows hgrows⟩
  | writing side bytes next =>
      obtain ⟨hnone, hopening, hbegins, hgreets, herror⟩ := h
      refine ⟨hnone, fun other => (hopening other).grows (hgrows other), ?_, ?_, herror⟩
      · rw [(hgrows side).written]
        exact hbegins
      · rw [hwritten, (hgrows side).written]
        exact hgreets
  | relaying relaying next =>
      obtain ⟨hnone, hsound, hends⟩ := h
      exact ⟨hnone, hsound.grows hgrows, hends⟩

private theorem Sound.delivers (h : session.Sound fromClient fromOrigin) (side : Side) :
    Delivers (start fromClient fromOrigin side) (later fromClient fromOrigin side)
      (session.lanes side) := by
  obtain ⟨lanes, stage, measures, events⟩ := session
  cases stage with
  | acting rest =>
      obtain ⟨_, hopening, _⟩ | ⟨_, hdelivers, _⟩ := h
      · exact (hopening side).delivers
      · exact hdelivers side
  | writing other bytes next => exact (h.2.1 side).delivers
  | relaying relaying next => exact h.2.1.delivers side

private theorem grows_update {lanes : Side -> Lane} {side : Side} {lane : Lane}
    (h : (lanes side).Grows lane) (other : Side) :
    (lanes other).Grows (Function.update lanes side lane other) := by
  by_cases hother : other = side
  · subst hother
    rw [Function.update_self]
    exact h
  · rw [Function.update_of_ne hother]
    exact .refl _

private theorem sound_opened : (opened fromClient fromOrigin).Sound fromClient fromOrigin := by
  refine .inl ⟨?_, fun side => ⟨rfl, rfl, List.nil_prefix⟩, greets_bridge⟩
  rintro toOrigin toClient (⟨outcome, hmem⟩ | hmem) <;> cases hmem

private theorem Sound.write {side : Side} {bytes : Bytes}
    {next : Except TransportError Unit -> Serving Unit}
    (h : session.Sound fromClient fromOrigin)
    (hstage : session.stage = .writing side bytes next) (count : Nat) :
    Sound fromClient fromOrigin
      { session.withLane side ((session.lanes side).write (bytes.take count)) with
        stage := .writing side (bytes.drop count) next } := by
  obtain ⟨lanes, stage, measures, events⟩ := session
  cases hstage
  obtain ⟨hnone, hopening, hbegins, hgreets, herror⟩ := h
  have hsplit : (lanes side).written ++ bytes.take count ++ bytes.drop count =
      (lanes side).written ++ bytes := by
    rw [List.append_assoc, List.take_append_drop]
  refine ⟨hnone, fun other => ?_, ?_, ?_, herror⟩
  · by_cases hother : other = side
    · subst hother
      simp only [withLane, Function.update_self]
      exact ⟨(hopening other).unread, (hopening other).endRead,
        (List.prefix_append _ (bytes.drop count)).trans (hsplit ▸ hbegins)⟩
    · simp only [withLane, Function.update_of_ne hother]
      exact hopening other
  · simp only [withLane, Function.update_self]
    exact hsplit ▸ hbegins
  · have hwritten : Function.update (fun other => (Function.update lanes side
        ((lanes side).write (bytes.take count)) other).written) side
        ((lanes side).written ++ bytes) =
      Function.update (fun other => (lanes other).written) side
        ((lanes side).written ++ bytes) := by
      funext other
      by_cases hother : other = side
      · subst hother
        rw [Function.update_self, Function.update_self]
      · simp only [Function.update_of_ne hother]
    simp only [withLane, Function.update_self, Lane.write]
    rw [hsplit]
    exact hwritten ▸ hgreets

/-- A relay that is over reports what was written in a direction that was read to its end. -/
theorem fair_of_reports {lanes : Side -> Lane} {tunnel : Tunnel} {buffer : Bytes}
    (h : Relaying.Sound (start fromClient fromOrigin) (later fromClient fromOrigin) lanes
      ⟨tunnel, buffer, none⟩)
    {toOrigin toClient : Nat}
    (hreports : Reports fromClient fromOrigin tunnel.relayed toOrigin toClient) :
    Fair lanes toOrigin toClient := by
  obtain ⟨rfl, rfl⟩ := hreports
  refine ⟨fun hend => ?_, fun hend => ?_⟩
  · have hcarries := (h.settled .client nofun).carries
    obtain ⟨_, hmoved⟩ := hcarries.whole (.inr hend)
    rw [hcarries.wrote, List.append_nil, List.length_append, ← hmoved, Nat.add_comm]
    rfl
  · have hcarries := (h.settled .origin nofun).carries
    obtain ⟨_, hmoved⟩ := hcarries.whole (.inr hend)
    rw [hcarries.wrote, List.append_nil, List.length_append, ← hmoved, start,
      List.length_append, Nat.add_assoc, Nat.add_comm fromOrigin.pending.length]
    rfl

theorem Sound.step {bufferSize : Nat} (h : session.Sound fromClient fromOrigin)
    (hstep : Step bufferSize session session') : session'.Sound fromClient fromOrigin := by
  cases hstep with
  | arrive side bytes hended => exact h.grows (grows_update (Lane.grows_arrive hended bytes))
  | finish side => exact h.grows (grows_update (Lane.grows_finish _))
  | @greet bytes next hstage =>
      obtain ⟨lanes, stage, measures, events⟩ := session
      cases hstage
      obtain ⟨hnone, hopening, hgreets⟩ | ⟨_, _, hends⟩ := h
      · exact ⟨hnone, hopening, hgreets⟩
      · cases hends
  | @send bytes next hstage =>
      obtain ⟨lanes, stage, measures, events⟩ := session
      cases hstage
      obtain ⟨hnone, hopening, hgreets⟩ | ⟨_, _, hends⟩ := h
      · exact ⟨hnone, hopening, hgreets⟩
      · cases hends
  | write hstage count => exact h.write hstage count
  | @wrote side next hstage =>
      obtain ⟨lanes, stage, measures, events⟩ := session
      cases hstage
      obtain ⟨hnone, hopening, _, hgreets, _⟩ := h
      rw [List.append_nil, Function.update_eq_self] at hgreets
      exact .inl ⟨hnone, hopening, hgreets⟩
  | @writeFailed side bytes next hstage cause =>
      obtain ⟨lanes, stage, measures, events⟩ := session
      cases hstage
      obtain ⟨hnone, hopening, _, _, herror⟩ := h
      exact .inr ⟨fun _ _ _ => fair_of_opening hopening _ _, fun side => (hopening side).delivers,
        (herror cause).mono fun _ _ _ => fair_of_opening hopening _ _⟩
  | @measure recording next hstage =>
      obtain ⟨lanes, stage, measures, events⟩ := session
      cases hstage
      obtain ⟨hnone, hopening, hother, hgreets⟩ | ⟨hfair, hdelivers, hmay, hends⟩ := h
      · refine .inl ⟨fun toOrigin toClient hreported => ?_, hopening, hgreets⟩
        obtain hbefore | ⟨outcome, heq⟩ := hreported.of_measure
        · exact hnone _ _ hbefore
        · exact hother _ _ _ heq
      · refine .inr ⟨fun toOrigin toClient hreported => ?_, hdelivers, hends⟩
        obtain hbefore | ⟨outcome, heq⟩ := hreported.of_measure
        · exact hfair _ _ hbefore
        · exact hmay _ _ _ heq
  | @log event next hstage =>
      obtain ⟨lanes, stage, measures, events⟩ := session
      cases hstage
      obtain ⟨_, _, hgreets⟩ | ⟨hfair, hdelivers, hmay, hends⟩ := h
      · cases hgreets
      · refine .inr ⟨fun toOrigin toClient hreported => ?_, hdelivers, hends⟩
        obtain hbefore | heq := hreported.of_log
        · exact hfair _ _ hbefore
        · exact hmay _ _ heq
  | @relay ahead behind next hstage =>
      obtain ⟨lanes, stage, measures, events⟩ := session
      cases hstage
      obtain ⟨hnone, hopening, hwritten, rfl, rfl, hends⟩ | ⟨_, _, hends⟩ := h
      · refine ⟨hnone, ⟨fun side _ => ?_, nofun⟩, hends⟩
        cases side
        · exact (hopening .client).settled (congrFun hwritten .client)
        · exact (hopening .origin).settled (congrFun hwritten .origin)
      · cases hends
  | @pass relaying relaying' lanes next hstage hstep =>
      obtain ⟨before, stage, measures, events⟩ := session
      cases hstage
      obtain ⟨hnone, hsound, hends⟩ := h
      exact ⟨hnone, hsound.step hstep, hends⟩
  | @close tunnel buffer next hstage hover =>
      obtain ⟨lanes, stage, measures, events⟩ := session
      cases hstage
      obtain ⟨hnone, hsound, hends⟩ := h
      refine .inr ⟨fun _ _ hreported => absurd hreported (hnone _ _), hsound.delivers,
        (hends _).mono fun _ _ hreports => fair_of_reports hsound hreports⟩

theorem Reaches.sound {bufferSize : Nat}
    (h : Reaches bufferSize (opened fromClient fromOrigin) session) :
    session.Sound fromClient fromOrigin := by
  induction h with
  | here => exact sound_opened
  | snoc _ hstep ih => exact ih.step hstep

end TunnelSession

/-! ## What was read before -/

open Program (Taken Guards guards_act guards_bind guards_pure)

/-- What a peer had sent when a program had taken actions. -/
def received (side : Side) (taken : List (Taken Action.Reply)) : Bytes :=
  taken.flatMap fun
    | ⟨.receive source _, inflow⟩ => if source = side then Inflow.bytes inflow else []
    | _ => []

/-- What a peer sends later follows what was read ahead. -/
private theorem Inflow.read_append {α : Type} {reader : StreamReader α}
    (hsettled : ∀ stream, reader.SettledOn stream) {inflow : Inflow} {value : α} {held : Held}
    (h : Inflow.read reader inflow = .ok (value, held)) (more : Bytes) :
    reader (inflow.bytes ++ more) = .ok (value, held.pending ++ (held.later ++ more)) := by
  obtain ⟨rest, hread, hrest⟩ := Service.exists_of_inflow_read h
  obtain ⟨taken, hsplit, hall⟩ := (hsettled inflow.bytes).accepted hread
  rw [hsplit, List.append_assoc, hall, hrest, List.append_assoc]

section Before

variable {handler : Handler} {address : String} {request : Request} {held : Held}
  {taken past : List (Taken Action.Reply)}

end Before

/-! ## Delivery -/

namespace TunnelSession

end TunnelSession

end Intermediary
