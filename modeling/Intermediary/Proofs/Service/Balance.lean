import Intermediary.Proofs.Service.Concurrent
import Mathlib.Algebra.BigOperators.Group.List.Lemmas

/-!
# The balance of the metrics

When all calls have come to their end, the metrics account for each of them, and
for nothing else, in whatever order their actions were carried out.
-/

namespace Intermediary

open Serving Metrics

def Call.hasConnected (call : Call) : Bool :=
  call.history.any Occurrence.isConnect

/-- Under what a call is entered in the metrics. -/
structure Charge where
  label : Option (String × Nat)
  outcome : TunnelOutcome
  result? : Option LookupResult

def Charge.measures (charge : Charge) (call : Call) : List Measure :=
  (if call.isBlocked then [.blocked] else []) ++
    ((charge.label.map fun counted => .request counted.1 counted.2).toList ++
      if call.reachesTarget then [.tunnel charge.outcome call.toOrigin call.toClient] else []) ++
    (charge.result?.map .lookup).toList

/-- What was recorded on the account of a call is a charge for it. -/
structure Call.Charged (call : Call) (recorded : List Measure) (charge : Charge) : Prop where
  labelled : call.Labelled charge.label
  unshaken : call.handshakeFails = true -> call.toOrigin = 0 ∧ call.toClient = 0
  recorded : (charges recorded).Perm (charge.measures call)
  asked : charge.result?.isSome = call.asksCache
  hit : (charge.result? == some .hit) = (call.asksCache && ! call.hasConnected)

/-- The service itself measures nothing that goes into a gauge. -/
theorem Call.Settled.charges_measured {call : Call} {label : Option (String × Nat)}
    (h : call.Settled label) :
    charges call.history.tally.measured = call.history.tally.measured := by
  obtain ⟨outcome, hmeasured⟩ := h.measured
  refine List.filter_eq_self.2 fun recording hmem => ?_
  rw [hmeasured] at hmem
  obtain hmem | hmem := List.mem_append.1 hmem
  · split at hmem
    · rw [List.mem_singleton.1 hmem]
      rfl
    · cases hmem
  · obtain hmem | hmem := List.mem_append.1 hmem
    · obtain ⟨_, _, rfl⟩ := Option.map_eq_some_iff.1 (Option.mem_toList.1 hmem)
      rfl
    · split at hmem
      · rw [List.mem_singleton.1 hmem]
        rfl
      · cases hmem

theorem Call.Settled.exists_charged {call : Call} {label : Option (String × Nat)}
    {recorded : List Measure} {results : List LookupResult} (h : call.Settled label)
    (haccount : call.history.Recorded recorded results) :
    ∃ charge, call.Charged recorded charge := by
  have hcharged := haccount.charged
  obtain ⟨outcome, hmeasured⟩ := h.measured
  rw [h.charges_measured, hmeasured] at hcharged
  have hlength : results.length = call.history.tally.lookups.length := by
    simpa using congrArg List.length haccount.looked
  rw [h.lookups] at hlength
  cases hasks : call.asksCache with
  | false =>
      rw [hasks] at hlength
      obtain rfl := List.length_eq_zero_iff.1 hlength
      refine ⟨⟨label, outcome, none⟩, h.labelled, h.unshaken, hcharged, hasks.symm, ?_⟩
      rw [hasks]
      rfl
  | true =>
      rw [hasks] at hlength
      obtain ⟨result, rfl⟩ := List.length_eq_one_iff.1 hlength
      obtain ⟨found, hfound⟩ :=
        List.length_eq_one_iff.1 (h.lookups.trans (by rw [hasks]; rfl))
      have hsame : (result == .hit) = found.isSome := by
        simpa [hfound] using haccount.looked
      have hhit : found.isSome = ! call.hasConnected := by
        have hlooked := h.hit hasks
        unfold Call.isHit at hlooked
        rw [hfound, List.any_cons, List.any_nil, Bool.or_false] at hlooked
        exact hlooked
      refine ⟨⟨label, outcome, some result⟩, h.labelled, h.unshaken, hcharged, hasks.symm,
        ?_⟩
      rw [hasks, ← hhit, ← hsame]
      rfl

/-! ## Sums over all calls -/

section

variable {α : Type} {isMeant : Metric -> Bool}

private theorem sum_ite_eq_countP (p : α -> Bool) (entries : List α) :
    (entries.map fun entry => if p entry then (1 : Int) else 0).sum = entries.countP p := by
  induction entries with
  | nil => rfl
  | cons entry entries ih =>
      rw [List.map_cons, List.sum_cons, ih, List.countP_cons]
      split <;> simp [Int.add_comm]

/-- Gauges have no share in counters and histograms. -/
theorem Metrics.sum_charges (measures : List Measure) :
    ((charges measures).map (Measure.share isMeant)).sum =
      (measures.map (Measure.share isMeant)).sum := by
  induction measures with
  | nil => rfl
  | cons recording measures ih =>
      unfold charges at ih ⊢
      cases hgauge : recording.isGauge with
      | true =>
          have hnone : recording.share isMeant = 0 := by
            cases recording <;> first | rfl | cases hgauge
          rw [List.filter_cons_of_neg (by simp [hgauge]), List.map_cons, List.sum_cons, hnone,
            Int.zero_add, ih]
      | false =>
          rw [List.filter_cons_of_pos (by simp [hgauge]), List.map_cons, List.map_cons,
            List.sum_cons, List.sum_cons, ih]

end

/-- What a charge comes to for a class of metrics. -/
theorem Charge.share_measures (charge : Charge) (call : Call) (isMeant : Metric -> Bool) :
    ((charge.measures call).map (Measure.share isMeant)).sum =
      (if call.isBlocked then Measure.share isMeant .blocked else 0) +
        (charge.label.elim 0 fun counted =>
          Measure.share isMeant (.request counted.1 counted.2)) +
        (if call.reachesTarget then
          Measure.share isMeant (.tunnel charge.outcome call.toOrigin call.toClient) else 0) +
        (charge.result?.elim 0 fun result => Measure.share isMeant (.lookup result)) := by
  obtain ⟨label, outcome, result?⟩ := charge
  unfold measures
  rw [List.map_append, List.map_append, List.map_append, List.sum_append, List.sum_append,
    List.sum_append, ← Int.add_assoc]
  refine congrArg₂ (· + ·) (congrArg₂ (· + ·) (congrArg₂ (· + ·) ?_ ?_) ?_) ?_
  · split <;> simp
  · cases label <;> simp
  · split <;> simp
  · cases result? <;> simp

private theorem Charge.count_hit (charge : Charge) (call : Call) :
    (charge.measures call).count (.lookup .hit) =
      if charge.result? == some .hit then 1 else 0 := by
  obtain ⟨label, outcome, result?⟩ := charge
  unfold measures
  have hblocked : (if call.isBlocked then [Measure.blocked] else []).count (.lookup .hit) = 0 := by
    split <;> rfl
  have htunnel : (if call.reachesTarget then
      [Measure.tunnel outcome call.toOrigin call.toClient] else []).count (.lookup .hit) = 0 := by
    split
    · exact List.count_eq_zero.2 (by simp)
    · rfl
  rw [List.count_append, List.count_append, List.count_append, hblocked, htunnel]
  cases label <;> cases result? <;> simp [List.count_cons]

/-- A call that is not counted is lost, or else the handshake of its tunnel fails. -/
theorem Call.Labelled.counted {call : Call} {label : Option (String × Nat)}
    (h : call.Labelled label) :
    (if label.isSome then 1 else 0) + (if call.isLost then 1 else 0) +
      (if call.handshakeFails then 1 else 0) = 1 := by
  cases h with
  | lost hlost hshaken => rw [hlost, hshaken]; rfl
  | unshaken hunshaken hkept => rw [hunshaken, hkept]; rfl
  | answered response _ hkept hshaken => rw [hkept, hshaken]; rfl
  | established _ _ hkept hshaken => rw [hkept, hshaken]; rfl

namespace ServiceCalls

variable {service start : ServiceCalls}

/-- Charges, one for each call that was made. -/
structure Charged (service : ServiceCalls) (entries : List (ServedCall × Charge)) : Prop where
  made : entries.map Prod.fst = service.made
  charged : ∀ entry ∈ entries,
    (entry.1.call service.handler).Charged entry.1.recorded entry.2
  recorded : (charges service.recorded).Perm
    (entries.flatMap fun entry => charges entry.1.recorded)

/-- When all calls have come to their end, each was charged. -/
theorem Sound.exists_charged (h : service.Sound)
    (hdone : ∀ served ∈ service.made, served.isDone = true) :
    ∃ entries, service.Charged entries := by
  have hserved : ∀ served : ServedCall, served ∈ service.made ->
      ∃ charge, (served.call service.handler).Charged served.recorded charge := by
    intro served hmem
    obtain ⟨hrun, results, haccount⟩ := h.made served hmem
    have hrest : served.rest = .done () := by
      have hisDone := hdone served hmem
      unfold ServedCall.isDone at hisDone
      split at hisDone
      · assumption
      · cases hisDone
    rw [hrest] at hrun
    have hended : Ends (Service.serve service.handler served.client) served.history () := hrun
    obtain ⟨label, hsettled⟩ :=
      @Call.settled_of_ends (served.call service.handler) hended
    exact hsettled.exists_charged haccount
  choose charge hcharge using hserved
  refine ⟨service.made.attach.map fun served => (served.1, charge served.1 served.2), ?_, ?_, ?_⟩
  · simp
  · intro entry hmem
    obtain ⟨⟨served, hserved⟩, _, rfl⟩ := List.mem_map.1 hmem
    exact hcharge served hserved
  · refine h.recorded.trans (.of_eq ?_)
    simp [List.flatMap_map]

namespace Charged

variable {entries : List (ServedCall × Charge)} {isMeant : Metric -> Bool} {metric : Metric}

theorem calls (h : service.Charged entries) :
    service.calls = entries.map fun entry => entry.1.call service.handler := by
  rw [ServiceCalls.calls, ← h.made, List.map_map]
  rfl

private theorem countP_calls (h : service.Charged entries) (p : Call -> Bool) :
    service.calls.countP p = entries.countP fun entry => p (entry.1.call service.handler) := by
  rw [h.calls, List.countP_map]
  rfl

/-- A class of metrics comes to what the charges come to. -/
theorem total (h : service.Charged entries) (hentries : isMeant .entries = false)
    (hactive : isMeant .active = false) {worth : ServedCall × Charge -> Int}
    (hworth : ∀ entry ∈ entries, ((entry.2.measures (entry.1.call service.handler)).map
      (Measure.share isMeant)).sum = worth entry) :
    Metrics.total isMeant service.report = (entries.map worth).sum := by
  rw [report, total_report hentries hactive, ← sum_charges]
  refine ((h.recorded.map _).sum_eq).trans ?_
  rw [List.map_flatMap, List.flatMap_def, List.sum_flatten, List.map_map]
  refine congrArg List.sum (List.map_congr_left fun entry hmem => ?_)
  exact (((h.charged entry hmem).recorded.map _).sum_eq).trans (hworth entry hmem)

/-- A class of metrics counts the charges that add one to it. -/
theorem total_countP (h : service.Charged entries) (hentries : isMeant .entries = false)
    (hactive : isMeant .active = false) {p : ServedCall × Charge -> Bool}
    (hworth : ∀ entry ∈ entries, ((entry.2.measures (entry.1.call service.handler)).map
      (Measure.share isMeant)).sum = if p entry then 1 else 0) :
    Metrics.total isMeant service.report = entries.countP p :=
  (h.total hentries hactive hworth).trans (sum_ite_eq_countP p entries)

/-- A counter or histogram comes to what the charges come to. -/
theorem value (h : service.Charged entries) (hkind : metric.kind ≠ .gauge)
    {worth : ServedCall × Charge -> Int}
    (hworth : ∀ entry ∈ entries, ((entry.2.measures (entry.1.call service.handler)).map
      (Measure.share (· == metric))).sum = worth entry) :
    Metrics.value service.report metric = (entries.map worth).sum := by
  refine (value_report service.recorded).trans (h.total ?_ ?_ hworth)
  · exact beq_false_of_ne fun hsame => hkind (hsame ▸ rfl)
  · exact beq_false_of_ne fun hsame => hkind (hsame ▸ rfl)

private theorem value_countP (h : service.Charged entries) (hkind : metric.kind ≠ .gauge)
    {p : ServedCall × Charge -> Bool}
    (hworth : ∀ entry ∈ entries, ((entry.2.measures (entry.1.call service.handler)).map
      (Measure.share (· == metric))).sum = if p entry then 1 else 0) :
    Metrics.value service.report metric = entries.countP p :=
  (h.value hkind hworth).trans (sum_ite_eq_countP p entries)

/-- The calls that are counted are all but the lost ones and those without a handshake. -/
theorem countP_label (h : service.Charged entries) :
    (entries.countP fun entry => entry.2.label.isSome) + service.calls.countP Call.isLost +
      service.calls.countP Call.handshakeFails = service.calls.length := by
  rw [h.countP_calls, h.countP_calls, h.calls, List.length_map]
  have hcounted : ∀ entry ∈ entries,
      (if entry.2.label.isSome then 1 else 0) +
        (if (entry.1.call service.handler).isLost then 1 else 0) +
        (if (entry.1.call service.handler).handshakeFails then 1 else 0) = 1 :=
    fun entry hmem => (h.charged entry hmem).labelled.counted
  clear h
  induction entries with
  | nil => rfl
  | cons entry entries ih =>
      obtain ⟨hfirst, hrest⟩ := List.forall_mem_cons.1 hcounted
      have hlater := ih hrest
      simp only [List.countP_cons, List.length_cons]
      omega

/-- A class to which each counted call adds one counts them. -/
theorem total_counted (h : service.Charged entries) (hentries : isMeant .entries = false)
    (hactive : isMeant .active = false)
    (hworth : ∀ entry ∈ entries, ((entry.2.measures (entry.1.call service.handler)).map
      (Measure.share isMeant)).sum = if entry.2.label.isSome then 1 else 0) :
    Metrics.total isMeant service.report = service.calls.length -
      service.calls.countP Call.isLost - service.calls.countP Call.handshakeFails := by
  have htotal := h.total_countP hentries hactive hworth
  have hcounted := h.countP_label
  omega

/-- Bytes are relayed in established tunnels only. -/
theorem sum_established (h : service.Charged entries) (bytes : Call -> Nat)
    (hunshaken : ∀ entry ∈ entries, (entry.1.call service.handler).handshakeFails = true ->
      bytes (entry.1.call service.handler) = 0) :
    (entries.map fun entry => if (entry.1.call service.handler).reachesTarget then
      (bytes (entry.1.call service.handler) : Int) else 0).sum =
      (((service.calls.filter Call.isEstablished).map bytes).sum : Nat) := by
  rw [h.calls]
  clear h
  induction entries with
  | nil => rfl
  | cons entry entries ih =>
      obtain ⟨hfirst, hrest⟩ := List.forall_mem_cons.1 hunshaken
      rw [List.map_cons, List.sum_cons, ih hrest, List.map_cons, List.filter_cons]
      unfold Call.handshakeFails at hfirst
      unfold Call.isEstablished
      cases hreaches : (entry.1.call service.handler).reachesTarget with
      | false => simp
      | true =>
          cases hfails : (entry.1.call service.handler).history.fromTunnel.any
              Occurrence.writeFails with
          | true => simp [hfirst (by rw [hreaches, hfails]; rfl)]
          | false => simp

end Charged

/-- The metrics account for every call, and for nothing else. -/
structure Balanced (service : ServiceCalls) : Prop where
  requests : totalOf "proxy_requests_total" service.report = service.calls.length -
    service.calls.countP Call.isLost - service.calls.countP Call.handshakeFails
  durations : totalOf "proxy_request_duration_seconds" service.report = service.calls.length -
    service.calls.countP Call.isLost - service.calls.countP Call.handshakeFails
  labels : ∃ labels, List.Forall₂ Call.Labelled service.calls labels ∧
    (∀ method status, value service.report (.requests method status) =
      labels.count (some (method, status))) ∧
    ∀ method, value service.report (.durations method) =
      labels.countP fun label => label.any (·.1 == method)
  tunnels : totalOf "proxy_tunnels_total" service.report = service.calls.countP Call.reachesTarget
  toOrigin : value service.report .bytesToOrigin =
    (((service.calls.filter Call.isEstablished).map Call.toOrigin).sum : Nat)
  toClient : value service.report .bytesToClient =
    (((service.calls.filter Call.isEstablished).map Call.toClient).sum : Nat)
  blocked : value service.report .blocked = service.calls.countP Call.isBlocked
  lookups : totalOf "proxy_cache_lookups_total" service.report =
    service.calls.countP Call.asksCache
  hits : value service.report (.lookups .hit) =
    service.calls.countP fun call => call.asksCache && ! call.hasConnected
  /-- The hits are those of the calls that did not connect. -/
  hit : ∀ served ∈ service.made, served.recorded.count (.lookup .hit) =
    if (served.call service.handler).asksCache && ! (served.call service.handler).hasConnected
    then 1 else 0

private theorem Charged.balanced {entries : List (ServedCall × Charge)}
    (h : service.Charged entries) :
    service.Balanced where
  requests := by
    refine h.total_counted rfl rfl fun ⟨_, label, _, result?⟩ _ => ?_
    rw [Charge.share_measures]
    cases label <;> cases result? <;> simp [Measure.share, Metric.name]
  durations := by
    refine h.total_counted rfl rfl fun ⟨_, label, _, result?⟩ _ => ?_
    rw [Charge.share_measures]
    cases label <;> cases result? <;> simp [Measure.share, Metric.name]
  labels := by
    refine ⟨entries.map fun entry => entry.2.label, ?_, fun method status => ?_,
      fun method => ?_⟩
    · rw [h.calls, List.forall₂_map_left_iff, List.forall₂_map_right_iff, List.forall₂_same]
      exact fun entry hmem => (h.charged entry hmem).labelled
    · rw [List.count, List.countP_map]
      refine h.value_countP (by simp [Metric.kind]) fun ⟨_, label, _, result?⟩ _ => ?_
      rw [Charge.share_measures]
      cases label <;> cases result? <;> simp [Measure.share, Prod.ext_iff]
    · rw [List.countP_map]
      refine h.value_countP (by simp [Metric.kind]) fun ⟨_, label, _, result?⟩ _ => ?_
      rw [Charge.share_measures]
      cases label <;> cases result? <;> simp [Measure.share]
  tunnels := by
    rw [h.countP_calls]
    refine h.total_countP rfl rfl fun ⟨_, label, _, result?⟩ _ => ?_
    rw [Charge.share_measures]
    cases label <;> cases result? <;> simp [Measure.share, Metric.name]
  toOrigin := by
    rw [← h.sum_established Call.toOrigin fun entry hmem hfails =>
      ((h.charged entry hmem).unshaken hfails).1]
    refine h.value (by simp [Metric.kind]) fun ⟨_, label, _, result?⟩ _ => ?_
    rw [Charge.share_measures]
    cases label <;> cases result? <;> simp [Measure.share]
  toClient := by
    rw [← h.sum_established Call.toClient fun entry hmem hfails =>
      ((h.charged entry hmem).unshaken hfails).2]
    refine h.value (by simp [Metric.kind]) fun ⟨_, label, _, result?⟩ _ => ?_
    rw [Charge.share_measures]
    cases label <;> cases result? <;> simp [Measure.share]
  blocked := by
    rw [h.countP_calls]
    refine h.value_countP (by simp [Metric.kind]) fun ⟨_, label, _, result?⟩ _ => ?_
    rw [Charge.share_measures]
    cases label <;> cases result? <;> simp [Measure.share]
  lookups := by
    rw [h.countP_calls]
    refine h.total_countP rfl rfl fun ⟨_, label, _, result?⟩ hmem => ?_
    rw [Charge.share_measures, ← (h.charged _ hmem).asked]
    cases label <;> cases result? <;> simp [Measure.share, Metric.name]
  hits := by
    rw [h.countP_calls]
    refine h.value_countP (by simp [Metric.kind]) fun ⟨_, label, _, result?⟩ hmem => ?_
    rw [Charge.share_measures, ← (h.charged _ hmem).hit]
    cases label <;> cases result? <;> simp [Measure.share]
  hit := by
    intro served hmem
    rw [← h.made] at hmem
    obtain ⟨⟨served, charge⟩, hentry, rfl⟩ := List.mem_map.1 hmem
    have hcharged := h.charged _ hentry
    rw [← hcharged.hit, ← charge.count_hit, ← hcharged.recorded.count_eq]
    exact (List.count_filter rfl).symm

/--
Whatever calls are made and however their actions are mixed with each other and with
those of others: once all have come to their end, the metrics are in balance.
-/
theorem balanced_of_reaches {handler : Handler} {cache : Cache}
    (h : (opened handler cache).Reaches service)
    (hdone : ∀ served ∈ service.made, served.isDone = true) : service.Balanced := by
  have hsound := Sound.of_reaches h (.opened handler cache)
  obtain ⟨entries, hcharged⟩ := hsound.exists_charged hdone
  exact hcharged.balanced

/-- Two clients ask for the same page.  The second begins first, and is late. -/
def twoVisits : ServiceCalls :=
  play (.ofSettings {} .empty) .empty
    (obliging (Bytes.ofText "GET http://[::1]/ HTTP/1.1\r\n\r\n")
      (Bytes.ofText ("HTTP/1.1 200 OK\r\nCache-Control: max-age=60\r\n" ++
        "Content-Length: 2\r\n\r\nhi")))
    ["203.0.113.7", "203.0.113.8"] ([1] ++ List.replicate 16 0 ++ List.replicate 16 1)

theorem balanced_twoVisits :
    twoVisits.Balanced ∧ twoVisits.calls.length = 2 ∧
      totalOf "proxy_requests_total" twoVisits.report = 2 ∧
      value twoVisits.report (.lookups .hit) = 1 ∧
      value twoVisits.report (.lookups .miss) = 1 := by
  refine ⟨balanced_of_reaches (reaches_play (possible_obliging _ _) _ _ _ _) ?_, ?_, ?_⟩
  · decide +kernel
  · decide +kernel
  · decide +kernel

end ServiceCalls

end Intermediary
