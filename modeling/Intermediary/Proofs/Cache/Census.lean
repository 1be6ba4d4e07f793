import Intermediary.Proofs.Cache.TimedMap
import Intermediary.Proofs.Metrics
import Mathlib.Data.Set.Card

/-!
# The census of a cache

What is recorded while a cache is used agrees with what the cache is.  The gauge
shows the number of its entries after every operation, and every lookup is
counted once, by how it ended.  The entries are those of the fingerprints that
the history leaves: a response was inserted, and since then nothing was cleared
away and no lookup has come upon it too late.
-/

namespace Intermediary.Cache

/-! ## What is recorded -/

def Operation.isLookup : Operation -> Bool
  | .lookup _ => true
  | _ => false

namespace Timed

def measures (timed : Timed) : Operation -> List Measure
  | .insert request response =>
      (timed.cache.insert request.fingerprint response timed.now).2
  | .lookup request => (timed.cache.lookup request.fingerprint timed.now).2.2
  | .clear => timed.cache.clear.2
  | .mayStore _ | .setCeiling _ | .wait _ => []

def answers (timed : Timed) : Operation -> List (Option Response)
  | .lookup request => [timed.answer request]
  | _ => []

/-- What is noted of each operation of a history, on the cache as it is by then. -/
def notes {α : Type} (note : Timed -> Operation -> List α) (timed : Timed) :
    List Operation -> List α
  | [] => []
  | operation :: history =>
      note timed operation ++ notes note (timed.step operation) history

def reported (history : List Operation) : Metrics.Report :=
  Metrics.report (notes measures fresh history)

theorem run_snoc (history : List Operation) (operation : Operation) :
    run (history ++ [operation]) = (run history).step operation := by
  simp [run]

theorem notes_snoc {α : Type} (note : Timed -> Operation -> List α) (timed : Timed)
    (history : List Operation) (operation : Operation) :
    notes note timed (history ++ [operation]) =
      notes note timed history ++ note (history.foldl step timed) operation := by
  induction history generalizing timed with
  | nil => simp [notes]
  | cons first history ih => simp [notes, ih]

end Timed

/-! ## The gauge -/

section Gauge

variable {cache : Cache} {print : Fingerprint}

/-- A lookup records a number of entries exactly when it leaves another one. -/
private theorem gauge_lookup {now : Nat} {report : Metrics.Report}
    (h : Metrics.value report .entries = cache.size) :
    Metrics.value ((cache.lookup print now).2.2.foldl Metrics.record report) .entries =
      (cache.lookup print now).2.1.size := by
  unfold lookup peek evict
  cases cache.find? print with
  | none => simpa [Metrics.value_entries_record] using h
  | some entry =>
      by_cases hold : entry.isExpired now = true
      · simp [hold, Metrics.value_entries_record]
      · simpa [hold, Metrics.value_entries_record] using h

private theorem gauge_insert {response : Response} {now : Nat} {report : Metrics.Report}
    (h : Metrics.value report .entries = cache.size) :
    Metrics.value ((cache.insert print response now).2.foldl Metrics.record report) .entries =
      (cache.insert print response now).1.size := by
  unfold insert
  cases cache.lifetime? response with
  | none => exact h
  | some lifetime => simp [Metrics.value_entries_record]

end Gauge

namespace Timed

theorem gauge_step {timed : Timed} {report : Metrics.Report}
    (h : Metrics.value report .entries = timed.cache.size) (operation : Operation) :
    Metrics.value ((timed.measures operation).foldl Metrics.record report) .entries =
      (timed.step operation).cache.size := by
  cases operation with
  | insert request response => exact gauge_insert h
  | lookup request => exact gauge_lookup h
  | clear => simp [measures, step, clear, size, Metrics.value_entries_record]
  | _ => exact h

theorem gauge_run (history : List Operation) :
    Metrics.value (reported history) .entries = (run history).cache.size := by
  induction history using List.reverseRecOn with
  | nil => rfl
  | append_singleton history operation ih =>
      unfold reported Metrics.report at ih ⊢
      rw [notes_snoc, List.foldl_append, run_snoc]
      exact gauge_step ih operation

/-! ## The counters -/

/-- Every lookup is recorded once, and as a hit exactly when it has an answer. -/
private theorem count_measures (timed : Timed) (operation : Operation) :
    (timed.measures operation).count (.lookup .hit) =
        (timed.answers operation).countP Option.isSome ∧
      (timed.measures operation).count (.lookup .hit) +
          (timed.measures operation).count (.lookup .miss) +
          (timed.measures operation).count (.lookup .expired) =
        [operation].countP Operation.isLookup := by
  cases operation with
  | insert request response =>
      unfold measures insert
      dsimp only
      split <;> simp [answers, Operation.isLookup]
  | lookup request =>
      unfold measures answers answer lookup peek evict
      dsimp only
      cases timed.cache.find? request.fingerprint with
      | none => simp [Operation.isLookup]
      | some entry =>
          by_cases hold : entry.isExpired timed.now = true
          · simp [hold, Operation.isLookup]
          · simp [hold, Operation.isLookup]
  | clear => simp [measures, answers, clear, Operation.isLookup]
  | _ => simp [measures, answers, Operation.isLookup]

private theorem count_notes (timed : Timed) (history : List Operation) :
    (notes measures timed history).count (.lookup .hit) =
        (notes answers timed history).countP Option.isSome ∧
      (notes measures timed history).count (.lookup .hit) +
          (notes measures timed history).count (.lookup .miss) +
          (notes measures timed history).count (.lookup .expired) =
        history.countP Operation.isLookup := by
  induction history generalizing timed with
  | nil => exact ⟨rfl, rfl⟩
  | cons operation history ih =>
      obtain ⟨hhits, hall⟩ := count_measures timed operation
      obtain ⟨hlater, hrest⟩ := ih (timed.step operation)
      have hcons : (operation :: history).countP Operation.isLookup =
          [operation].countP Operation.isLookup + history.countP Operation.isLookup := by
        rw [← List.countP_append, List.singleton_append]
      simp only [notes, List.count_append, List.countP_append]
      omega

end Timed

/-! ## The entries -/

/-- A lookup for a fingerprint comes upon a response that has outlived its age. -/
def Operation.FindsExpired (print : Fingerprint) (before : List Operation) :
    Operation -> Prop
  | .lookup request =>
      request.fingerprint = print ∧ ∃ earlier stored response age,
        Latest print before earlier (.insert stored response) ∧ response.AllowsAge age ∧
        elapsed earlier + 1000 * capped (ceilingAfter earlier) age < elapsed before
  | _ => False

/--
A response that may be stored was inserted for a fingerprint, and since then
nothing was cleared and no lookup has found it expired.
-/
def Remains (print : Fingerprint) (history : List Operation) : Prop :=
  ∃ before request response after,
    history = before ++ .insert request response :: after ∧
    (Operation.insert request response).Decides print before ∧ .clear ∉ after ∧
    ∀ between operation later, after = between ++ operation :: later ->
      ¬ operation.FindsExpired print (before ++ .insert request response :: between)

section Remains

variable {print : Fingerprint} {history : List Operation} {last : Operation}

theorem not_remains_nil : ¬ Remains print [] := by
  rintro ⟨before, request, response, after, hnil, _⟩
  simp at hnil

/-- An insertion that decides leaves an entry, whatever was there. -/
theorem remains_snoc_of_insert {request : Request} {response : Response}
    (h : (Operation.insert request response).Decides print history) :
    Remains print (history ++ [.insert request response]) :=
  ⟨history, request, response, [], rfl, h, List.not_mem_nil,
    fun between operation later hnil => by simp at hnil⟩

/-- Whatever else is done last keeps what remains, if it does not end it. -/
theorem remains_snoc_iff
    (h : last.Decides print history -> last = .clear) :
    Remains print (history ++ [last]) ↔
      Remains print history ∧ last ≠ .clear ∧ ¬ last.FindsExpired print history := by
  constructor
  · rintro ⟨before, request, response, after, hsplit, hdecides, hclear, hfinds⟩
    obtain ⟨_, rfl, rfl⟩ | ⟨init, rfl, rfl⟩ := snoc_eq_append_cons hsplit
    · cases h hdecides
    · refine ⟨⟨before, request, response, init, rfl, hdecides,
        fun hmem => hclear (List.mem_append_left _ hmem),
        fun between operation later hinit => ?_⟩, ?_, hfinds init last [] rfl⟩
      · exact hfinds between operation (later ++ [last]) (by simp [hinit])
      · rintro rfl
        exact hclear (List.mem_append_right _ List.mem_cons_self)
  · rintro ⟨⟨before, request, response, after, rfl, hdecides, hclear, hfinds⟩, hlast, hnot⟩
    refine ⟨before, request, response, after ++ [last], by simp, hdecides, ?_,
      fun between operation later hafter => ?_⟩
    · simpa [hclear] using hlast.symm
    · obtain ⟨_, rfl, rfl⟩ | ⟨init, _, hbetween⟩ := snoc_eq_append_cons hafter
      · exact hnot
      · exact hfinds between operation init hbetween

end Remains

section Entries

variable {cache : Cache} {print other : Fingerprint} {history : List Operation}

/-- After a lookup the entry is there exactly if it is not too old. -/
private theorem find?_lookup_self (cache : Cache) (print : Fingerprint) (now : Nat) :
    (cache.lookup print now).2.1.find? print =
      (cache.find? print).filter fun entry => ! entry.isExpired now := by
  unfold lookup peek evict
  cases hfound : cache.find? print with
  | none => simpa using hfound
  | some entry =>
      by_cases hold : entry.isExpired now = true
      · simp [hold, Option.filter]
      · simpa [hold, Option.filter] using hfound

private theorem find?_lookup_of_ne {now : Nat} (h : other ≠ print) :
    (cache.lookup print now).2.1.find? other = cache.find? other := by
  obtain hcache | hcache := lookup_cache cache print now
  · rw [hcache]
  · rw [hcache, find?_evict_of_ne h]

/-- The responses that are stored are those whose insertion decides. -/
theorem isSome_lifetime?_iff {request : Request} {response : Response} :
    ((Timed.run history).cache.lifetime? response).isSome = true ∧
        request.fingerprint = print ↔
      (Operation.insert request response).Decides print history := by
  rw [(Refines.run history).lifetime, TimedMap.run_ceiling, Option.isSome_iff_exists]
  simp only [Response.lifetime?_eq_some_iff]
  constructor
  · rintro ⟨⟨lifetime, age, hage, rfl, hpos⟩, hprint⟩
    exact ⟨hprint, age, hage, hpos⟩
  · rintro ⟨hprint, age, hage, hpos⟩
    exact ⟨⟨_, age, hage, rfl, hpos⟩, hprint⟩

/-- An entry is too old exactly when a lookup for it finds it expired. -/
theorem isExpired_iff_findsExpired {request : Request} {entry : CacheEntry}
    (h : (Timed.run history).cache.find? request.fingerprint = some entry) :
    entry.isExpired (Timed.run history).now = true ↔
      (Operation.lookup request).FindsExpired request.fingerprint history := by
  -- what the cache has, the map holds
  have hheld : (TimedMap.run history).held request.fingerprint = some entry := by
    obtain hsame | ⟨hnone, _⟩ := (Refines.run history).found request.fingerprint
    · exact hsame.symm.trans h
    · rw [h] at hnone
      cases hnone
  rw [(Refines.run history).now, TimedMap.run_now]
  constructor
  · intro hold
    obtain ⟨earlier, stored, age, hlatest, hage, hstored, hlifetime⟩ :=
      TimedMap.held_run_eq_some_iff.1 hheld
    refine ⟨rfl, earlier, stored, entry.response, age, hlatest, hage, ?_⟩
    rw [← hstored, ← hlifetime]
    simp only [CacheEntry.isExpired, decide_eq_true_eq] at hold
    omega
  · rintro ⟨_, earlier, stored, response, age, hlatest, hage, hlong⟩
    -- the map holds one entry, of the latest operation that decides
    have hsame : (TimedMap.run history).held request.fingerprint =
        some ⟨response, elapsed earlier, capped (ceilingAfter earlier) age⟩ :=
      TimedMap.held_run_eq_some_iff.2 ⟨earlier, stored, age, hlatest, hage, rfl, rfl⟩
    cases hheld.symm.trans hsame
    simp only [CacheEntry.isExpired, decide_eq_true_eq]
    omega

private theorem isSome_find?_insert {request : Request} {response : Response}
    (ih : ((Timed.run history).cache.find? print).isSome = true ↔ Remains print history) :
    (((Timed.run history).step (.insert request response)).cache.find? print).isSome = true ↔
      Remains print (history ++ [.insert request response]) := by
  by_cases hdecides : (Operation.insert request response).Decides print history
  · obtain ⟨hstore, rfl⟩ := isSome_lifetime?_iff.2 hdecides
    obtain ⟨lifetime, hlifetime⟩ := Option.isSome_iff_exists.1 hstore
    simp [Timed.step, insert_of_lifetime hlifetime, remains_snoc_of_insert hdecides]
  · have hkept : ((Timed.run history).step (.insert request response)).cache.find? print =
        (Timed.run history).cache.find? print := by
      unfold Timed.step
      dsimp only
      cases hlifetime : (Timed.run history).cache.lifetime? response with
      | none => rw [insert_of_not_lifetime hlifetime]
      | some lifetime =>
          rw [insert_of_lifetime hlifetime]
          refine find?_put_of_ne fun hprint => hdecides ?_
          exact isSome_lifetime?_iff.1 ⟨by rw [hlifetime]; rfl, hprint.symm⟩
    rw [hkept, ih, remains_snoc_iff (absurd · hdecides)]
    simp [Operation.FindsExpired]

private theorem isSome_find?_lookup {request : Request}
    (ih : ((Timed.run history).cache.find? print).isSome = true ↔ Remains print history) :
    (((Timed.run history).step (.lookup request)).cache.find? print).isSome = true ↔
      Remains print (history ++ [.lookup request]) := by
  rw [remains_snoc_iff False.elim]
  simp only [ne_eq, reduceCtorEq, not_false_eq_true, true_and, ← ih]
  unfold Timed.step
  dsimp only
  by_cases hprint : print = request.fingerprint
  · subst hprint
    rw [find?_lookup_self]
    cases hfound : (Timed.run history).cache.find? request.fingerprint with
    | none => simp
    | some entry =>
        rw [← isExpired_iff_findsExpired hfound]
        cases hold : entry.isExpired (Timed.run history).now <;> simp [hold]
  · rw [find?_lookup_of_ne hprint]
    simp [Operation.FindsExpired, Ne.symm hprint]

/-- The cache has an entry of exactly the fingerprints that its history leaves. -/
theorem isSome_find?_run_iff :
    ((Timed.run history).cache.find? print).isSome = true ↔ Remains print history := by
  induction history using List.reverseRecOn with
  | nil => simp [Timed.run, Timed.fresh, find?, empty, not_remains_nil]
  | append_singleton history operation ih =>
      rw [Timed.run_snoc]
      cases operation with
      | insert request response => exact isSome_find?_insert ih
      | lookup request => exact isSome_find?_lookup ih
      | clear =>
          rw [remains_snoc_iff fun _ => rfl]
          simp [Timed.step, clear, find?]
      | _ =>
          rw [remains_snoc_iff False.elim]
          exact ih.trans (by simp [Operation.FindsExpired])

/-! ## One entry for each fingerprint -/

def prints (cache : Cache) : List Fingerprint :=
  cache.entries.map Prod.fst

theorem mem_prints_iff : print ∈ cache.prints ↔ (cache.find? print).isSome = true := by
  unfold prints find?
  rw [Option.isSome_map, List.find?_isSome]
  simp

private theorem nodup_prints_erase (h : cache.prints.Nodup) : (cache.erase print).prints.Nodup :=
  h.sublist (List.filter_sublist.map Prod.fst)

private theorem nodup_prints_put {entry : CacheEntry} (h : cache.prints.Nodup) :
    (cache.put print entry).prints.Nodup := by
  refine List.nodup_cons.2 ⟨?_, nodup_prints_erase h⟩
  change print ∉ (cache.erase print).prints
  simp [mem_prints_iff]

theorem nodup_prints_step {timed : Timed} (h : timed.cache.prints.Nodup)
    (operation : Operation) : (timed.step operation).cache.prints.Nodup := by
  cases operation with
  | insert request response =>
      unfold Timed.step
      dsimp only
      cases hlifetime : timed.cache.lifetime? response with
      | none => rw [insert_of_not_lifetime hlifetime]; exact h
      | some lifetime => rw [insert_of_lifetime hlifetime]; exact nodup_prints_put h
  | lookup request =>
      unfold Timed.step
      dsimp only
      obtain hcache | hcache := lookup_cache timed.cache request.fingerprint timed.now
      · rw [hcache]; exact h
      · obtain hsame | ⟨_, _, _, herased⟩ :=
          evict_cache timed.cache request.fingerprint timed.now
        · rw [hcache, hsame]; exact h
        · rw [hcache, herased]; exact nodup_prints_erase h
  | clear => exact List.nodup_nil
  | _ => exact h

theorem nodup_prints_run (history : List Operation) :
    (Timed.run history).cache.prints.Nodup := by
  induction history using List.reverseRecOn with
  | nil => exact List.nodup_nil
  | append_singleton history operation ih =>
      rw [Timed.run_snoc]
      exact nodup_prints_step ih operation

/-- There are as many entries as fingerprints that remain. -/
theorem encard_remains (history : List Operation) :
    {print | Remains print history}.encard = (Timed.run history).cache.size := by
  have hset : {print | Remains print history} =
      ((Timed.run history).cache.prints.toFinset : Set Fingerprint) := by
    ext print
    simp [← isSome_find?_run_iff, mem_prints_iff]
  rw [hset, Set.encard_coe_eq_coe_finsetCard,
    List.toFinset_card_of_nodup (nodup_prints_run history)]
  simp [prints, size]

end Entries

/-! ## The census -/

/-- What is reported after a history agrees with the cache that it leaves. -/
structure Timed.Tallies (history : List Operation) : Prop where
  gauge : Metrics.value (reported history) .entries = (run history).cache.size
  isEmpty : (run history).cache.size = 0 ↔ (run history).cache.isEmpty = true
  remaining : {print | Remains print history}.encard = (run history).cache.size
  lookups : Metrics.value (reported history) (.lookups .hit) +
      Metrics.value (reported history) (.lookups .miss) +
      Metrics.value (reported history) (.lookups .expired) =
    history.countP Operation.isLookup
  hits : Metrics.value (reported history) (.lookups .hit) =
    (notes answers fresh history).countP Option.isSome

/--
After every operation the gauge shows the number of entries, which is that of
the fingerprints whose response remains; the counters of hits, misses and
expired entries add up to the lookups, and the hits are the lookups that gave a
response.
-/
theorem Timed.tallies_run (history : List Operation) : Tallies history where
  gauge := gauge_run history
  isEmpty := by simp [size, Cache.isEmpty]
  remaining := encard_remains history
  lookups := by
    unfold reported
    simp only [Metrics.value_lookups]
    exact_mod_cast (count_notes fresh history).2
  hits := by
    unfold reported
    rw [Metrics.value_lookups, (count_notes fresh history).1]

end Intermediary.Cache
