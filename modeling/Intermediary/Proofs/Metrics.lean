import Intermediary.Metrics
import Mathlib.Algebra.BigOperators.Group.List.Basic
import Mathlib.Algebra.Ring.Int.Defs
import Mathlib.Data.List.Nodup

/-!
# What a report adds up

Of every counter and every histogram a report holds what the recordings add to
it, one by one and in any order.  So it is with the sum over metrics that differ
in their labels.  A gauge that is set shows the last of its recordings.
-/

namespace Intermediary

/-- What a recording adds to the metrics of a class, if there is no gauge in it. -/
def Measure.share (isMeant : Metric -> Bool) (measure : Measure) : Int :=
  let worth (metric : Metric) (count : Int) : Int := if isMeant metric then count else 0
  match measure with
  | .request method status => worth (.requests method status) 1 + worth (.durations method) 1
  | .lookup result => worth (.lookups result) 1
  | .tunnel outcome toOrigin toClient =>
      worth (.tunnels outcome) 1 + worth .bytesToOrigin toOrigin + worth .bytesToClient toClient
  | .blocked => worth .blocked 1
  | .entries _ | .opened | .closed => 0

def Measure.isGauge : Measure -> Bool
  | .entries _ | .opened | .closed => true
  | _ => false

namespace Metrics

variable {isMeant : Metric -> Bool} {metric : Metric}

def total (isMeant : Metric -> Bool) (report : Report) : Int :=
  (report.map fun entry => if isMeant entry.1 then entry.2 else 0).sum

/-- The sum of the metrics of a name, whatever their labels. -/
def totalOf (name : String) (report : Report) : Int :=
  total (·.name == name) report

theorem total_cons (entry : Metric × Int) (report : Report) :
    total isMeant (entry :: report) =
      (if isMeant entry.1 then entry.2 else 0) + total isMeant report :=
  List.sum_cons

private theorem total_update (change : Int -> Int) (report : Report) :
    total isMeant (update metric change report) = total isMeant report +
      if isMeant metric then change (value report metric) - value report metric else 0 := by
  induction report with
  | nil =>
      unfold update value
      rw [total_cons]
      simp [total]
  | cons entry rest ih =>
      obtain ⟨other, count⟩ := entry
      unfold update value
      by_cases hsame : other = metric
      · rw [if_pos hsame, if_pos hsame, total_cons, total_cons, hsame]
        split <;> omega
      · rw [if_neg hsame, if_neg hsame, total_cons, total_cons, ih]
        omega

private theorem total_add (count : Int) (report : Report) :
    total isMeant (update metric (· + count) report) =
      total isMeant report + if isMeant metric then count else 0 := by
  rw [total_update, add_sub_cancel_left]

private theorem total_record (hentries : isMeant .entries = false)
    (hactive : isMeant .active = false)
    (report : Report) (measure : Measure) :
    total isMeant (record report measure) = total isMeant report + measure.share isMeant := by
  cases measure with
  | request method status => simp [record, Measure.share, total_add, Int.add_assoc]
  | lookup result => simp [record, Measure.share, total_add]
  | entries count => simp [record, Measure.share, total_update, hentries]
  | tunnel outcome toOrigin toClient =>
      simp [record, Measure.share, total_add, Int.add_assoc]
  | blocked => simp [record, Measure.share, total_add]
  | opened => simp [record, Measure.share, total_add, hactive]
  | closed => simp [record, Measure.share, total_update, hactive]

/-- A class without gauges has in a report what the recordings add to it. -/
theorem total_report (hentries : isMeant .entries = false) (hactive : isMeant .active = false)
    (measures : List Measure) :
    total isMeant (report measures) = (measures.map (Measure.share isMeant)).sum := by
  have hfold : ∀ start : Report, total isMeant (measures.foldl record start) =
      total isMeant start + (measures.map (Measure.share isMeant)).sum := by
    induction measures with
    | nil => exact fun start => (Int.add_zero _).symm
    | cons measure measures ih =>
        intro start
        rw [List.foldl_cons, ih, total_record hentries hactive, List.map_cons, List.sum_cons,
          Int.add_assoc]
  exact (hfold []).trans (Int.zero_add _)

/-! ## One metric of its own -/

private theorem keys_update (change : Int -> Int) (report : Report) :
    (update metric change report).map Prod.fst =
      if metric ∈ report.map Prod.fst then report.map Prod.fst
      else report.map Prod.fst ++ [metric] := by
  induction report with
  | nil => rfl
  | cons entry rest ih =>
      obtain ⟨other, count⟩ := entry
      unfold update
      by_cases hsame : other = metric
      · simp [hsame]
      · rw [if_neg hsame, List.map_cons, ih]
        simp only [List.map_cons, List.mem_cons, Ne.symm hsame, false_or]
        split <;> rfl

private theorem nodup_update {change : Int -> Int} {report : Report}
    (h : (report.map Prod.fst).Nodup) : ((update metric change report).map Prod.fst).Nodup := by
  rw [keys_update]
  split
  · exact h
  · next hnew =>
    exact (List.perm_append_singleton _ _).nodup_iff.2 (List.nodup_cons.2 ⟨hnew, h⟩)

private theorem nodup_record {report : Report} (measure : Measure)
    (h : (report.map Prod.fst).Nodup) : ((record report measure).map Prod.fst).Nodup := by
  cases measure with
  | request method status => exact nodup_update (nodup_update h)
  | tunnel outcome toOrigin toClient => exact nodup_update (nodup_update (nodup_update h))
  | _ => exact nodup_update h

private theorem nodup_report (measures : List Measure) :
    ((report measures).map Prod.fst).Nodup := by
  have hfold : ∀ start : Report, (start.map Prod.fst).Nodup ->
      ((measures.foldl record start).map Prod.fst).Nodup := by
    induction measures with
    | nil => exact fun _ h => h
    | cons measure measures ih => exact fun start h => ih _ (nodup_record measure h)
  exact hfold [] List.nodup_nil

private theorem value_eq_total {report : Report} (h : (report.map Prod.fst).Nodup) :
    value report metric = total (· == metric) report := by
  induction report with
  | nil => rfl
  | cons entry rest ih =>
      obtain ⟨other, count⟩ := entry
      obtain ⟨hnew, hrest⟩ := List.nodup_cons.1 h
      rw [value, total_cons, ← ih hrest]
      by_cases hsame : other = metric
      · -- no later entry is of this metric
        have hzero : total (· == metric) rest = 0 := by
          refine List.sum_eq_zero fun count hmem => ?_
          obtain ⟨later, hlater, rfl⟩ := List.mem_map.1 hmem
          have hne : later.1 ≠ metric := fun hlast =>
            hnew (List.mem_map.2 ⟨later, hlater, hlast.trans hsame.symm⟩)
          simp [hne]
        rw [if_pos hsame, ih hrest, hzero]
        simp [hsame]
      · simp [hsame]

/-- In a report every metric is a class of its own. -/
theorem value_report (measures : List Measure) :
    value (report measures) metric = total (· == metric) (report measures) :=
  value_eq_total (nodup_report measures)

/-- The counter of a lookup result counts the lookups that ended so. -/
theorem value_lookups (result : LookupResult) (measures : List Measure) :
    value (report measures) (.lookups result) = measures.count (.lookup result) := by
  rw [value_report, total_report (by simp) (by simp)]
  induction measures with
  | nil => rfl
  | cons measure measures ih =>
      rw [List.map_cons, List.sum_cons, ih, List.count_cons, Nat.cast_add, Int.add_comm]
      congr 1
      cases measure <;> simp [Measure.share, beq_eq_decide]

/-! ## A gauge that is set -/

private theorem value_update_self (change : Int -> Int) (report : Report) :
    value (update metric change report) metric = change (value report metric) := by
  induction report with
  | nil => exact if_pos rfl
  | cons entry rest ih =>
      obtain ⟨other, count⟩ := entry
      unfold update value
      by_cases hsame : other = metric
      · simp [hsame]
      · simpa [value, hsame] using ih

private theorem value_update_of_ne {other : Metric} (h : metric ≠ other) (change : Int -> Int)
    (report : Report) : value (update metric change report) other = value report other := by
  induction report with
  | nil => exact if_neg h
  | cons entry rest ih =>
      obtain ⟨kept, count⟩ := entry
      unfold update
      by_cases hsame : kept = metric
      · simp [value, hsame, h]
      · simp [value, hsame, ih]

/-- The gauge of the entries shows what was recorded of them last. -/
theorem value_entries_record (report : Report) (measure : Measure) :
    value (record report measure) .entries =
      match measure with
      | .entries count => (count : Int)
      | _ => value report .entries := by
  cases measure with
  | entries count => exact value_update_self _ report
  | request method status => simp [record, value_update_of_ne]
  | tunnel outcome toOrigin toClient => simp [record, value_update_of_ne]
  | _ => simp [record, value_update_of_ne]

end Metrics

end Intermediary
