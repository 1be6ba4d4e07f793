import Intermediary.Proofs.Settings.Trial
import Intermediary.Proofs.Settings.Schema
import Intermediary.Proofs.SocketAddress
import Mathlib.Data.List.Nodup
import Mathlib.NumberTheory.LucasPrimality
import Mathlib.Tactic.NormNum.Prime
import Mathlib.Tactic.ReduceModChar

/-!
# What is reported of settings

A violation is reported for each constraint that settings do not meet, once,
and nothing else is reported.  What a constraint asks is said here without a
reader of addresses and without trial division.  The reports stand in the order
of the settings, but for the administration interface, whose key comes last;
and what is reported of an area depends on the settings of that area alone.

The number of locks is tried in words of sixty-four bits.  That goes well unless
it is a prime number so large that the squares on the way to it leave a word.
-/

namespace Intermediary

open Text Settings

/-- Some socket address is written so. -/
def WritesAddress (text : String) : Prop :=
  ∃ address, SocketAddress.Writes text.toList address

/-- The number of locks can be tried without a square that leaves sixty-four bits. -/
structure Settings.InWords (settings : Settings) : Prop where
  word : settings.cache.stripes < wordBound
  prime : settings.cache.stripes.Prime -> settings.cache.stripes < 4294967295 * 4294967295

namespace Constraint

/-- What is to hold of settings; the schema says it, not the code that checks it. -/
def Asks (settings : Settings) : Constraint -> Prop
  | .listenerAddress => WritesAddress settings.listener.address
  | .workers => settings.scheduler.workers ≠ 0
  | .queueDepth => settings.scheduler.queueDepth ≠ 0
  | .stripes => settings.cache.stripes.Prime
  | .idleTimeout => settings.tunnel.idleTimeout ≠ 0
  | .bufferSize => settings.tunnel.bufferSize ≠ 0
  | .connectTimeout => settings.timeouts.connect ≠ 0
  | .readTimeout => settings.timeouts.read ≠ 0
  | .writeTimeout => settings.timeouts.write ≠ 0
  | .lineBytes => settings.limits.lineBytes ≠ 0
  | .headerFields => settings.limits.headerFields ≠ 0
  | .parentHost => ∀ parent, settings.parent = some parent -> parent.host ≠ ""
  | .parentPort => ∀ parent, settings.parent = some parent -> parent.port ≠ 0
  | .metricsAddress =>
      settings.report.metricsEnabled = true -> WritesAddress settings.report.metricsAddress
  | .adminAddress => settings.admin.enabled = true -> WritesAddress settings.admin.address
  | .adminKey =>
      settings.admin.enabled = true ->
        settings.admin.key ≠ "" ∧ settings.admin.key ≠ placeholderKey

def area : Constraint -> Area
  | .listenerAddress => .listener
  | .workers | .queueDepth => .scheduler
  | .stripes => .cache
  | .idleTimeout | .bufferSize => .tunnel
  | .connectTimeout | .readTimeout | .writeTimeout => .timeouts
  | .lineBytes | .headerFields => .limits
  | .parentHost | .parentPort => .parent
  | .metricsAddress => .report
  | .adminAddress | .adminKey => .admin

/-- What is reported of settings that do not meet a constraint. -/
def violation (settings : Settings) (constraint : Constraint) : Violation where
  field := constraint.field
  complaint := constraint.complaint settings

theorem isAddress_iff {text : String} : isAddress text = true ↔ WritesAddress text := by
  unfold isAddress WritesAddress
  rw [Option.isSome_iff_exists]
  simp only [SocketAddress.ofText?_eq_some_iff]

theorem toNat_ofNat_stripes {settings : Settings} (h : settings.InWords) :
    (UInt64.ofNat settings.cache.stripes).toNat = settings.cache.stripes :=
  UInt64.toNat_ofNat_of_lt' h.word

private theorem endsInTime_stripes {settings : Settings} (h : settings.InWords) :
    Trial.EndsInTime (UInt64.ofNat settings.cache.stripes).toNat := by
  rw [toNat_ofNat_stripes h, Trial.endsInTime_iff h.word]
  exact h.prime

theorem holds_stripes_iff {settings : Settings} (h : settings.InWords) :
    stripes.holds settings = true ↔ stripes.Asks settings := by
  unfold holds Asks
  rw [Trial.isPrime_iff (endsInTime_stripes h), toNat_ofNat_stripes h]

theorem holds_iff_of_ne {settings : Settings} {constraint : Constraint}
    (hne : constraint ≠ .stripes) :
    constraint.holds settings = true ↔ constraint.Asks settings := by
  cases constraint with
  | listenerAddress => exact isAddress_iff
  | stripes => exact absurd rfl hne
  | parentHost => simp [holds, Asks, Option.all_eq_true]
  | parentPort => simp [holds, Asks, Option.all_eq_true]
  | metricsAddress => simp [holds, Asks, isAddress_iff, imp_iff_not_or]
  | adminAddress => simp [holds, Asks, isAddress_iff, imp_iff_not_or]
  | adminKey => simp [holds, Asks, imp_iff_not_or]
  | _ => exact bne_iff_ne

/-- What is checked of a constraint is what it asks. -/
theorem holds_iff {settings : Settings} (h : settings.InWords) {constraint : Constraint} :
    constraint.holds settings = true ↔ constraint.Asks settings := by
  by_cases heq : constraint = .stripes
  · rw [heq]
    exact holds_stripes_iff h
  · exact holds_iff_of_ne heq

/-- A constraint is named for a field of its area. -/
theorem mem_paths_iff {constraint : Constraint} {area : Area} :
    constraint.field ∈ area.paths ↔ constraint.area = area := by
  cases constraint <;> cases area <;> decide

section Same

variable {settings other : Settings} {constraint : Constraint}
  (h : constraint.area.Same settings other)

include h

private theorem holds_congr : constraint.holds settings = constraint.holds other := by
  cases constraint <;> simp only [area, Area.Same] at h <;> simp only [holds, h]

private theorem violation_congr : constraint.violation settings = constraint.violation other := by
  cases constraint <;> simp only [area, Area.Same] at h <;>
    simp only [violation, complaint, h]

end Same

end Constraint

namespace Settings

/-- The names of the settings of an area, in the order in which they are reported. -/
def Area.reported : Area -> List String
  | .admin => ["enabled", "bind_address", "api_key"]
  | area => area.fields

def reportOrder : List String :=
  Area.all.flatMap fun area => area.reported.map area.path

/-- What is to hold of the violations of settings. -/
structure Examined (settings : Settings) : Prop where
  /-- The verdict on the number of locks is that of its trial in words. -/
  tried : ∃ n : UInt64, n.toNat = settings.cache.stripes ∧ Trial.Concludes n
  accepted : settings.violations = [] ↔ ∀ constraint : Constraint, constraint.Asks settings
  sound : settings.sound = .ok settings ↔ ∀ constraint : Constraint, constraint.Asks settings
  refused : settings.sound = .error (.invalid settings.violations) ↔
    ∃ constraint : Constraint, ¬ constraint.Asks settings
  reported : ∀ violation, violation ∈ settings.violations ↔
    ∃ constraint : Constraint, ¬ constraint.Asks settings ∧
      violation = constraint.violation settings
  once : (settings.violations.map Violation.field).Nodup
  ordered : settings.violations.Pairwise fun first second =>
    reportOrder.idxOf first.field < reportOrder.idxOf second.field
  /-- A change in one area changes nothing about what is reported of the others. -/
  apart : ∀ (other : Settings) (changed : Area),
    (∀ area, area ≠ changed -> area.Same settings other) ->
      settings.violations.filter (fun violation => violation.field ∉ changed.paths) =
        other.violations.filter fun violation => violation.field ∉ changed.paths

theorem violations_eq (settings : Settings) :
    settings.violations = settings.violated.map fun constraint =>
      constraint.violation settings :=
  rfl

theorem violations_eq_nil_iff {settings : Settings} :
    settings.violations = [] ↔
      ∀ constraint : Constraint, constraint.holds settings = true := by
  rw [violations_eq, List.map_eq_nil_iff, List.eq_nil_iff_forall_not_mem]
  simp only [mem_violated, Bool.not_eq_false]

theorem mem_violated_iff {settings : Settings} (h : settings.InWords)
    {constraint : Constraint} :
    constraint ∈ settings.violated ↔ ¬ constraint.Asks settings := by
  rw [mem_violated, ← Constraint.holds_iff h, Bool.not_eq_true]

private theorem violations_eq_nil_iff_asks {settings : Settings} (h : settings.InWords) :
    settings.violations = [] ↔ ∀ constraint : Constraint, constraint.Asks settings := by
  rw [violations_eq_nil_iff]
  simp only [Constraint.holds_iff h]

private theorem pairwise_violated (settings : Settings) :
    settings.violated.Pairwise fun first second =>
      reportOrder.idxOf first.field < reportOrder.idxOf second.field := by
  have hall : Constraint.all.Pairwise fun first second =>
      reportOrder.idxOf first.field < reportOrder.idxOf second.field := by
    decide
  exact hall.filter _

/-- Constraints are told apart by their fields. -/
theorem nodup_violations (settings : Settings) :
    (settings.violations.map Violation.field).Nodup := by
  rw [violations_eq, List.map_map]
  refine List.pairwise_map.2 ((pairwise_violated settings).imp ?_)
  intro first second hlt heq
  have hfield : first.field = second.field := heq
  rw [hfield] at hlt
  exact Nat.lt_irrefl _ hlt

private theorem filter_violations (settings : Settings) (keep : String -> Bool) :
    settings.violations.filter (fun violation => keep violation.field) =
      (Constraint.all.filter fun constraint =>
        keep constraint.field && ! constraint.holds settings).map fun constraint =>
          constraint.violation settings := by
  rw [violations_eq, List.filter_map, violated, List.filter_filter]
  rfl

/-- What is reported of an area that stays the same stays the same. -/
theorem filter_violations_congr {settings other : Settings} {keep : String -> Bool}
    (h : ∀ constraint : Constraint, keep constraint.field = true ->
      constraint.area.Same settings other) :
    settings.violations.filter (fun violation => keep violation.field) =
      other.violations.filter fun violation => keep violation.field := by
  have hchecked : (Constraint.all.filter fun constraint =>
      keep constraint.field && ! constraint.holds settings) =
      Constraint.all.filter fun constraint =>
        keep constraint.field && ! constraint.holds other := by
    refine List.filter_congr fun constraint _ => ?_
    cases hkeep : keep constraint.field with
    | false => rfl
    | true => rw [Constraint.holds_congr (h constraint hkeep)]
  rw [filter_violations, filter_violations, hchecked]
  refine List.map_congr_left fun constraint hmem => ?_
  have hkeep := (Bool.and_eq_true_iff.1 (List.mem_filter.1 hmem).2).1
  exact Constraint.violation_congr (h constraint hkeep)

theorem sound_of_nil {settings : Settings} (h : settings.violations = []) :
    settings.sound = .ok settings := by
  simp [sound, h]

theorem sound_of_ne_nil {settings : Settings} (h : settings.violations ≠ []) :
    settings.sound = .error (.invalid settings.violations) := by
  unfold sound
  split
  · next hnil => exact absurd hnil h
  · rfl

/-- What is reported of settings is what is wrong with them. -/
theorem examined {settings : Settings} (h : settings.InWords) : settings.Examined where
  tried :=
    ⟨UInt64.ofNat settings.cache.stripes, Constraint.toNat_ofNat_stripes h,
      Trial.concludes_of_endsInTime (Constraint.endsInTime_stripes h)⟩
  accepted := violations_eq_nil_iff_asks h
  sound := by
    rw [← violations_eq_nil_iff_asks h]
    refine ⟨fun hsound => ?_, sound_of_nil⟩
    by_contra hne
    rw [sound_of_ne_nil hne] at hsound
    cases hsound
  refused := by
    rw [← not_forall, ← violations_eq_nil_iff_asks h]
    refine ⟨fun hrefused hnil => ?_, sound_of_ne_nil⟩
    rw [sound_of_nil hnil] at hrefused
    cases hrefused
  reported := by
    intro violation
    rw [violations_eq, List.mem_map]
    simp only [mem_violated_iff h, eq_comm]
  once := nodup_violations settings
  ordered := List.pairwise_map.2 (pairwise_violated settings)
  apart := by
    intro other changed hsame
    refine @filter_violations_congr settings other (fun field => field ∉ changed.paths) ?_
    intro constraint hkeep
    refine hsame constraint.area ?_
    rintro rfl
    exact absurd (Constraint.mem_paths_iff.2 rfl) (of_decide_eq_true hkeep)

private theorem inWords_default : ({} : Settings).InWords where
  word := by decide
  prime := fun _ => by decide

/-- What holds where nothing is chosen is sound. -/
theorem violations_default : ({} : Settings).violations = [] := by
  refine (violations_eq_nil_iff_asks inWords_default).2 fun constraint => ?_
  cases constraint with
  | stripes => exact (by norm_num : Nat.Prime 997)
  | listenerAddress => exact Constraint.isAddress_iff.1 (by decide)
  | metricsAddress => exact fun _ => Constraint.isAddress_iff.1 (by decide)
  | adminAddress => exact fun h => (nomatch h)
  | adminKey => exact fun h => (nomatch h)
  | parentHost => exact fun parent h => (nomatch h)
  | parentPort => exact fun parent h => (nomatch h)
  | _ => exact Nat.succ_ne_zero _

theorem holds_of_same_default {settings : Settings} {constraint : Constraint}
    (h : constraint.area.Same settings {}) : constraint.holds settings = true := by
  rw [Constraint.holds_congr h]
  exact violations_eq_nil_iff.1 violations_default constraint

/-- Settings with neither an address nor a key for the administration interface. -/
def unattended : Settings := { admin := { enabled := true, address := "x" } }

private theorem violated_unattended : unattended.violated = [.adminAddress, .adminKey] := by
  have hchecked : ∀ constraint ∈ Constraint.all,
      (! constraint.holds unattended) = decide (constraint.area = .admin) := by
    intro constraint _
    by_cases harea : constraint.area = .admin
    · cases constraint with
      | adminAddress => decide
      | adminKey => decide
      | _ => cases harea
    · have hsame : constraint.area.Same unattended {} := by
        cases harea' : constraint.area with
        | admin => exact absurd harea' harea
        | _ => rfl
      rw [holds_of_same_default hsame, decide_eq_false harea]
      rfl
  rw [violated, List.filter_congr hchecked]
  decide

/-- In the schema the key stands before the address; in a report it does not. -/
private theorem not_ordered_by_schema :
    unattended.violations.map Violation.field = ["admin.bind_address", "admin.api_key"] ∧
      ¬ unattended.violations.Pairwise fun first second =>
        schema.idxOf first.field < schema.idxOf second.field := by
  rw [violations_eq, violated_unattended]
  decide

/-- The two violations of the administration interface are reported, and these alone. -/
theorem examined_unattended :
    unattended.InWords ∧ unattended.Examined ∧
      unattended.sound = .error (.invalid unattended.violations) ∧
      unattended.violations =
        [Constraint.adminAddress.violation unattended,
          Constraint.adminKey.violation unattended] := by
  have hwords : unattended.InWords := ⟨inWords_default.word, inWords_default.prime⟩
  have hexamined := examined hwords
  have hkey : ¬ Constraint.adminKey.Asks unattended := by
    rw [← mem_violated_iff hwords, violated_unattended]
    decide
  refine ⟨hwords, hexamined, hexamined.refused.2 ⟨.adminKey, hkey⟩, ?_⟩
  rw [violations_eq, violated_unattended]
  rfl

/-- More locks than any document asks for, a prime number of them. -/
def crowded : Settings := { cache := { stripes := 18446744069414584321 } }

private theorem prime_crowded : crowded.cache.stripes.Prime := by
  refine lucas_primality 18446744069414584321 7 (by reduce_mod_char) ?_
  intro q hq hdivides
  have hfactors : (18446744069414584321 - 1 : Nat) = 2 ^ 32 * 3 * 5 * 17 * 257 * 65537 := by
    norm_num
  have hmem : q ∈ [2, 3, 5, 17, 257, 65537] := by
    rw [hfactors] at hdivides
    simp only [hq.dvd_mul] at hdivides
    rcases hdivides with ((((htwo | h) | h) | h) | h) | h
    · simp [(Nat.prime_dvd_prime_iff_eq hq Nat.prime_two).1 (hq.dvd_of_dvd_pow htwo)]
    all_goals simp [(Nat.prime_dvd_prime_iff_eq hq (by norm_num)).1 h]
  fin_cases hmem <;> norm_num <;> reduce_mod_char <;> decide

/--
The order of the schema is not that of reports; and settings can meet every
constraint while the trial of their number of locks leaves sixty-four bits.
-/
theorem not_examined_everywhere :
    (unattended.violations.map Violation.field = ["admin.bind_address", "admin.api_key"] ∧
      ¬ unattended.violations.Pairwise fun first second =>
        schema.idxOf first.field < schema.idxOf second.field) ∧
    (∀ constraint : Constraint, constraint.Asks crowded) ∧
    ∃ n : UInt64, n.toNat = crowded.cache.stripes ∧
      ∃ steps reckoning, (Trial.run n steps).reckoning? = some reckoning ∧
        ¬ reckoning.Fits := by
  refine ⟨not_ordered_by_schema, ?_, 18446744069414584321, by decide, ?_⟩
  · intro constraint
    by_cases heq : constraint = .stripes
    · rw [heq]
      exact prime_crowded
    · refine (Constraint.holds_iff_of_ne heq).1 (holds_of_same_default ?_)
      cases constraint with
      | stripes => exact absurd rfl heq
      | _ => rfl
  · exact Trial.exists_overflow_of_prime prime_crowded (by decide)

end Settings

end Intermediary
