import Intermediary.Proofs.Toml.Integer
import Intermediary.Settings.Constraint
import Intermediary.Settings.Reader
import Mathlib.Data.Nat.Prime.Basic
import Mathlib.Tactic.NormNum.Prime

/-!
# Trial division in words

The candidates come from a sequence without an end, and none is drawn before it
is needed: each is drawn, weighed by its square and tried as a divisor, until
one decides.  The step is the whole machine; numbers are words of sixty-four
bits, whose sums and products wrap.

The first candidate that decides is the last one that is drawn.  What is
reckoned therefore fits in a word exactly when some candidate below 2³² decides:
for every number but the primes from (2³² - 1)² on, and so for every number that
a document can carry.  The verdict is that of trial division as it is written
for settings, whether or not a product wraps; where none does, it is whether the
number is prime.
-/

namespace Intermediary

open Text

namespace Trial

inductive Stage where
  /-- The next candidate is drawn from the sequence. -/
  | drawing
  /-- The square of a candidate is compared with the number. -/
  | weighing (candidate : UInt64)
  | dividing (candidate : UInt64)
  | settled (verdict : Bool)
  deriving DecidableEq

inductive Reckoning where
  | successor (word : UInt64)
  | square (word : UInt64)
  | remainder (divisor : UInt64)

/-- No sum and no product wraps, and no divisor is zero. -/
def Reckoning.Fits : Reckoning -> Prop
  | .successor word => word.toNat + 1 < wordBound
  | .square word => word.toNat * word.toNat < wordBound
  | .remainder divisor => divisor.toNat ≠ 0

end Trial

structure Trial where
  stage : Trial.Stage
  /-- Where the sequence of candidates stands. -/
  ahead : UInt64
  deriving DecidableEq

namespace Trial

def start (n : UInt64) : Trial where
  stage := if n < 2 then .settled false else .drawing
  ahead := 2

/-- The sequence, the test that ends it and the test for divisors, one at a time. -/
def step (n : UInt64) (trial : Trial) : Trial :=
  match trial.stage with
  | .drawing => { stage := .weighing trial.ahead, ahead := trial.ahead + 1 }
  | .weighing candidate =>
      if candidate * candidate ≤ n then { trial with stage := .dividing candidate }
      else { trial with stage := .settled true }
  | .dividing candidate =>
      if n % candidate = 0 then { trial with stage := .settled false }
      else { trial with stage := .drawing }
  | .settled _ => trial

def reckoning? (trial : Trial) : Option Reckoning :=
  match trial.stage with
  | .drawing => some (.successor trial.ahead)
  | .weighing candidate => some (.square candidate)
  | .dividing candidate => some (.remainder candidate)
  | .settled _ => none

def run (n : UInt64) : Nat -> Trial
  | 0 => start n
  | steps + 1 => step n (run n steps)

/-! ## The candidate that decides -/

/-- After this candidate no other is drawn. -/
def Decides (n candidate : Nat) : Prop :=
  n < candidate * candidate ∨ candidate ∣ n

/-- A candidate that comes after others only if none of them decides. -/
structure Undecided (n candidate : Nat) : Prop where
  two_le : 2 ≤ candidate
  before : ∀ m, 2 ≤ m -> m < candidate -> ¬ Decides n m

/-- The first number whose square is no word. -/
def candidateBound : Nat := 4294967296

/-- A candidate whose square is a word decides. -/
def EndsInTime (n : Nat) : Prop :=
  ∃ m, 2 ≤ m ∧ m < candidateBound ∧ Decides n m

theorem not_decides_iff {n candidate : Nat} :
    ¬ Decides n candidate ↔ candidate * candidate ≤ n ∧ ¬ candidate ∣ n := by
  simp [Decides]

theorem undecided_two (n : Nat) : Undecided n 2 where
  two_le := Nat.le_refl 2
  before := by
    intro m hm hlt
    omega

theorem Undecided.succ {n candidate : Nat} (h : Undecided n candidate)
    (hnot : ¬ Decides n candidate) : Undecided n (candidate + 1) where
  two_le := Nat.le_succ_of_le h.two_le
  before := by
    intro m hm hlt
    by_cases heq : m = candidate
    · rw [heq]
      exact hnot
    · exact h.before m hm (by omega)

private theorem Undecided.of_succ {n candidate : Nat} (h : Undecided n (candidate + 1))
    (htwo : 2 ≤ candidate) : Undecided n candidate where
  two_le := htwo
  before := by
    intro m hm hlt
    exact h.before m hm (by omega)

theorem Undecided.lt {n candidate : Nat} (h : Undecided n candidate) (hends : EndsInTime n) :
    candidate < candidateBound := by
  obtain ⟨m, hm, hlt, hdecides⟩ := hends
  by_contra hge
  exact h.before m hm (by omega) hdecides

private theorem endsInTime_of_lt {n : Nat}
    (h : n < (candidateBound - 1) * (candidateBound - 1)) : EndsInTime n :=
  ⟨candidateBound - 1, by decide, by decide, .inl h⟩

/-- A number that is not prime has a divisor whose square it is not below. -/
private theorem endsInTime_of_not_prime {n : Nat} (hn : n < wordBound) (h : ¬ n.Prime) :
    EndsInTime n := by
  by_cases htwo : 2 ≤ n
  · have hsquare : n.minFac * n.minFac ≤ n := by
      rw [← Nat.pow_two]
      exact Nat.minFac_sq_le_self (by omega) h
    have hprime : n.minFac.Prime := Nat.minFac_prime (by omega)
    refine ⟨n.minFac, hprime.two_le, ?_, .inr (Nat.minFac_dvd n)⟩
    by_contra hge
    have hbound : candidateBound * candidateBound ≤ n.minFac * n.minFac :=
      Nat.mul_le_mul (by omega) (by omega)
    exact absurd (Nat.lt_of_le_of_lt (Nat.le_trans hbound hsquare) hn) (by decide)
  · exact ⟨2, by decide, by decide, .inl (by omega)⟩

/-- No candidate decides about a prime number before its square is above it. -/
theorem not_endsInTime_of_prime {n : Nat} (hprime : n.Prime)
    (hle : (candidateBound - 1) * (candidateBound - 1) ≤ n) : ¬ EndsInTime n := by
  rintro ⟨m, hm, hlt, hdecides⟩
  have hmle : m ≤ candidateBound - 1 := by omega
  have hsquare : m * m ≤ n := Nat.le_trans (Nat.mul_le_mul hmle hmle) hle
  cases hdecides with
  | inl hbeyond => omega
  | inr hdivides =>
      rcases (Nat.dvd_prime hprime).1 hdivides with rfl | rfl
      · omega
      · have hself := Nat.mul_le_mul_right m hm
        have htwo := hprime.two_le
        omega

theorem endsInTime_iff {n : Nat} (hn : n < wordBound) :
    EndsInTime n ↔ (n.Prime -> n < (candidateBound - 1) * (candidateBound - 1)) := by
  constructor
  · intro hends hprime
    by_contra hge
    exact not_endsInTime_of_prime hprime (by omega) hends
  · intro h
    by_cases hprime : n.Prime
    · exact endsInTime_of_lt (h hprime)
    · exact endsInTime_of_not_prime hn hprime

/-! ## Words -/

section Words

variable {word n : UInt64}

theorem square_lt_iff : word.toNat * word.toNat < wordBound ↔ word.toNat < candidateBound := by
  constructor
  · intro h
    by_contra hge
    have hsquare : candidateBound * candidateBound ≤ word.toNat * word.toNat :=
      Nat.mul_le_mul (by omega) (by omega)
    exact absurd (Nat.lt_of_le_of_lt hsquare h) (by decide)
  · intro h
    exact Nat.mul_lt_mul_of_lt_of_lt h h

private theorem toNat_square (h : word.toNat < candidateBound) :
    (word * word).toNat = word.toNat * word.toNat := by
  rw [UInt64.toNat_mul]
  exact Nat.mod_eq_of_lt (square_lt_iff.2 h)

theorem toNat_succ (h : word.toNat < candidateBound) : (word + 1).toNat = word.toNat + 1 := by
  have hlt : word < 4294967296 := UInt64.lt_iff_toNat_lt.2 h
  exact toNat_add_one hlt

theorem square_le_iff (h : word.toNat < candidateBound) :
    word * word ≤ n ↔ word.toNat * word.toNat ≤ n.toNat := by
  rw [UInt64.le_iff_toNat_le, toNat_square h]

theorem mod_eq_zero_iff : n % word = 0 ↔ word.toNat ∣ n.toNat := by
  rw [← UInt64.toNat_inj, UInt64.toNat_mod, Nat.dvd_iff_mod_eq_zero]
  rfl

end Words

/-! ## What every step keeps -/

/-- The candidate under trial was needed, and the sequence stands right behind it. -/
def Sound (n : UInt64) (trial : Trial) : Prop :=
  match trial.stage with
  | .drawing => Undecided n.toNat trial.ahead.toNat
  | .weighing candidate =>
      Undecided n.toNat candidate.toNat ∧ trial.ahead.toNat = candidate.toNat + 1
  | .dividing candidate =>
      Undecided n.toNat candidate.toNat ∧ trial.ahead.toNat = candidate.toNat + 1 ∧
        candidate.toNat * candidate.toNat ≤ n.toNat
  | .settled _ => True

section Steps

variable {n : UInt64}

theorem start_of_two_le (hn : 2 ≤ n.toNat) : start n = ⟨.drawing, 2⟩ := by
  have hnot : ¬ n < 2 := by
    rw [UInt64.lt_iff_toNat_lt]
    exact Nat.not_lt.2 hn
  simp [start, hnot]

private theorem start_of_lt_two (hn : n.toNat < 2) : start n = ⟨.settled false, 2⟩ := by
  have hlt : n < 2 := UInt64.lt_iff_toNat_lt.2 hn
  simp [start, hlt]

private theorem sound_start (n : UInt64) : Sound n (start n) := by
  by_cases hn : 2 ≤ n.toNat
  · rw [start_of_two_le hn]
    exact undecided_two n.toNat
  · rw [start_of_lt_two (by omega)]
    trivial

theorem Sound.step {trial : Trial} (h : Sound n trial) (hends : EndsInTime n.toNat) :
    Sound n (Trial.step n trial) := by
  obtain ⟨stage, ahead⟩ := trial
  cases stage with
  | drawing =>
      have hneeded : Undecided n.toNat ahead.toNat := h
      exact ⟨hneeded, toNat_succ (hneeded.lt hends)⟩
  | weighing candidate =>
      obtain ⟨hneeded, hahead⟩ := h
      by_cases hsquare : candidate * candidate ≤ n
      · simp only [Trial.step, if_pos hsquare]
        exact ⟨hneeded, hahead, (square_le_iff (hneeded.lt hends)).1 hsquare⟩
      · simp [Trial.step, hsquare, Sound]
  | dividing candidate =>
      obtain ⟨hneeded, hahead, hsquare⟩ := h
      by_cases hzero : n % candidate = 0
      · simp [Trial.step, hzero, Sound]
      · simp only [Trial.step, if_neg hzero]
        have hnot : ¬ candidate.toNat ∣ n.toNat := fun h => hzero (mod_eq_zero_iff.2 h)
        have hnext := hneeded.succ (not_decides_iff.2 ⟨hsquare, hnot⟩)
        rw [← hahead] at hnext
        exact hnext
  | settled verdict => trivial

theorem sound_run (hends : EndsInTime n.toNat) (steps : Nat) : Sound n (run n steps) := by
  induction steps with
  | zero => exact sound_start n
  | succ steps ih => exact ih.step hends

private theorem Sound.fits {trial : Trial} {reckoning : Reckoning} (h : Sound n trial)
    (hends : EndsInTime n.toNat) (hreckoning : trial.reckoning? = some reckoning) :
    reckoning.Fits := by
  obtain ⟨stage, ahead⟩ := trial
  cases stage with
  | drawing =>
      cases hreckoning
      have hneeded : Undecided n.toNat ahead.toNat := h
      have hlt := hneeded.lt hends
      simp only [candidateBound] at hlt
      simp only [Reckoning.Fits, wordBound]
      omega
  | weighing candidate =>
      cases hreckoning
      exact square_lt_iff.2 (h.1.lt hends)
  | dividing candidate =>
      cases hreckoning
      have htwo := h.1.two_le
      simp only [Reckoning.Fits]
      omega
  | settled verdict => cases hreckoning

private theorem Sound.needed {trial : Trial} {candidate : UInt64} (h : Sound n trial)
    (hstage : trial.stage = .weighing candidate) : Undecided n.toNat candidate.toNat := by
  obtain ⟨stage, ahead⟩ := trial
  cases hstage
  exact h.1

/-! ## Rounds -/

variable {candidate : UInt64} {steps : Nat}

private theorem run_beyond (h : run n steps = ⟨.drawing, candidate⟩)
    (hbeyond : n < candidate * candidate) :
    run n (steps + 2) = ⟨.settled true, candidate + 1⟩ := by
  simp [run, h, step, UInt64.not_le.2 hbeyond]

private theorem run_divisor (h : run n steps = ⟨.drawing, candidate⟩)
    (hbelow : ¬ n < candidate * candidate) (hzero : n % candidate = 0) :
    run n (steps + 3) = ⟨.settled false, candidate + 1⟩ := by
  simp [run, h, step, UInt64.not_lt.1 hbelow, hzero]

private theorem run_round (h : run n steps = ⟨.drawing, candidate⟩)
    (hbelow : ¬ n < candidate * candidate) (hrest : ¬ n % candidate = 0) :
    run n (steps + 3) = ⟨.drawing, candidate + 1⟩ := by
  simp [run, h, step, UInt64.not_lt.1 hbelow, hrest]

private theorem not_decides_word (hword : candidate.toNat < candidateBound)
    (hbelow : ¬ n < candidate * candidate) (hrest : ¬ n % candidate = 0) :
    ¬ Decides n.toNat candidate.toNat := by
  refine not_decides_iff.2 ⟨(square_le_iff hword).1 (UInt64.not_lt.1 hbelow), ?_⟩
  intro hdivides
  exact hrest (mod_eq_zero_iff.2 hdivides)

/-- Candidates are drawn one after another as long as none of them decides. -/
private theorem exists_drawing (hn : 2 ≤ n.toNat) {number : Nat}
    (hneeded : Undecided n.toNat number)
    (hle : number ≤ candidateBound) :
    ∃ steps candidate, candidate.toNat = number ∧ run n steps = ⟨.drawing, candidate⟩ := by
  induction number, hneeded.two_le using Nat.le_induction with
  | base => exact ⟨0, 2, rfl, start_of_two_le hn⟩
  | succ number htwo ih =>
      obtain ⟨steps, candidate, hnumber, hrun⟩ := ih (hneeded.of_succ htwo) (by omega)
      have hword : candidate.toNat < candidateBound := by omega
      have hundecided := hneeded.before number htwo (Nat.lt_succ_self number)
      rw [← hnumber, not_decides_iff] at hundecided
      obtain ⟨hsquare, hdivides⟩ := hundecided
      have hbelow : ¬ n < candidate * candidate := by
        rw [UInt64.not_lt, square_le_iff hword]
        exact hsquare
      have hrest : ¬ n % candidate = 0 := by
        rw [mod_eq_zero_iff]
        exact hdivides
      refine ⟨steps + 3, candidate + 1, ?_, run_round hrun hbelow hrest⟩
      rw [toNat_succ hword, hnumber]

/-- What is reckoned fits in words exactly when some candidate below 2³² decides. -/
theorem fits_iff :
    (∀ steps reckoning, (run n steps).reckoning? = some reckoning -> reckoning.Fits) ↔
      EndsInTime n.toNat := by
  constructor
  · intro hfits
    by_contra hnever
    -- Nothing stops the sequence before the first number whose square is no word.
    have hneeded : Undecided n.toNat candidateBound :=
      ⟨by decide, fun m hm hlt hdecides => hnever ⟨m, hm, hlt, hdecides⟩⟩
    have hn : 2 ≤ n.toNat := by
      by_contra hsmall
      exact hnever ⟨2, by decide, by decide, .inl (by omega)⟩
    obtain ⟨steps, candidate, hnumber, hrun⟩ := exists_drawing hn hneeded (Nat.le_refl _)
    have hweighed : (run n (steps + 1)).reckoning? = some (.square candidate) := by
      simp [run, hrun, step, reckoning?]
    have hlt := square_lt_iff.1 (hfits _ _ hweighed)
    omega
  · intro hends steps reckoning hreckoning
    exact (sound_run hends steps).fits hends hreckoning

theorem exists_overflow_of_prime (hprime : n.toNat.Prime)
    (hle : (candidateBound - 1) * (candidateBound - 1) ≤ n.toNat) :
    ∃ steps reckoning, (run n steps).reckoning? = some reckoning ∧ ¬ reckoning.Fits := by
  by_contra hnever
  push Not at hnever
  exact not_endsInTime_of_prime hprime hle (fits_iff.1 hnever)

/-! ## The verdict -/

/-- Of a candidate that is needed, trial division from there on finds the prime numbers. -/
theorem hasNoDivisorFrom_iff (hends : EndsInTime n.toNat) (hle : candidate ≤ n)
    (hneeded : Undecided n.toNat candidate.toNat) :
    hasNoDivisorFrom n candidate hle = true ↔ n.toNat.Prime := by
  fun_induction hasNoDivisorFrom n candidate hle with
  | case1 candidate hle hbeyond =>
      have hsquare := square_le_iff (n := n) (hneeded.lt hends)
      have hn := UInt64.le_iff_toNat_le.1 hle
      have htwo := hneeded.two_le
      refine iff_of_true rfl (Nat.prime_def_le_sqrt.2 ⟨by omega, ?_⟩)
      intro m hm hroot hdivides
      have hlt : m < candidate.toNat := by
        by_contra hge
        have hbound := Nat.mul_le_mul (Nat.le_of_not_lt hge) (Nat.le_of_not_lt hge)
        have hroot := Nat.le_sqrt.1 hroot
        exact UInt64.not_le.2 hbeyond (hsquare.2 (Nat.le_trans hbound hroot))
      exact hneeded.before m hm hlt (.inr hdivides)
  | case2 candidate hle hbelow hzero =>
      have hsquare := (square_le_iff (hneeded.lt hends)).1 (UInt64.not_lt.1 hbelow)
      have htwo := hneeded.two_le
      have hself := Nat.mul_le_mul_right candidate.toNat htwo
      refine iff_of_false Bool.false_ne_true ?_
      exact Nat.not_prime_of_dvd_of_lt (mod_eq_zero_iff.1 hzero) htwo (by omega)
  | case3 candidate hle hbelow hrest ih =>
      have hword := hneeded.lt hends
      apply ih
      rw [toNat_succ hword]
      exact hneeded.succ (not_decides_word hword hbelow hrest)

theorem two_le_iff : 2 ≤ n ↔ 2 ≤ n.toNat := UInt64.le_iff_toNat_le

/-- Trial division finds the prime numbers, as long as no square wraps. -/
theorem isPrime_iff (hends : EndsInTime n.toNat) : isPrime n = true ↔ n.toNat.Prime := by
  unfold isPrime
  split
  · next hle => exact hasNoDivisorFrom_iff hends hle (undecided_two _)
  · next hlt =>
      refine iff_of_false Bool.false_ne_true ?_
      intro hprime
      exact hlt (two_le_iff.2 hprime.two_le)

/-- From a candidate on the trial comes to the verdict, and where none before decides, soon. -/
private theorem exists_settled_of_drawing (hle : candidate ≤ n)
    (h : run n steps = ⟨.drawing, candidate⟩) :
    ∃ more, (run n (steps + more)).stage = .settled (hasNoDivisorFrom n candidate hle) ∧
      (EndsInTime n.toNat -> Undecided n.toNat candidate.toNat ->
        more ≤ 3 * (Nat.sqrt n.toNat + 1 - candidate.toNat) + 2) := by
  -- The induction follows the division of numbers: one of its rounds is three steps here.
  fun_induction hasNoDivisorFrom n candidate hle generalizing steps with
  | case1 candidate hle hbeyond =>
      refine ⟨2, by rw [run_beyond h hbeyond], ?_⟩
      intro hends hneeded
      omega
  | case2 candidate hle hbelow hzero =>
      refine ⟨3, by rw [run_divisor h hbelow hzero], ?_⟩
      intro hends hneeded
      have hroot := Nat.le_sqrt.2
        ((square_le_iff (hneeded.lt hends)).1 (UInt64.not_lt.1 hbelow))
      omega
  | case3 candidate hle hbelow hrest ih =>
      obtain ⟨more, hsettled, hsoon⟩ := ih (run_round h hbelow hrest)
      refine ⟨3 + more, ?_, ?_⟩
      · rw [← Nat.add_assoc]
        exact hsettled
      · intro hends hneeded
        have hword := hneeded.lt hends
        have hroot := Nat.le_sqrt.2 ((square_le_iff hword).1 (UInt64.not_lt.1 hbelow))
        have hnext := hneeded.succ (not_decides_word hword hbelow hrest)
        rw [← toNat_succ hword] at hnext
        have hmore := hsoon hends hnext
        rw [toNat_succ hword] at hmore
        omega

/--
The trial of a number comes to the verdict that is passed on settings, whether or
not something wraps on the way.
-/
theorem exists_settled (n : UInt64) :
    ∃ steps, (run n steps).stage = .settled (isPrime n) ∧
      (EndsInTime n.toNat -> steps ≤ 3 * Nat.sqrt n.toNat) := by
  by_cases hn : 2 ≤ n
  · have hword := two_le_iff.1 hn
    have hstart : run n 0 = ⟨.drawing, 2⟩ := start_of_two_le hword
    obtain ⟨steps, hsettled, hsoon⟩ := exists_settled_of_drawing hn hstart
    rw [Nat.zero_add] at hsettled
    refine ⟨steps, by simp [hsettled, isPrime, hn], ?_⟩
    intro hends
    have hsteps := hsoon hends (undecided_two _)
    have hroot : 1 ≤ Nat.sqrt n.toNat := Nat.le_sqrt.2 (by omega)
    simp only [UInt64.reduceToNat] at hsteps
    omega
  · have hsmall : n.toNat < 2 := by
      rw [two_le_iff] at hn
      omega
    refine ⟨0, ?_, fun _ => Nat.zero_le _⟩
    simp [run, start_of_lt_two hsmall, isPrime, hn]

end Steps

/-- Trial division of a word ends, soon and without wrapping, and tells whether it is prime. -/
structure Concludes (n : UInt64) : Prop where
  fits : ∀ steps reckoning, (run n steps).reckoning? = some reckoning -> reckoning.Fits
  /-- No candidate is drawn after one that decides. -/
  needed : ∀ steps candidate, (run n steps).stage = .weighing candidate ->
    Undecided n.toNat candidate.toNat
  settles : ∃ steps ≤ 3 * Nat.sqrt n.toNat, (run n steps).stage = .settled (isPrime n)
  prime : isPrime n = true ↔ n.toNat.Prime

theorem concludes_of_endsInTime {n : UInt64} (hends : EndsInTime n.toNat) : Concludes n where
  fits := fits_iff.2 hends
  needed := by
    intro steps candidate hstage
    exact (sound_run hends steps).needed hstage
  settles := by
    obtain ⟨steps, hsettled, hsoon⟩ := exists_settled n
    exact ⟨steps, hsoon hends, hsettled⟩
  prime := isPrime_iff hends

end Trial

/-! ## Numbers of a document -/

private theorem Settings.lt_of_asNumber {value : Toml.Value} {n : Nat} (h : value.Long)
    (hn : asNumber value = some n) : n < Toml.integerBound := by
  unfold asNumber at hn
  split at hn
  · cases hn
    cases h with
    | integer hlong => exact Int.ofNat_lt.1 hlong.2
  · cases hn

namespace Section

open Toml

variable {part : Section} {place : Nat} {name : String}

/-- All integers in a section have sixty-four bits with a sign. -/
def Long : Section -> Prop
  | .named fields => fields.Long
  | .listed items => ∀ item ∈ items, item.Long

private theorem long_of_ofValue? {value : Value} (h : value.Long)
    (hpart : ofValue? value = some part) :
    part.Long := by
  cases h with
  | table hfields =>
      cases hpart
      exact hfields
  | array hitems =>
      cases hpart
      exact hitems
  | tables hmembers =>
      cases hpart
      intro item hmem
      obtain ⟨fields, hfields, rfl⟩ := List.mem_map.1 hmem
      exact .table (hmembers fields hfields)
  | moment =>
      cases hpart
      exact Fields.long_nil
  | _ => cases hpart

private theorem Long.find? {value : Value} (h : part.Long)
    (hvalue : part.find? place name = some value) : value.Long := by
  cases part with
  | named fields => exact Fields.Long.find? h hvalue
  | listed items => exact h value (List.mem_of_getElem? hvalue)

private theorem Long.number_lt {unset n : Nat} (h : part.Long) (hunset : unset < integerBound)
    (hn : part.get Settings.asNumber unset place name = some n) : n < integerBound := by
  unfold get at hn
  split at hn
  · cases hn
    exact hunset
  · next value hvalue => exact Settings.lt_of_asNumber (h.find? hvalue) hn

end Section

namespace Settings

private theorem stripes_lt_of_cacheOf {part : Section} {cache : CacheSettings} (h : part.Long)
    (hcache : cacheOf part = some cache) : cache.stripes < Toml.integerBound := by
  unfold cacheOf at hcache
  simp only [Option.bind_eq_bind, Option.bind_eq_some_iff] at hcache
  obtain ⟨enabled, _, stripes, hstripes, ceiling, _, hsome⟩ := hcache
  cases hsome
  exact h.number_lt (by decide) hstripes

/-- A section is left out, or it stands in the document. -/
private theorem exists_of_part {α : Type} {fields : Toml.Fields} {name : String} {unset result : α}
    {read : Section -> Option α} (hfields : fields.Long)
    (h : part fields name unset read = some result) :
    result = unset ∨ ∃ given : Section, given.Long ∧ read given = some result := by
  unfold part at h
  split at h
  · cases h
    exact .inl rfl
  · next value hvalue =>
    obtain ⟨given, hgiven, hread⟩ := Option.bind_eq_some_iff.1 h
    exact .inr ⟨given, Section.long_of_ofValue? (hfields.find? hvalue) hgiven, hread⟩

/-- The number of locks that a document asks for has sixty-four bits with a sign. -/
theorem stripes_lt_of_read {document : String} {settings : Settings}
    (h : (Toml.read document).bind ofFields? = some settings) :
    settings.cache.stripes < Toml.integerBound := by
  obtain ⟨fields, hfields, hsettings⟩ := Option.bind_eq_some_iff.1 h
  unfold ofFields? at hsettings
  simp only [Option.bind_eq_bind, Option.bind_eq_some_iff] at hsettings
  obtain ⟨_, _, _, _, cache, hcache, hothers⟩ := hsettings
  have hstripes : cache.stripes < Toml.integerBound := by
    rcases exists_of_part (Toml.long_of_read hfields) hcache with rfl | ⟨given, hlong, hread⟩
    · decide
    · exact stripes_lt_of_cacheOf hlong hread
  obtain ⟨_, _, _, _, _, _, _, _, _, _, _, _, _, _, hsome⟩ := hothers
  cases hsome
  exact hstripes

end Settings

namespace Trial

/--
Every number that a document can carry, and with it every number of locks that one
asks for, is tried without a sum or a product that leaves sixty-four bits; no
candidate is drawn in vain, and the trial comes to its verdict, which is whether
the number is prime.
-/
theorem concludes_of_lt :
    (∀ n : UInt64, n.toNat < Toml.integerBound -> Concludes n) ∧
      ∀ document settings, (Toml.read document).bind Settings.ofFields? = some settings ->
        settings.cache.stripes < Toml.integerBound := by
  constructor
  · intro n hn
    exact concludes_of_endsInTime (endsInTime_of_lt (Nat.lt_trans hn (by decide)))
  · intro document settings h
    exact Settings.stripes_lt_of_read h

/-- The greatest number that a document can carry. -/
def greatest : UInt64 := 9223372036854775807

/-- Seven divides the greatest number, so that it is refused as a number of locks. -/
theorem concludes_of_greatest :
    greatest.toNat + 1 = Toml.integerBound ∧ greatest.toNat < Toml.integerBound ∧
    Concludes greatest ∧
    (∃ steps ≤ 3 * Nat.sqrt greatest.toNat, (run greatest steps).stage = .settled false) ∧
    ∃ settings, (Toml.read "[cache]\nstripes = 9223372036854775807").bind Settings.ofFields? =
        some settings ∧
      settings.cache.stripes = greatest.toNat ∧ settings.cache.stripes < Toml.integerBound := by
  have hlt : greatest.toNat < Toml.integerBound := by decide
  have hconcludes := concludes_of_lt.1 greatest hlt
  have hcomposite : ¬ Nat.Prime greatest.toNat := by
    change ¬ Nat.Prime 9223372036854775807
    norm_num
  have hverdict : isPrime greatest = false := by
    rw [← Bool.not_eq_true, hconcludes.prime]
    exact hcomposite
  have hread : (Toml.read "[cache]\nstripes = 9223372036854775807").bind Settings.ofFields? =
      some { cache := { stripes := 9223372036854775807 } } := by
    decide +kernel
  refine ⟨by decide, hlt, hconcludes, ?_, _, hread, rfl, concludes_of_lt.2 _ _ hread⟩
  rw [← hverdict]
  exact hconcludes.settles

end Trial

end Intermediary
