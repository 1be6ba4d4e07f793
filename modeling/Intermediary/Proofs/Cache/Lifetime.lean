import Intermediary.Cache
import Intermediary.Proofs.Text.Numeral

/-!
# How long a response may be kept

The lifetime that a response is given when it is stored: the age that its
directives allow, bounded by the ceiling.  No age is as long as the number that
stands for no ceiling, so that this number bounds nothing where it is set.
-/

namespace Intermediary

open Text

/-- The directives of a response let it be kept, for an age in seconds. -/
def Response.AllowsAge (response : Response) (age : Nat) : Prop :=
  ∃ directives, CacheDirectives.ofHeader? response.header = some directives ∧
    directives.isPrivate = false ∧ directives.noCache = false ∧
    directives.noStore = false ∧ directives.maxAge = some age

def capped (ceiling : Option Nat) (age : Nat) : Nat :=
  match ceiling with
  | some most => min age most
  | none => age

theorem capped_le (ceiling : Option Nat) (age : Nat) : capped ceiling age ≤ age := by
  cases ceiling with
  | none => exact Nat.le_refl _
  | some most => exact Nat.min_le_left _ _

namespace CacheDirectives

theorem lifetime?_eq_some_iff {directives : CacheDirectives} {ceiling : Option Nat}
    {lifetime : Nat} :
    directives.lifetime? ceiling = some lifetime ↔
      (directives.isPrivate = false ∧ directives.noCache = false ∧
        directives.noStore = false) ∧
      ∃ age, directives.maxAge = some age ∧ lifetime = capped ceiling age ∧
        0 < lifetime := by
  obtain ⟨isPrivate, noCache, noStore, maxAge⟩ := directives
  unfold lifetime?
  by_cases hflags : (isPrivate || noCache || noStore) = true
  · rw [if_pos hflags]
    simp only [reduceCtorEq, false_iff]
    rintro ⟨⟨rfl, rfl, rfl⟩, _⟩
    cases hflags
  · rw [if_neg hflags]
    have hnone : isPrivate = false ∧ noCache = false ∧ noStore = false := by
      simpa [and_assoc] using hflags
    cases maxAge with
    | none => simp
    | some age =>
        change (if 0 < capped ceiling age then some (capped ceiling age) else Option.none) =
          some lifetime ↔ _
        by_cases hpos : 0 < capped ceiling age
        · rw [if_pos hpos]
          simp only [Option.some.injEq, hnone, true_and, exists_eq_left']
          exact ⟨fun h => ⟨h.symm, h ▸ hpos⟩, fun h => h.1.symm⟩
        · rw [if_neg hpos]
          simp only [reduceCtorEq, hnone, true_and, Option.some.injEq, exists_eq_left',
            false_iff]
          rintro ⟨rfl, h⟩
          exact hpos h

private theorem maxAge_add_lt {directives : CacheDirectives} {directive : String}
    (h : ∀ age, directives.maxAge = some age -> age < wordBound) :
    ∀ age, (directives.add directive).maxAge = some age -> age < wordBound := by
  intro age hage
  unfold add at hage
  dsimp only at hage
  split at hage
  · exact h age hage
  · split at hage
    · exact h age hage
    · split at hage
      · exact h age hage
      · split at hage
        · obtain ⟨argument, _, hnumeral⟩ := Option.bind_eq_some_iff.1 hage
          exact numeral?_lt hnumeral
        · exact h age hage

private theorem maxAge_foldl_lt (texts : List String) {start : CacheDirectives}
    (h : ∀ age, start.maxAge = some age -> age < wordBound) :
    ∀ age, (texts.foldl add start).maxAge = some age -> age < wordBound := by
  induction texts generalizing start with
  | nil => exact h
  | cons text texts ih =>
      rw [List.foldl_cons]
      exact ih (maxAge_add_lt h)

private theorem maxAge_ofValue_lt {value : String} {age : Nat}
    (h : (ofValue value).maxAge = some age) : age < wordBound :=
  maxAge_foldl_lt _ (fun _ hnone => by cases hnone) age h

end CacheDirectives

private theorem Response.AllowsAge.lt {response : Response} {age : Nat}
    (h : response.AllowsAge age) : age < wordBound := by
  obtain ⟨directives, hdirectives, _, _, _, hage⟩ := h
  obtain ⟨value, _, rfl⟩ := Option.map_eq_some_iff.1 hdirectives
  exact CacheDirectives.maxAge_ofValue_lt hage

namespace Response

/-- For how many seconds a response may be served under a ceiling, if it may be stored. -/
def lifetime? (response : Response) (ceiling : Option Nat) : Option Nat :=
  (CacheDirectives.ofHeader? response.header).bind (·.lifetime? ceiling)

/-- The lifetime of a response is the age that it allows, under the ceiling. -/
theorem lifetime?_eq_some_iff {response : Response} {ceiling : Option Nat}
    {lifetime : Nat} :
    response.lifetime? ceiling = some lifetime ↔
      ∃ age, response.AllowsAge age ∧ lifetime = capped ceiling age ∧ 0 < lifetime := by
  unfold lifetime? AllowsAge
  cases CacheDirectives.ofHeader? response.header with
  | none => simp
  | some directives =>
      simp only [Option.bind_some, CacheDirectives.lifetime?_eq_some_iff,
        Option.some.injEq, exists_eq_left']
      constructor
      · rintro ⟨⟨hprivate, hcache, hstore⟩, age, hage, hlifetime⟩
        exact ⟨age, ⟨hprivate, hcache, hstore, hage⟩, hlifetime⟩
      · rintro ⟨age, ⟨hprivate, hcache, hstore, hage⟩, hlifetime⟩
        exact ⟨⟨hprivate, hcache, hstore⟩, age, hage, hlifetime⟩

theorem AllowsAge.unique {response : Response} {age other : Nat}
    (h : response.AllowsAge age) (hother : response.AllowsAge other) : age = other := by
  obtain ⟨directives, hdirectives, _, _, _, hage⟩ := h
  obtain ⟨_, hsame, _, _, _, hotherAge⟩ := hother
  cases hdirectives.symm.trans hsame
  exact Option.some.inj (hage.symm.trans hotherAge)

/-- The number that stands for no ceiling bounds no age. -/
theorem lifetime?_noCeiling (response : Response) :
    response.lifetime? none = response.lifetime? (some Cache.noCeiling) := by
  refine Option.ext fun lifetime => ?_
  have hsame {age : Nat} (h : response.AllowsAge age) :
      capped none age = capped (some Cache.noCeiling) age := by
    have hlt := h.lt
    have hle : age ≤ Cache.noCeiling := by
      unfold Cache.noCeiling
      omega
    exact (Nat.min_eq_left hle).symm
  rw [lifetime?_eq_some_iff, lifetime?_eq_some_iff]
  constructor
  · rintro ⟨age, hage, hlifetime⟩
    exact ⟨age, hage, hsame hage ▸ hlifetime⟩
  · rintro ⟨age, hage, hlifetime⟩
    exact ⟨age, hage, hsame hage ▸ hlifetime⟩

end Response

theorem CacheEntry.isExpired_mono {entry : CacheEntry} {now later : Nat}
    (h : entry.isExpired now = true) (hle : now ≤ later) :
    entry.isExpired later = true := by
  simp only [isExpired, decide_eq_true_eq] at h ⊢
  omega

theorem CacheEntry.isExpired_eq_false_iff {entry : CacheEntry} {now : Nat} :
    entry.isExpired now = false ↔ now ≤ entry.storedAt + 1000 * entry.lifetime := by
  simp only [isExpired, decide_eq_false_iff_not]
  omega

namespace Cache

theorem lifetime?_eq (cache : Cache) (response : Response) :
    cache.lifetime? response = response.lifetime? cache.ceiling := by
  unfold lifetime? Response.lifetime?
  cases CacheDirectives.ofHeader? response.header <;> rfl

/-- The number of seconds that was set bounds the age, whichever it is. -/
theorem lifetime?_setCeiling (cache : Cache) (seconds : Nat) (response : Response) :
    (cache.setCeiling seconds).lifetime? response = response.lifetime? (some seconds) := by
  rw [lifetime?_eq]
  unfold setCeiling
  dsimp only
  split
  · next hnone => rw [hnone, response.lifetime?_noCeiling]
  · rfl

end Cache

end Intermediary
