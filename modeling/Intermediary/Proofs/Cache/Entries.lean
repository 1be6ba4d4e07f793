import Intermediary.Cache

/-!
# The entries of a cache

What is found after each operation: the operation changes the entry of its own
fingerprint, or removes all entries.
-/

namespace Intermediary.Cache

variable {cache : Cache} {print other : Fingerprint} {entry : CacheEntry}

def put (cache : Cache) (print : Fingerprint) (entry : CacheEntry) : Cache :=
  { cache with entries := (print, entry) :: (cache.erase print).entries }

theorem insert_of_lifetime {response : Response} {now lifetime : Nat}
    (h : cache.lifetime? response = some lifetime) :
    (cache.insert print response now).1 = cache.put print ⟨response, now, lifetime⟩ := by
  unfold insert
  rw [h]
  rfl

theorem insert_of_not_lifetime {response : Response} {now : Nat}
    (h : cache.lifetime? response = none) :
    cache.insert print response now = (cache, []) := by
  unfold insert
  rw [h]

/-- Only the fingerprint decides which entries are kept. -/
theorem find?_filter (keep : Fingerprint -> Bool) :
    find? { cache with entries := cache.entries.filter (keep ·.1) } print =
      if keep print then cache.find? print else none := by
  simp only [find?, List.find?_filter]
  split
  · next hkeep =>
    congr 2
    funext held
    by_cases hheld : held.1 = print
    · simp [hheld, hkeep]
    · simp [hheld]
  · next hkeep =>
    rw [Option.map_eq_none_iff, List.find?_eq_none]
    intro held _ hboth
    obtain ⟨hheld, rfl⟩ := by simpa using hboth
    exact hkeep hheld

@[simp] theorem find?_erase_self : (cache.erase print).find? print = none := by
  unfold erase
  rw [find?_filter (· != print)]
  simp

theorem find?_erase_of_ne (h : other ≠ print) :
    (cache.erase print).find? other = cache.find? other := by
  unfold erase
  rw [find?_filter (· != print)]
  simp [h]

@[simp] theorem find?_put_self : (cache.put print entry).find? print = some entry := by
  simp [find?, put]

theorem find?_put_of_ne (h : other ≠ print) :
    (cache.put print entry).find? other = cache.find? other := by
  calc (cache.put print entry).find? other
      = (cache.erase print).find? other := by simp [find?, put, h.symm]
    _ = cache.find? other := find?_erase_of_ne h

/-- An entry is removed when it is too old, and nothing is done otherwise. -/
theorem evict_cache (cache : Cache) (print : Fingerprint) (now : Nat) :
    (cache.evict print now).1 = cache ∨
      ∃ old, cache.find? print = some old ∧ old.isExpired now = true ∧
        (cache.evict print now).1 = cache.erase print := by
  unfold evict
  split
  · next old hfound =>
    split
    · next hold => exact .inr ⟨old, hfound, hold, rfl⟩
    · exact .inl rfl
  · exact .inl rfl

/-- Removing an entry that is too old leaves all others. -/
theorem find?_evict (cache : Cache) (print other : Fingerprint) (now : Nat) :
    (cache.evict print now).1.find? other = cache.find? other ∨
      (cache.evict print now).1.find? other = none ∧
        ∃ old, cache.find? other = some old ∧ old.isExpired now = true := by
  unfold evict
  cases hfound : cache.find? print with
  | none => exact .inl rfl
  | some old =>
      by_cases hold : old.isExpired now = true
      · dsimp only
        rw [if_pos hold]
        by_cases hother : other = print
        · subst hother
          exact .inr ⟨find?_erase_self, old, hfound, hold⟩
        · exact .inl (find?_erase_of_ne hother)
      · dsimp only
        rw [if_neg hold]
        exact .inl rfl

theorem find?_evict_of_ne {now : Nat} (h : other ≠ print) :
    (cache.evict print now).1.find? other = cache.find? other := by
  obtain hsame | ⟨_, _, _, herased⟩ := cache.evict_cache print now
  · rw [hsame]
  · rw [herased, find?_erase_of_ne h]

theorem lookup_cache (cache : Cache) (print : Fingerprint) (now : Nat) :
    (cache.lookup print now).2.1 = cache ∨
      (cache.lookup print now).2.1 = (cache.evict print now).1 := by
  unfold lookup
  split
  · exact .inl rfl
  · exact .inl rfl
  · exact .inr rfl

theorem lookup_answer (cache : Cache) (print : Fingerprint) (now : Nat) :
    (cache.lookup print now).1 =
      (cache.find? print).bind fun entry =>
        if entry.isExpired now then none else some entry.response := by
  unfold lookup peek
  cases cache.find? print with
  | none => rfl
  | some entry =>
      cases hold : entry.isExpired now with
      | false => simp [hold]
      | true => simp [hold]

theorem exists_of_peek_hit {response : Response} {now : Nat}
    (h : cache.peek print now = .hit response) :
    ∃ entry, cache.find? print = some entry ∧ entry.isExpired now = false ∧
      entry.response = response := by
  unfold peek at h
  split at h
  · cases h
  · next entry hfound =>
    split at h
    · cases h
    · next hexpired =>
      cases h
      exact ⟨entry, hfound, by simpa using hexpired, rfl⟩

@[simp] theorem ceiling_evict {now : Nat} :
    (cache.evict print now).1.ceiling = cache.ceiling := by
  unfold evict
  split
  · split <;> rfl
  · rfl

end Intermediary.Cache
