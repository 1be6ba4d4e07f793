import Intermediary.Proofs.Cache.Entries
import Intermediary.Proofs.Cache.Lifetime
import Intermediary.Proofs.Program
import Mathlib.Data.List.Induction

/-!
# The cache as a timed map

An ideal map keeps every entry until another takes its place or all are
removed, and looks at its age only to answer.  The cache holds less: it drops
an entry that is found too old.  It answers as the map does, because an entry
that was dropped stays too old for ever.

What the map holds is then read off the operations themselves: the latest one
that decides about a fingerprint.
-/

namespace Intermediary.Cache

/-- What may be done to a cache, and the passing of time. -/
inductive Operation where
  | insert (request : Request) (response : Response)
  | mayStore (response : Response)
  | lookup (request : Request)
  | clear
  | setCeiling (seconds : Nat)
  | wait (milliseconds : Nat)
  deriving DecidableEq

structure Timed where
  cache : Cache
  now : Nat

namespace Timed

def fresh : Timed := ⟨empty, 0⟩

def step (timed : Timed) : Operation -> Timed
  | .insert request response =>
      { timed with
        cache := (timed.cache.insert request.fingerprint response timed.now).1 }
  | .mayStore _ => timed
  | .lookup request =>
      { timed with cache := (timed.cache.lookup request.fingerprint timed.now).2.1 }
  | .clear => { timed with cache := timed.cache.clear.1 }
  | .setCeiling seconds => { timed with cache := timed.cache.setCeiling seconds }
  | .wait milliseconds => { timed with now := timed.now + milliseconds }

def run (history : List Operation) : Timed :=
  history.foldl step fresh

def answer (timed : Timed) (request : Request) : Option Response :=
  (timed.cache.lookup request.fingerprint timed.now).1

end Timed

/-! ## The ideal map -/

/-- A map that keeps its entries, and the time. -/
structure TimedMap where
  held : Fingerprint -> Option CacheEntry
  /-- The ceiling that was set last. -/
  ceiling : Option Nat
  now : Nat

namespace TimedMap

def fresh : TimedMap := ⟨fun _ => none, none, 0⟩

def hold (map : TimedMap) (print : Fingerprint) (entry : CacheEntry) : TimedMap :=
  { map with held := fun other => if other = print then some entry else map.held other }

/-- The map after an operation.  A question leaves it as it is. -/
def step (map : TimedMap) : Operation -> TimedMap
  | .insert request response =>
      match response.lifetime? map.ceiling with
      | none => map
      | some lifetime => map.hold request.fingerprint ⟨response, map.now, lifetime⟩
  | .mayStore _ | .lookup _ => map
  | .clear => { map with held := fun _ => none }
  | .setCeiling seconds => { map with ceiling := some seconds }
  | .wait milliseconds => { map with now := map.now + milliseconds }

def run (history : List Operation) : TimedMap :=
  history.foldl step fresh

/-- The response held for a request, unless it is too old. -/
def answer (map : TimedMap) (request : Request) : Option Response :=
  (map.held request.fingerprint).bind fun entry =>
    if entry.isExpired map.now then none else some entry.response

theorem run_snoc (history : List Operation) (operation : Operation) :
    run (history ++ [operation]) = (run history).step operation := by
  simp [run]

end TimedMap

/-! ## The cache answers as the map does -/

/-- The cache gives the lifetimes of the map, and lacks only what is too old. -/
structure Refines (timed : Timed) (map : TimedMap) : Prop where
  now : timed.now = map.now
  lifetime : ∀ response, timed.cache.lifetime? response = response.lifetime? map.ceiling
  found : ∀ print, timed.cache.find? print = map.held print ∨
    timed.cache.find? print = none ∧
      ∃ entry, map.held print = some entry ∧ entry.isExpired map.now = true

namespace Refines

variable {timed : Timed} {map : TimedMap}

private theorem fresh : Refines Timed.fresh TimedMap.fresh where
  now := rfl
  lifetime := lifetime?_eq empty
  found _ := .inl rfl

private theorem insert (h : Refines timed map) (request : Request) (response : Response) :
    Refines (timed.step (.insert request response))
      (map.step (.insert request response)) := by
  unfold Timed.step TimedMap.step
  dsimp only
  cases hlifetime : response.lifetime? map.ceiling with
  | none =>
      rw [insert_of_not_lifetime ((h.lifetime response).trans hlifetime)]
      exact h
  | some lifetime =>
      rw [insert_of_lifetime ((h.lifetime response).trans hlifetime), h.now]
      refine ⟨rfl, h.lifetime, fun print => ?_⟩
      by_cases hprint : print = request.fingerprint
      · subst hprint
        exact .inl (by simp [TimedMap.hold])
      · simp only [TimedMap.hold, if_neg hprint, find?_put_of_ne hprint]
        exact h.found print

private theorem lookup (h : Refines timed map) (request : Request) :
    Refines (timed.step (.lookup request)) map := by
  unfold Timed.step
  dsimp only
  obtain hcache | hcache := lookup_cache timed.cache request.fingerprint timed.now
  · rw [hcache]
    exact h
  · rw [hcache]
    refine ⟨h.now, fun response => ?_, fun print => ?_⟩
    · rw [← h.lifetime response, lifetime?_eq, lifetime?_eq, ceiling_evict]
    · -- an entry that is dropped now is one that the map still holds
      obtain hfound | ⟨hnone, old, hold, hexpired⟩ :=
        find?_evict timed.cache request.fingerprint print timed.now
      · rw [hfound]
        exact h.found print
      · obtain hsame | ⟨habsent, _⟩ := h.found print
        · exact .inr ⟨hnone, old, hsame ▸ hold, h.now ▸ hexpired⟩
        · rw [habsent] at hold
          cases hold

private theorem wait (h : Refines timed map) (milliseconds : Nat) :
    Refines (timed.step (.wait milliseconds)) (map.step (.wait milliseconds)) where
  now := congrArg (· + milliseconds) h.now
  lifetime := h.lifetime
  found print := by
    obtain hsame | ⟨hnone, entry, hheld, hexpired⟩ := h.found print
    · exact .inl hsame
    · exact .inr ⟨hnone, entry, hheld,
        entry.isExpired_mono hexpired (Nat.le_add_right _ _)⟩

theorem step (h : Refines timed map) (operation : Operation) :
    Refines (timed.step operation) (map.step operation) := by
  cases operation with
  | insert request response => exact h.insert request response
  | mayStore response => exact h
  | lookup request => exact h.lookup request
  | clear => exact ⟨h.now, fun response => h.lifetime response, fun _ => .inl rfl⟩
  | setCeiling seconds =>
      exact ⟨h.now, lifetime?_setCeiling timed.cache seconds, h.found⟩
  | wait milliseconds => exact h.wait milliseconds

theorem run (history : List Operation) :
    Refines (Timed.run history) (TimedMap.run history) := by
  have hsteps : ∀ {timed map}, Refines timed map ->
      Refines (history.foldl Timed.step timed) (history.foldl TimedMap.step map) := by
    induction history with
    | nil => exact id
    | cons operation history ih => exact fun h => ih (h.step operation)
  exact hsteps fresh

private theorem answer (h : Refines timed map) (request : Request) :
    timed.answer request = map.answer request := by
  unfold Timed.answer TimedMap.answer
  rw [lookup_answer, h.now]
  obtain hsame | ⟨hnone, entry, hheld, hexpired⟩ := h.found request.fingerprint
  · rw [hsame]
  · -- what the cache lacks, the map holds but does not give
    rw [hnone, hheld]
    simp [hexpired]

end Refines

/-! ## What a history leaves -/

def Operation.duration : Operation -> Nat
  | .wait milliseconds => milliseconds
  | _ => 0

def Operation.ceiling? : Operation -> Option Nat
  | .setCeiling seconds => some seconds
  | _ => none

def elapsed (history : List Operation) : Nat :=
  (history.map Operation.duration).sum

def ceilingAfter (history : List Operation) : Option Nat :=
  (history.filterMap Operation.ceiling?).getLast?

/--
An operation decides what there is for a fingerprint: all is removed, or a
response is inserted that may be stored, under the ceiling of that moment.
-/
def Operation.Decides (print : Fingerprint) (before : List Operation) :
    Operation -> Prop
  | .insert request response =>
      request.fingerprint = print ∧
        ∃ age, response.AllowsAge age ∧ 0 < capped (ceilingAfter before) age
  | .clear => True
  | _ => False

def Latest (print : Fingerprint) (history before : List Operation)
    (operation : Operation) : Prop :=
  ∃ after, history = before ++ operation :: after ∧ operation.Decides print before ∧
    ∀ between other later, after = between ++ other :: later ->
      ¬ other.Decides print (before ++ operation :: between)

section Latest

variable {print : Fingerprint} {history before : List Operation}
  {operation last : Operation}

private theorem latest_snoc_of_decides (h : last.Decides print history) :
    Latest print (history ++ [last]) before operation ↔
      before = history ∧ operation = last := by
  constructor
  · rintro ⟨after, hsplit, _, hnone⟩
    obtain ⟨_, hbefore, hlast⟩ | ⟨init, hafter, hhistory⟩ := snoc_eq_append_cons hsplit
    · exact ⟨hbefore.symm, hlast.symm⟩
    · exact absurd (hhistory ▸ h) (hnone init last [] hafter)
  · rintro ⟨rfl, rfl⟩
    exact ⟨[], rfl, h, fun between other later hnil => by simp at hnil⟩

private theorem latest_snoc_of_not_decides (h : ¬ last.Decides print history) :
    Latest print (history ++ [last]) before operation ↔
      Latest print history before operation := by
  constructor
  · rintro ⟨after, hsplit, hdecides, hnone⟩
    obtain ⟨_, rfl, rfl⟩ | ⟨init, rfl, hhistory⟩ := snoc_eq_append_cons hsplit
    · exact absurd hdecides h
    · exact ⟨init, hhistory, hdecides, fun between other later hinit =>
        hnone between other (later ++ [last]) (by simp [hinit])⟩
  · rintro ⟨after, rfl, hdecides, hnone⟩
    refine ⟨after ++ [last], by simp, hdecides, fun between other later hafter => ?_⟩
    obtain ⟨_, rfl, rfl⟩ | ⟨init, _, hbetween⟩ := snoc_eq_append_cons hafter
    · exact h
    · exact hnone between other init hbetween

end Latest

namespace TimedMap

theorem now_step (map : TimedMap) (operation : Operation) :
    (map.step operation).now = map.now + operation.duration := by
  cases operation with
  | insert request response =>
      unfold step
      dsimp only
      split <;> rfl
  | _ => rfl

theorem ceiling_step (map : TimedMap) (operation : Operation) :
    (map.step operation).ceiling = operation.ceiling?.or map.ceiling := by
  cases operation with
  | insert request response =>
      unfold step
      dsimp only
      split <;> rfl
  | _ => rfl

theorem run_now (history : List Operation) : (run history).now = elapsed history := by
  induction history using List.reverseRecOn with
  | nil => rfl
  | append_singleton history operation ih =>
      rw [run_snoc, now_step, ih]
      simp [elapsed]

theorem run_ceiling (history : List Operation) :
    (run history).ceiling = ceilingAfter history := by
  induction history using List.reverseRecOn with
  | nil => rfl
  | append_singleton history operation ih =>
      rw [run_snoc, ceiling_step, ih]
      cases hset : operation.ceiling? <;> simp [ceilingAfter, hset]

private theorem held_step_of_not_decides {print : Fingerprint} {history : List Operation}
    {operation : Operation} (h : ¬ operation.Decides print history) :
    ((run history).step operation).held print = (run history).held print := by
  cases operation with
  | insert request response =>
      unfold step
      dsimp only
      split
      · rfl
      · next lifetime hlifetime =>
        rw [run_ceiling] at hlifetime
        obtain ⟨age, hage, rfl, hpos⟩ := Response.lifetime?_eq_some_iff.1 hlifetime
        have hne : print ≠ request.fingerprint := fun hsame =>
          h ⟨hsame.symm, age, hage, hpos⟩
        exact if_neg hne
  | clear => exact absurd trivial h
  | _ => rfl

private theorem held_insert_of_decides {print : Fingerprint} {history : List Operation}
    {request : Request} {response : Response}
    (h : (Operation.insert request response).Decides print history) :
    ∃ age, response.AllowsAge age ∧
      ((run history).step (.insert request response)).held print =
        some ⟨response, elapsed history, capped (ceilingAfter history) age⟩ := by
  obtain ⟨rfl, age, hage, hpos⟩ := h
  have hlifetime : response.lifetime? (run history).ceiling =
      some (capped (ceilingAfter history) age) := by
    rw [run_ceiling]
    exact Response.lifetime?_eq_some_iff.2 ⟨age, hage, rfl, hpos⟩
  refine ⟨age, hage, ?_⟩
  unfold step
  dsimp only
  rw [hlifetime, run_now]
  exact if_pos rfl

/-- What is held is what the latest operation that decides has left. -/
theorem held_run_eq_some_iff {history : List Operation} {print : Fingerprint}
    {entry : CacheEntry} :
    (run history).held print = some entry ↔
      ∃ before stored age, Latest print history before (.insert stored entry.response) ∧
        entry.response.AllowsAge age ∧ entry.storedAt = elapsed before ∧
        entry.lifetime = capped (ceilingAfter before) age := by
  induction history using List.reverseRecOn with
  | nil =>
      refine ⟨nofun, ?_⟩
      rintro ⟨before, stored, age, ⟨after, hnil, _⟩, _⟩
      simp at hnil
  | append_singleton history operation ih =>
      rw [run_snoc]
      -- the last operation decides, or the one that decided before it still does
      by_cases hdecides : operation.Decides print history
      · simp only [latest_snoc_of_decides hdecides]
        cases operation with
        | insert request response =>
            obtain ⟨age, hage, hheld⟩ := held_insert_of_decides hdecides
            rw [hheld, Option.some.injEq]
            constructor
            · rintro rfl
              exact ⟨history, request, age, ⟨rfl, rfl⟩, hage, rfl, rfl⟩
            · rintro ⟨before, stored, other, ⟨rfl, hsame⟩, hother, hstored, hlifetime⟩
              obtain ⟨kept, storedAt, lifetime⟩ := entry
              cases hsame
              cases hage.unique hother
              dsimp only at hstored hlifetime
              rw [hstored, hlifetime]
        | clear =>
            refine ⟨nofun, ?_⟩
            rintro ⟨before, stored, age, ⟨_, hclear⟩, _⟩
            cases hclear
        | _ => exact hdecides.elim
      · simp only [latest_snoc_of_not_decides hdecides]
        rw [held_step_of_not_decides hdecides]
        exact ih

/-- What is given is what is held and has not outlived its age under the ceiling. -/
theorem answer_run_eq_some_iff {history : List Operation} {request : Request}
    {response : Response} :
    (run history).answer request = some response ↔
      ∃ before stored age,
        Latest request.fingerprint history before (.insert stored response) ∧
        response.AllowsAge age ∧
        elapsed history ≤ elapsed before + 1000 * capped (ceilingAfter before) age := by
  unfold answer
  rw [Option.bind_eq_some_iff, run_now]
  constructor
  · rintro ⟨entry, hheld, hfresh⟩
    obtain ⟨before, stored, age, hlatest, hage, hstored, hlifetime⟩ :=
      held_run_eq_some_iff.1 hheld
    split at hfresh
    · cases hfresh
    · next hexpired =>
      cases hfresh
      rw [Bool.not_eq_true, CacheEntry.isExpired_eq_false_iff, hstored, hlifetime]
        at hexpired
      exact ⟨before, stored, age, hlatest, hage, hexpired⟩
  · rintro ⟨before, stored, age, hlatest, hage, hfresh⟩
    let entry : CacheEntry :=
      ⟨response, elapsed before, capped (ceilingAfter before) age⟩
    have hheld : (run history).held request.fingerprint = some entry :=
      held_run_eq_some_iff.2 ⟨before, stored, age, hlatest, hage, rfl, rfl⟩
    have hexpired : entry.isExpired (elapsed history) = false :=
      CacheEntry.isExpired_eq_false_iff.2 hfresh
    refine ⟨entry, hheld, ?_⟩
    rw [hexpired]
    rfl

end TimedMap

/-! ## What never changes an answer -/

/--
An operation can change the answers for a fingerprint: it takes time, it
decides, or it sets a ceiling for a response that is inserted later.
-/
def Operation.Matters (print : Fingerprint) (before after : List Operation) :
    Operation -> Prop
  | .wait _ => True
  | .setCeiling _ =>
      ∃ stored response, Operation.insert stored response ∈ after ∧
        stored.fingerprint = print
  | operation => operation.Decides print before

/-- Two maps answer alike for a fingerprint, now and after more operations. -/
structure TimedMap.Alike (print : Fingerprint) (after : List Operation)
    (map other : TimedMap) : Prop where
  now : map.now = other.now
  held : map.held print = other.held print
  ceiling : map.ceiling = other.ceiling ∨
    ∀ stored response, Operation.insert stored response ∈ after ->
      stored.fingerprint ≠ print

namespace TimedMap

variable {print : Fingerprint} {operation : Operation} {before after : List Operation}
  {map other : TimedMap}

private theorem held_insert_of_ne (map : TimedMap) {request : Request} {response : Response}
    (h : request.fingerprint ≠ print) :
    (map.step (.insert request response)).held print = map.held print := by
  unfold step
  dsimp only
  split
  · rfl
  · exact if_neg h.symm

theorem Alike.step (h : Alike print (operation :: after) map other) :
    Alike print after (map.step operation) (other.step operation) where
  now := by rw [now_step, now_step, h.now]
  held := by
    cases operation with
    | insert request response =>
        -- under different ceilings only other fingerprints are inserted
        obtain hceiling | hnever := h.ceiling
        · unfold TimedMap.step
          dsimp only
          rw [hceiling, h.now]
          split
          · exact h.held
          · simp only [hold, h.held]
        · have hne := hnever request response (by simp)
          rw [held_insert_of_ne map hne, held_insert_of_ne other hne]
          exact h.held
    | clear => rfl
    | _ => exact h.held
  ceiling := by
    obtain hceiling | hnever := h.ceiling
    · exact .inl (by rw [ceiling_step, ceiling_step, hceiling])
    · exact .inr fun stored response hmem =>
        hnever stored response (List.mem_cons_of_mem _ hmem)

private theorem Alike.answer (h : Alike print after map other) {request : Request}
    (hprint : request.fingerprint = print) :
    (after.foldl TimedMap.step map).answer request =
      (after.foldl TimedMap.step other).answer request := by
  induction after generalizing map other with
  | nil =>
      subst hprint
      unfold TimedMap.answer
      rw [List.foldl_nil, List.foldl_nil, h.now, h.held]
  | cons operation after ih => exact ih h.step

private theorem alike_of_not_matters (h : ¬ operation.Matters print before after) :
    Alike print after ((run before).step operation) (run before) where
  now := by
    cases operation with
    | wait milliseconds => exact absurd trivial h
    | _ => simp [now_step, Operation.duration]
  held := by
    cases operation with
    | insert request response => exact held_step_of_not_decides h
    | clear => exact absurd trivial h
    | _ => rfl
  ceiling := by
    cases operation with
    | setCeiling seconds =>
        exact .inr fun stored response hmem hprint => h ⟨stored, response, hmem, hprint⟩
    | _ => exact .inl (by simp [ceiling_step, Operation.ceiling?])

end TimedMap

/-! ## Answers -/

/--
A response is given exactly as long as the latest operation that decided has
inserted it, and it is no older than its age under the ceiling of that moment.
Only method, host, port and path of a request count, and nothing else that was
done to the cache makes a difference.
-/
theorem Timed.answer_run (history : List Operation) :
    (∀ request response, (run history).answer request = some response ↔
      ∃ before stored age,
        Latest request.fingerprint history before (.insert stored response) ∧
        response.AllowsAge age ∧
        elapsed history ≤ elapsed before + 1000 * capped (ceilingAfter before) age) ∧
    (∀ request other : Request, request.method = other.method ->
      request.host = other.host -> request.port = other.port ->
      request.path = other.path ->
      (run history).answer request = (run history).answer other) ∧
    ∀ before operation after (request : Request),
      history = before ++ operation :: after ->
      ¬ operation.Matters request.fingerprint before after ->
      (run (before ++ after)).answer request = (run history).answer request := by
  refine ⟨fun request response => ?_, fun request other hmethod hhost hport hpath => ?_,
    fun before operation after request hhistory hmatters => ?_⟩
  · rw [(Refines.run history).answer]
    exact TimedMap.answer_run_eq_some_iff
  · have hprint : request.fingerprint = other.fingerprint := by
      simp only [Request.fingerprint, hmethod, hhost, hport, hpath]
    unfold answer
    rw [hprint]
  · rw [(Refines.run _).answer, (Refines.run _).answer, hhistory]
    have halike := (TimedMap.alike_of_not_matters hmatters).answer rfl
    unfold TimedMap.run at halike ⊢
    rw [List.foldl_append, List.foldl_append]
    exact halike.symm

/-- A response that may be kept for a minute is given for a minute, whatever
ceiling is set meanwhile. -/
theorem Timed.answer_minute :
    let request := Request.bare .get "a" 80 "/"
    let response : Response :=
      ⟨"HTTP/1.1", .ok, ⟨[⟨"cache-control", "max-age=60"⟩]⟩, .empty⟩
    (run [.insert request response, .setCeiling 1, .lookup request, .wait 60000]).answer
      request = some response := by
  intro request response
  have hage : response.AllowsAge 60 := ⟨⟨false, false, false, some 60⟩, by decide +kernel⟩
  have hlatest : Latest request.fingerprint
      [.insert request response, .setCeiling 1, .lookup request, .wait 60000] []
      (.insert request response) := by
    refine ⟨_, rfl, ⟨rfl, 60, hage, by decide⟩, fun between other later hafter => ?_⟩
    have hmem : other ∈ [Operation.setCeiling 1, .lookup request, .wait 60000] :=
      hafter ▸ by simp
    simp only [List.mem_cons, List.not_mem_nil, or_false] at hmem
    obtain rfl | rfl | rfl := hmem <;> exact id
  exact ((answer_run _).1 request response).2 ⟨[], request, 60, hlatest, hage, by decide⟩

end Intermediary.Cache
