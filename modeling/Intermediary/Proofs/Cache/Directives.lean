import Intermediary.Proofs.Cache.Entries
import Intermediary.Proofs.Cache.Lifetime
import Intermediary.Proofs.Header.Gathering
import Intermediary.Proofs.Text.Case

/-!
# What all lines of directives decide

Whether a response is kept, and for how long, is decided by the items of all its
lines of directives together: one item can forbid it, and of several ages the last
counts.  Neither the cutting into lines, nor the case of letters, nor the order of
the items that give no age makes a difference.
-/

namespace Intermediary

open Text

namespace CacheDirectives

/-! ## What one item says -/

/-- The name of an item: what stands before its first equals sign, trimmed. -/
def itemName (item : String) : String :=
  trim (String.ofList (item.toList.takeWhile (· != '=')))

def isNamed (name item : String) : Bool :=
  sameIgnoringCase (itemName item) name

/-- The names of items that forbid that a response is kept. -/
def forbidding : List String := ["private", "no-cache", "no-store"]

def ageName : String := "max-age"

/--
An item gives an age: after its first equals sign there stands, within blanks and
double quotes, a number of at most sixty-four bits.
-/
def GivesAge (item : String) (age : Nat) : Prop :=
  ∃ before argument opening sign digits closing : List Char,
    item.toList = before ++ '=' :: argument ∧ '=' ∉ before ∧
    trimChars argument = opening ++ (sign ++ digits) ++ closing ∧
    (∀ c ∈ opening, c = '"') ∧ (∀ c ∈ closing, c = '"') ∧
    (sign = [] ∨ sign = ['+']) ∧ Spells 10 digits age ∧ age < wordBound

/-- The age that an item gives, if its argument is a number. -/
def itemAge? (item : String) : Option Nat :=
  (split item).2.bind (numeral? 10 wordBound)

/-- Characters that neither begin nor end with a quote are left when quotes are taken away. -/
private theorem unquoted_surrounded {opening core closing : List Char} {text : String}
    (hopening : ∀ c ∈ opening, c = '"') (hclosing : ∀ c ∈ closing, c = '"')
    (hcore : '"' ∉ core) (hne : core ≠ [])
    (htext : text.toList = opening ++ core ++ closing) :
    (unquoted text).toList = core := by
  have hkeep : ∀ {cs : List Char} (rest : List Char), '"' ∉ cs -> cs ≠ [] ->
      (cs ++ rest).dropWhile (· == '"') = cs ++ rest := by
    intro cs rest hcs hnil
    cases cs with
    | nil => exact absurd rfl hnil
    | cons c cs =>
        have hc : c ≠ '"' := fun heq => hcs (heq ▸ List.mem_cons_self)
        simp [hc]
  have hdrop : ∀ {cs : List Char} (rest : List Char), (∀ c ∈ cs, c = '"') ->
      (cs ++ rest).dropWhile (· == '"') = rest.dropWhile (· == '"') := by
    intro cs rest hcs
    exact List.dropWhile_append_of_pos fun c hc => by simp [hcs c hc]
  have hfront : text.toList.dropWhile (· == '"') = core ++ closing := by
    rw [htext, List.append_assoc, hdrop _ hopening, hkeep _ hcore hne]
  have hback : (core ++ closing).reverse.dropWhile (· == '"') = core.reverse := by
    have hrest : (core.reverse ++ []).dropWhile (· == '"') = core.reverse ++ [] :=
      hkeep [] (by simpa using hcore) (by simpa using hne)
    rw [List.append_nil] at hrest
    rw [List.reverse_append, hdrop _ fun c hc => hclosing c (List.mem_reverse.1 hc), hrest]
  unfold unquoted
  rw [hfront, String.toList_ofList, dropEnd, hback, List.reverse_reverse]

private theorem exists_quotes (text : String) :
    ∃ opening closing : List Char, (∀ c ∈ opening, c = '"') ∧ (∀ c ∈ closing, c = '"') ∧
      text.toList = opening ++ (unquoted text).toList ++ closing := by
  obtain ⟨closing, hclosing, hsplit⟩ :=
    exists_of_dropEnd (· == '"') (text.toList.dropWhile (· == '"'))
  refine ⟨text.toList.takeWhile (· == '"'), closing, fun c hc => ?_,
    fun c hc => eq_of_beq (hclosing c hc), ?_⟩
  · exact eq_of_beq (List.all_eq_true.1 List.all_takeWhile c hc)
  · unfold unquoted
    rw [String.toList_ofList, List.append_assoc, ← hsplit, List.takeWhile_append_dropWhile]

private theorem quote_not_mem_of_spells {sign digits : List Char} {n : Nat}
    (hsign : sign = [] ∨ sign = ['+']) (h : Spells 10 digits n) : '"' ∉ sign ++ digits := by
  intro hmem
  rcases List.mem_append.1 hmem with hmem | hmem
  · rcases hsign with rfl | rfl <;> simp at hmem
  · exact absurd (digit?_of_spells h hmem) (by decide)

theorem itemAge?_eq_some_iff {item : String} {age : Nat} :
    itemAge? item = some age ↔ GivesAge item age := by
  unfold itemAge? split
  constructor
  · intro h
    split at h
    · next name argument hcut =>
      obtain ⟨hsplit, hbefore⟩ := cutAt_eq_some_iff.1 hcut
      dsimp only [Option.bind_some] at h
      obtain ⟨sign, digits, hnumeral, hsign, hspells, hlt⟩ := numeral?_eq_some_iff.1 h
      obtain ⟨opening, closing, hopening, hclosing, hquotes⟩ := exists_quotes (trim argument)
      rw [toList_trim, hnumeral] at hquotes
      exact ⟨_, _, opening, sign, digits, closing, hsplit, hbefore, hquotes, hopening,
        hclosing, hsign, hspells, hlt⟩
    · cases h
  · rintro ⟨before, argument, opening, sign, digits, closing, hsplit, hbefore, hquotes,
      hopening, hclosing, hsign, hspells, hlt⟩
    rw [cutAt_of_split hsplit hbefore]
    have hne : sign ++ digits ≠ [] := by
      simp [hspells.1]
    have htrim : (trim (String.ofList argument)).toList =
        opening ++ (sign ++ digits) ++ closing := by
      rw [toList_trim, String.toList_ofList, hquotes]
    have hcore := unquoted_surrounded hopening hclosing
      (quote_not_mem_of_spells hsign hspells) hne htrim
    dsimp only [Option.bind_some]
    exact numeral?_eq_some_iff.2 ⟨sign, digits, hcore, hsign, hspells, hlt⟩

private theorem split_fst {item : String} (h : Trimmed item.toList) :
    (split item).1 = itemName item := by
  unfold split itemName
  rcases mark_or_not_mem '=' item.toList with ⟨before, argument, hbefore, hsplit⟩ | hnone
  · rw [cutAt_of_split hsplit hbefore, hsplit, takeWhile_of_not_mem hbefore]
  · rw [cutAt_of_not_mem hnone, List.takeWhile_eq_self_iff.2 (bne_of_not_mem hnone),
      String.ofList_toList, trim_of_trimmed h]

/-- The names that count are different names. -/
private theorem pairwise_names :
    (forbidding ++ [ageName]).Pairwise fun name other => sameIgnoringCase name other = false := by
  decide

private theorem isNamed_of_ne {name other item : String} (h : isNamed name item = true)
    (hne : sameIgnoringCase name other = false) : isNamed other item = false := by
  unfold isNamed at h ⊢
  rw [sameIgnoringCase_congr_left h, hne]

/-- An item sets the flag of its name, or gives an age in place of an earlier one. -/
theorem add_eq {item : String} (h : Trimmed item.toList) (directives : CacheDirectives) :
    directives.add item =
      ⟨directives.isPrivate || isNamed "private" item,
        directives.noCache || isNamed "no-cache" item,
        directives.noStore || isNamed "no-store" item,
        if isNamed ageName item then itemAge? item else directives.maxAge⟩ := by
  have hnamed : ∀ name, sameIgnoringCase (split item).1 name = isNamed name item := by
    intro name
    rw [split_fst h, isNamed]
  obtain ⟨⟨hcache, hstore, hage⟩, ⟨hstore', hage'⟩, hage''⟩ := by
    simpa [forbidding] using pairwise_names
  unfold add
  simp only [hnamed]
  by_cases hprivate : isNamed "private" item = true
  · simp [hprivate, isNamed_of_ne hprivate hcache, isNamed_of_ne hprivate hstore,
      isNamed_of_ne hprivate hage]
  · by_cases hnoCache : isNamed "no-cache" item = true
    · simp [hprivate, hnoCache, isNamed_of_ne hnoCache hstore', isNamed_of_ne hnoCache hage']
    · by_cases hnoStore : isNamed "no-store" item = true
      · simp [hprivate, hnoCache, hnoStore, isNamed_of_ne hnoStore hage'']
      · by_cases hmaxAge : isNamed "max-age" item = true <;>
          simp [hprivate, hnoCache, hnoStore, hmaxAge, itemAge?, ageName]

/-! ## What all items decide -/

/-- The flags are those of any item, and the age is that of the last item with one. -/
private theorem foldl_add_eq {items : List String} (h : ∀ item ∈ items, Trimmed item.toList)
    (start : CacheDirectives) :
    items.foldl add start =
      ⟨start.isPrivate || items.any (isNamed "private"),
        start.noCache || items.any (isNamed "no-cache"),
        start.noStore || items.any (isNamed "no-store"),
        ((items.filter (isNamed ageName)).getLast?.map itemAge?).getD start.maxAge⟩ := by
  induction items generalizing start with
  | nil => simp
  | cons item items ih =>
      obtain ⟨hitem, hitems⟩ := List.forall_mem_cons.1 h
      rw [List.foldl_cons, ih hitems, add_eq hitem]
      simp only [List.any_cons, Bool.or_assoc, List.filter_cons]
      split
      · rw [List.getLast?_cons]
        cases (items.filter (isNamed ageName)).getLast? <;> rfl
      · rfl

/--
A list of items lets a response be kept for an age: no item forbids it, and the last
item that is to give an age gives this one.
-/
structure Keeps (items : List String) (age : Nat) : Prop where
  allowed : ∀ item ∈ items, ∀ name ∈ forbidding, isNamed name item = false
  last : ∃ before item after, items = before ++ item :: after ∧
    isNamed ageName item = true ∧ (∀ other ∈ after, isNamed ageName other = false) ∧
    GivesAge item age

theorem getLast?_filter_eq_some_iff {α : Type} {p : α -> Bool} {items : List α} {item : α} :
    (items.filter p).getLast? = some item ↔
      ∃ before after, items = before ++ item :: after ∧ p item = true ∧
        ∀ other ∈ after, p other = false := by
  rw [← List.head?_reverse, ← List.filter_reverse, List.head?_filter,
    List.find?_eq_some_iff_append]
  constructor
  · rintro ⟨hitem, after, before, hsplit, hafter⟩
    refine ⟨before.reverse, after.reverse, ?_, hitem, fun other hother => ?_⟩
    · rw [← List.reverse_reverse items, hsplit]
      simp
    · simpa using hafter other (List.mem_reverse.1 hother)
  · rintro ⟨before, after, rfl, hitem, hafter⟩
    exact ⟨hitem, after.reverse, before.reverse, by simp, by simpa using hafter⟩

theorem keeps_iff {items : List String} {age : Nat} :
    Keeps items age ↔
      (∀ name ∈ forbidding, items.any (isNamed name) = false) ∧
        (items.filter (isNamed ageName)).getLast?.bind itemAge? = some age := by
  constructor
  · rintro ⟨hallowed, before, item, after, hsplit, hitem, hafter, hage⟩
    refine ⟨fun name hname => ?_, ?_⟩
    · exact List.any_eq_false.2 fun item hitem => by simp [hallowed item hitem name hname]
    · rw [getLast?_filter_eq_some_iff.2 ⟨before, after, hsplit, hitem, hafter⟩]
      exact itemAge?_eq_some_iff.2 hage
  · rintro ⟨hallowed, hlast⟩
    obtain ⟨item, hitem, hage⟩ := Option.bind_eq_some_iff.1 hlast
    obtain ⟨before, after, hsplit, hnamed, hafter⟩ := getLast?_filter_eq_some_iff.1 hitem
    refine ⟨fun item hitem name hname => ?_, before, item, after, hsplit, hnamed, hafter,
      itemAge?_eq_some_iff.1 hage⟩
    simpa using List.any_eq_false.1 (hallowed name hname) item hitem

theorem lifetime?_foldl_eq_some_iff {items : List String}
    (h : ∀ item ∈ items, Trimmed item.toList) {ceiling : Option Nat} {lifetime : Nat} :
    (items.foldl add none).lifetime? ceiling = some lifetime ↔
      ∃ age, Keeps items age ∧ lifetime = capped ceiling age ∧ 0 < lifetime := by
  have hage : ((items.filter (isNamed ageName)).getLast?.map itemAge?).getD Option.none =
      (items.filter (isNamed ageName)).getLast?.bind itemAge? := by
    cases (items.filter (isNamed ageName)).getLast? <;> rfl
  rw [lifetime?_eq_some_iff, foldl_add_eq h]
  simp only [none, Bool.false_or, hage, keeps_iff, forbidding, List.mem_cons, List.not_mem_nil,
    or_false, forall_eq_or_imp, forall_eq]
  exact ⟨fun ⟨hflags, age, hlast, hlifetime⟩ => ⟨age, ⟨hflags, hlast⟩, hlifetime⟩,
    fun ⟨age, ⟨hflags, hlast⟩, hlifetime⟩ => ⟨hflags, age, hlast, hlifetime⟩⟩

/-! ## Cases and order -/

private theorem split_lower (item : String) :
    split (lower item) = ((lower (split item).1), (split item).2.map lower) := by
  have hunquoted : ∀ text, unquoted (lower text) = lower (unquoted text) := by
    intro text
    have hquote : IgnoresCase (· == '"') := ignoresCase_mark (by decide)
    unfold unquoted
    rw [toList_lower, hquote.dropWhile_map, hquote.dropEnd_map]
    simp [lower]
  unfold split
  rw [cutAt_lower (by decide)]
  cases cutAt '=' item with
  | none => rfl
  | some parts => simp only [Option.map_some, trim_lower, hunquoted]

private theorem itemAge?_lower (item : String) : itemAge? (lower item) = itemAge? item := by
  unfold itemAge?
  rw [split_lower]
  cases (split item).2 with
  | none => rfl
  | some argument => exact numeral?_lower wordBound argument

private theorem isNamed_lower (name item : String) :
    isNamed name (lower item) = isNamed name item := by
  have hequals : IgnoresCase (· != '=') := ignoresCase_not_mark (by decide)
  have hname : itemName (lower item) = lower (itemName item) := by
    unfold itemName
    rw [toList_lower, hequals.takeWhile_map, ← trim_lower]
    simp [lower]
  unfold isNamed
  rw [hname, sameIgnoringCase_congr_left (sameIgnoringCase_lower _)]

/--
Two lists have the same items up to case, and those that are to give an age stand in the
same order.
-/
structure Rearranges (items others : List String) : Prop where
  perm : (items.map lower).Perm (others.map lower)
  ages : (items.filter (isNamed ageName)).map lower = (others.filter (isNamed ageName)).map lower

theorem Rearranges.keeps_iff {items others : List String} (h : Rearranges items others)
    (age : Nat) : Keeps others age ↔ Keeps items age := by
  have hany : ∀ name, others.any (isNamed name) = items.any (isNamed name) := by
    intro name
    have hlower : ∀ texts : List String,
        texts.any (isNamed name) = (texts.map lower).any (isNamed name) := by
      intro texts
      rw [List.any_map]
      exact congrArg texts.any (funext fun item => (isNamed_lower name item).symm)
    rw [hlower others, hlower items, h.perm.any_eq]
  have hlast : ∀ texts : List String, texts.getLast?.bind itemAge? =
      (texts.map lower).getLast?.bind itemAge? := by
    intro texts
    rw [List.getLast?_map]
    cases texts.getLast? with
    | none => rfl
    | some item => exact (itemAge?_lower item).symm
  rw [CacheDirectives.keeps_iff, CacheDirectives.keeps_iff, hlast, hlast (items.filter _), h.ages]
  simp only [hany]

/-! ## What is stored -/

/-- A response is kept as a list of items lets it be, under any ceiling. -/
structure Governs (items : List String) (response : Response) : Prop where
  lifetime : ∀ ceiling lifetime, response.lifetime? ceiling = some lifetime ↔
    ∃ age, Keeps items age ∧ lifetime = capped ceiling age ∧ 0 < lifetime
  mayStore : ∀ cache : Cache, cache.mayStore response = true ↔
    ∃ age, Keeps items age ∧ 0 < capped cache.ceiling age
  stores : ∀ (cache : Cache) print now age, Keeps items age -> 0 < capped cache.ceiling age ->
    (cache.insert print response now).1 =
      cache.put print ⟨response, now, capped cache.ceiling age⟩
  ignores : ∀ (cache : Cache) print now, cache.mayStore response = false ->
    (cache.insert print response now).1 = cache
  /-- A ceiling bounds every age, and the greatest one none. -/
  ceiling : ∀ (cache : Cache) seconds age, Keeps items age ->
    capped (cache.setCeiling seconds).ceiling age = min age seconds
  lowered : ∀ (cache : Cache) less more shorter, less ≤ more ->
    (cache.setCeiling less).lifetime? response = some shorter ->
    ∃ longer, shorter ≤ longer ∧ (cache.setCeiling more).lifetime? response = some longer

private theorem Keeps.lt {items : List String} {age : Nat} (h : Keeps items age) :
    age < wordBound := by
  obtain ⟨_, item, _, _, _, _, hage⟩ := h.last
  obtain ⟨_, _, _, _, _, _, _, _, _, _, _, _, _, hlt⟩ := hage
  exact hlt

private theorem governs_of_lifetime {items : List String} {response : Response}
    (h : ∀ ceiling lifetime, response.lifetime? ceiling = some lifetime ↔
      ∃ age, Keeps items age ∧ lifetime = capped ceiling age ∧ 0 < lifetime) :
    Governs items response where
  lifetime := h
  mayStore cache := by
    rw [Cache.mayStore, Cache.lifetime?_eq, Option.isSome_iff_exists]
    constructor
    · rintro ⟨lifetime, hlifetime⟩
      obtain ⟨age, hkeeps, rfl, hpos⟩ := (h _ _).1 hlifetime
      exact ⟨age, hkeeps, hpos⟩
    · rintro ⟨age, hkeeps, hpos⟩
      exact ⟨_, (h _ _).2 ⟨age, hkeeps, rfl, hpos⟩⟩
  stores cache print now age hkeeps hpos := by
    refine Cache.insert_of_lifetime ?_
    rw [Cache.lifetime?_eq]
    exact (h _ _).2 ⟨age, hkeeps, rfl, hpos⟩
  ignores cache print now hnot := by
    have hnone : cache.lifetime? response = Option.none := by
      simpa [Cache.mayStore] using hnot
    rw [Cache.insert_of_not_lifetime hnone]
  ceiling cache seconds age hkeeps := by
    have hlt := hkeeps.lt
    unfold Cache.setCeiling
    dsimp only
    split
    · next hseconds =>
      have hle : age ≤ Cache.noCeiling := Nat.le_sub_one_of_lt hlt
      rw [hseconds, Nat.min_eq_left hle]
      rfl
    · rfl
  lowered cache less more shorter hle hshorter := by
    rw [Cache.lifetime?_setCeiling] at hshorter ⊢
    obtain ⟨age, hkeeps, rfl, hpos⟩ := (h _ _).1 hshorter
    have hmono : capped (some less) age ≤ capped (some more) age :=
      Nat.le_min.2 ⟨Nat.min_le_left _ _, (Nat.min_le_right _ _).trans hle⟩
    exact ⟨_, hmono, (h _ _).2 ⟨age, hkeeps, rfl, Nat.lt_of_lt_of_le hpos hmono⟩⟩

/-- Lists that differ in case, and in the order of items without an age, govern alike. -/
theorem Governs.alike {items others : List String} {response other : Response}
    (h : Governs items response) (hother : Governs others other)
    (hitems : Rearranges items others) (ceiling : Option Nat) :
    other.lifetime? ceiling = response.lifetime? ceiling := by
  refine Option.ext fun lifetime => ?_
  rw [h.lifetime, hother.lifetime]
  simp only [hitems.keeps_iff]

private theorem trimmed_of_mem_listed {lines : List Field} {name item : String}
    (h : item ∈ Header.listed lines name) : Trimmed item.toList := by
  obtain ⟨line, _, hitem⟩ := List.mem_flatMap.1 h
  obtain ⟨piece, _, rfl⟩ := List.mem_map.1 (List.mem_filter.1 hitem).1
  rw [toList_trim]
  exact trimmed_trimChars piece.toList

/-- A header with no line of directives lets nothing be kept, as no item does. -/
theorem governs_of_decidedBy {lines : List Field} {response : Response}
    (h : Header.DecidedBy lines response.header) :
    Governs (Header.listed lines cacheControlField) response := by
  refine governs_of_lifetime fun ceiling lifetime => ?_
  rw [← lifetime?_foldl_eq_some_iff fun _ => trimmed_of_mem_listed]
  unfold Response.lifetime?
  rw [h.directives]
  split
  · rfl
  · next hnone =>
    have hnil : Header.listed lines cacheControlField = [] := by
      have hlines : lines.filter (sameIgnoringCase ·.name cacheControlField) = [] := by
        simpa using hnone
      rw [Header.listed, hlines, List.flatMap_nil]
    rw [hnil]
    rfl

/--
Whether a response is stored whose header was read, and for how long, is decided by
the items of all lines of directives that were read, in their order: whatever lines
they stood in, and up to case and to the order of the items that give no age.  A lower
ceiling never makes it be kept for longer.
-/
theorem governs_of_read {limits : Limits} {stream rest : Bytes} {header : Header}
    (h : Header.read limits stream = .ok (header, rest)) :
    ∃ lines blank, Header.Lines limits stream lines blank rest ∧
      ∀ response : Response, response.header = header ->
        Governs (Header.listed lines.fields cacheControlField) response ∧
        ∀ others (other : Response), Governs others other ->
          Rearranges (Header.listed lines.fields cacheControlField) others ->
          ∀ ceiling, other.lifetime? ceiling = response.lifetime? ceiling := by
  obtain ⟨lines, blank, hlines, _, rfl⟩ := Header.exists_lines_of_readInto h
  have hgathers := Header.gathers_empty.receiveAll lines.fields
  refine ⟨lines, blank, hlines, fun response hheader => ?_⟩
  have hgoverns : Governs (Header.listed lines.fields cacheControlField) response := by
    refine governs_of_decidedBy ?_
    rw [hheader]
    exact hgathers.decidedBy
  exact ⟨hgoverns, fun others other => hgoverns.alike⟩

/-- Directives in two lines, of which the second gives another age. -/
def splitLines : Bytes :=
  Bytes.ofText <| "cache-control: Public, max-age=5\r\nVia: x\r\n" ++
    "CACHE-CONTROL: Max-Age = \"60\"\r\n\r\n"

theorem governs_of_splitLines :
    ∃ header lines blank, Header.read ⟨60, 3, 0⟩ splitLines = .ok (header, []) ∧
      Header.Lines ⟨60, 3, 0⟩ splitLines lines blank [] ∧
      Keeps (Header.listed lines.fields cacheControlField) 60 ∧
      (Cache.empty.setCeiling 30).mayStore ⟨"HTTP/1.1", .ok, header, .empty⟩ = true := by
  let header : Header := ⟨[⟨"cache-control", "Public, max-age=5, Max-Age = \"60\""⟩, ⟨"Via", "x"⟩]⟩
  let response : Response := ⟨"HTTP/1.1", .ok, header, .empty⟩
  have hread : Header.read ⟨60, 3, 0⟩ splitLines = .ok (header, []) := by
    decide +kernel
  have hlifetime : response.lifetime? Option.none = some 60 := by
    decide +kernel
  obtain ⟨lines, blank, hlines, hall⟩ := governs_of_read hread
  obtain ⟨hgoverns, _⟩ := hall response rfl
  obtain ⟨age, hkeeps, hage, _⟩ := (hgoverns.lifetime _ _).1 hlifetime
  have hsixty : age = 60 := hage.symm
  subst hsixty
  refine ⟨header, lines, blank, hread, hlines, hkeeps, (hgoverns.mayStore _).2 ⟨60, hkeeps, ?_⟩⟩
  decide

end CacheDirectives

end Intermediary
