import Intermediary.Proofs.Target.Reread

/-!
# The two readings of an absolute target

Host and port of an absolute target are read from its authority, which stands
behind any number of slashes of either kind and ends before the next one, a
question mark or a hash sign.  The path is what stands behind the double slash
of the scheme from its first slash or question mark on, wherever that is.  It is
found in what follows the authority exactly when no slash stands before it.
-/

namespace Intermediary

open Text

namespace Absolute

/-! ## Where the authority stands -/

/-- What can stand behind an authority: what ends it, or only what no target ends with. -/
def FollowsAuthority (suffix : List Char) : Prop :=
  (∀ c ∈ suffix, isControl c = true) ∨
    ∃ mark rest, suffix = mark :: rest ∧ endsAuthority mark = true

/-- The slashes before the authority of a target, its authority, and what follows it. -/
structure IsReading (given : String) (authority : Authority)
    (slashes part suffix : List Char) : Prop where
  text_eq : ∃ scheme, sameIgnoringCase (String.ofList scheme) "http" = true ∧
    given.toList = scheme ++ ':' :: '/' :: '/' :: (slashes ++ (part ++ suffix))
  slash_of_mem : ∀ c ∈ slashes, isSlash c = true
  free_of_mem : ∀ c ∈ part, endsAuthority c = false
  part_ne_nil : part ≠ []
  follows : FollowsAuthority suffix
  host_eq : (Host.ofText (String.ofList (cutPort false (withoutUser part)).1)).map
    Host.text = .ok authority.host
  port_eq : port (cutPort false (withoutUser part)).2 = .ok authority.port

/-- What follows the scheme is slashes, the authority, and what ends it. -/
private theorem exists_split (afterScheme : List Char) :
    ∃ slashes suffix, afterScheme = slashes ++ (authorityPart afterScheme ++ suffix) ∧
      (∀ c ∈ slashes, isSlash c = true) ∧ FollowsAuthority suffix := by
  obtain ⟨controls, hcontrols, hsplit⟩ := exists_of_dropEnd isControl afterScheme
  generalize hbody : dropEnd isControl afterScheme = body at hsplit
  have hpart : authorityPart afterScheme =
      (body.dropWhile isSlash).takeWhile (! endsAuthority ·) := by
    rw [authorityPart, hbody]
  refine ⟨body.takeWhile isSlash,
    (body.dropWhile isSlash).dropWhile (! endsAuthority ·) ++ controls, ?_, ?_, ?_⟩
  · rw [hpart, ← List.append_assoc (List.takeWhile (! endsAuthority ·) _),
      List.takeWhile_append_dropWhile, ← List.append_assoc, List.takeWhile_append_dropWhile]
    exact hsplit
  · exact List.all_eq_true.1 List.all_takeWhile
  · cases hrest : (body.dropWhile isSlash).dropWhile (! endsAuthority ·) with
    | nil => exact .inl hcontrols
    | cons mark rest =>
        have hmark := List.head?_dropWhile_not (! endsAuthority ·) (body.dropWhile isSlash)
        rw [hrest] at hmark
        exact .inr ⟨mark, rest ++ controls, rfl, by simpa using hmark⟩

private theorem exists_reading {given : String} {target : Target}
    (h : Target.ofAbsolute given = .ok target) :
    ∃ slashes part suffix, IsReading given target.authority slashes part suffix ∧
      target.path = path (slashes ++ (part ++ suffix)) := by
  obtain ⟨scheme, rest, hcut, hscheme, hauthority, hpath⟩ := Target.exists_of_ofAbsolute h
  obtain ⟨host, digits, parsed, hport, hne, hparsed, hhost, hdigits⟩ :=
    exists_of_authority hauthority
  obtain ⟨slashes, suffix, hsplit, hslashes, hsuffix⟩ := exists_split rest
  refine ⟨slashes, authorityPart rest, suffix,
    ⟨⟨scheme, hscheme, ?_⟩, hslashes, ?_, ?_, hsuffix, ?_, ?_⟩, ?_⟩
  · rw [← hsplit]
    exact cutScheme_eq_some hcut
  · intro c hc
    simpa using List.mem_takeWhile_imp hc
  · intro hnil
    rw [hnil] at hport
    exact hne (congrArg Prod.fst hport).symm
  · rw [hport, hparsed, hhost]
    rfl
  · rw [hport]
    exact hdigits
  · rw [← hsplit]
    exact hpath

/-! ## Where the path is found -/

def NoMark (cs : List Char) : Prop :=
  '/' ∉ cs ∧ '?' ∉ cs

theorem noMark_nil : NoMark [] :=
  ⟨List.not_mem_nil, List.not_mem_nil⟩

/--
The path of a text: all of it from its first slash on, or from its first
question mark on with a slash before that, whichever comes first.
-/
structure IsPathOf (cs : List Char) (path : String) : Prop where
  slash : ∀ before after, NoMark before -> cs = before ++ '/' :: after ->
    path = String.ofList ('/' :: after)
  query : ∀ before after, NoMark before -> cs = before ++ '?' :: after ->
    path = String.ofList ('/' :: '?' :: after)
  root : NoMark cs -> path = "/"

private theorem dropWhile_of_noMark {before : List Char} (h : NoMark before) (cs : List Char) :
    (before ++ cs).dropWhile (fun c => c ≠ '/' ∧ c ≠ '?') =
      cs.dropWhile (fun c => c ≠ '/' ∧ c ≠ '?') := by
  refine List.dropWhile_append_of_pos fun c hc => decide_eq_true ⟨?_, ?_⟩
  · rintro rfl
    exact h.1 hc
  · rintro rfl
    exact h.2 hc

theorem path_append {before : List Char} (h : NoMark before) (cs : List Char) :
    path (before ++ cs) = path cs := by
  unfold path
  rw [dropWhile_of_noMark h]

theorem isPathOf_path (cs : List Char) : IsPathOf cs (path cs) where
  slash before after hbefore hcs := by
    rw [hcs, path_append hbefore]
    rfl
  query before after hbefore hcs := by
    rw [hcs, path_append hbefore]
    rfl
  root hcs := by
    have hnil := path_append hcs []
    rw [List.append_nil] at hnil
    rw [hnil]
    rfl

/-- A text has a first slash or question mark, or neither of them. -/
private theorem mark_or_noMark (cs : List Char) :
    (∃ before after, NoMark before ∧ cs = before ++ '/' :: after) ∨
      (∃ before after, NoMark before ∧ cs = before ++ '?' :: after) ∨ NoMark cs := by
  induction cs with
  | nil => exact .inr (.inr noMark_nil)
  | cons c cs ih =>
      by_cases hslash : c = '/'
      · exact .inl ⟨[], cs, noMark_nil, by rw [hslash]; rfl⟩
      · by_cases hquery : c = '?'
        · exact .inr (.inl ⟨[], cs, noMark_nil, by rw [hquery]; rfl⟩)
        · have hcons : ∀ {before : List Char}, NoMark before -> NoMark (c :: before) := by
            intro before hbefore
            simp [NoMark, hbefore.1, hbefore.2, Ne.symm hslash, Ne.symm hquery]
          rcases ih with ⟨before, after, hbefore, rfl⟩ | ⟨before, after, hbefore, rfl⟩ | h
          · exact .inl ⟨c :: before, after, hcons hbefore, rfl⟩
          · exact .inr (.inl ⟨c :: before, after, hcons hbefore, rfl⟩)
          · exact .inr (.inr (hcons h))

private theorem IsPathOf.eq_path {cs : List Char} {found : String} (h : IsPathOf cs found) :
    found = path cs := by
  have hpath := isPathOf_path cs
  rcases mark_or_noMark cs with ⟨before, after, hbefore, hcs⟩ | ⟨before, after, hbefore, hcs⟩ | hcs
  · rw [h.slash _ _ hbefore hcs, hpath.slash _ _ hbefore hcs]
  · rw [h.query _ _ hbefore hcs, hpath.query _ _ hbefore hcs]
  · rw [h.root hcs, hpath.root hcs]

private theorem length_path_le (cs : List Char) : (path cs).toList.length ≤ cs.length + 1 := by
  have hpath := isPathOf_path cs
  rcases mark_or_noMark cs with ⟨before, after, hbefore, hcs⟩ | ⟨before, after, hbefore, hcs⟩ | hcs
  · rw [hpath.slash _ _ hbefore hcs, hcs]
    simp; omega
  · rw [hpath.query _ _ hbefore hcs, hcs]
    simp
  · rw [hpath.root hcs]
    simp

/--
A path that goes on where the authority ends: it is what follows, with a slash
before it where it has none, as far as the hash sign.
-/
structure Continues (suffix : List Char) (path : String) : Prop where
  slash : ∀ cs, suffix = '/' :: cs -> path = String.ofList suffix
  query : ∀ cs, suffix = '?' :: cs -> path = String.ofList ('/' :: suffix)
  root : suffix = [] ∨ (∃ cs, suffix = '#' :: cs) -> path = "/"
  nothing_added : path.toList <:+: '/' :: suffix
  nothing_lost : (suffix.takeWhile (· != '#')).Sublist path.toList

/-- What follows an authority so that the path of it goes on there. -/
def BeginsPath (suffix : List Char) : Prop :=
  suffix = [] ∨ (∃ cs, suffix = '/' :: cs) ∨ (∃ cs, suffix = '?' :: cs) ∨
    ∃ cs, suffix = '#' :: cs ∧ NoMark cs

private theorem IsPathOf.continues {suffix : List Char} {found : String} (h : IsPathOf suffix found)
    (hbegins : BeginsPath suffix) : Continues suffix found := by
  rcases hbegins with rfl | ⟨cs, rfl⟩ | ⟨cs, rfl⟩ | ⟨cs, rfl, hcs⟩
  · rw [h.root noMark_nil]
    constructor <;> simp
  · rw [h.slash [] cs noMark_nil rfl]
    constructor <;> simp [List.takeWhile_sublist, List.infix_cons]
  · rw [h.query [] cs noMark_nil rfl]
    constructor <;> simp [List.takeWhile_sublist]
  · have hmarks : NoMark ('#' :: cs) := by
      simpa [NoMark] using hcs
    rw [h.root hmarks]
    refine ⟨?_, ?_, fun _ => rfl, ⟨[], '#' :: cs, rfl⟩, ?_⟩ <;> simp

/-! ## Both readings -/

private theorem IsReading.noMark_part {given : String} {found : Authority}
    {slashes part suffix : List Char} (h : IsReading given found slashes part suffix) :
    NoMark part := by
  constructor <;> intro hmem <;> exact absurd (h.free_of_mem _ hmem) (by decide)

private theorem IsReading.query_not_mem {given : String} {found : Authority}
    {slashes part suffix : List Char} (h : IsReading given found slashes part suffix) :
    '?' ∉ slashes :=
  fun hmem => absurd (h.slash_of_mem _ hmem) (by decide)

/-- The path is found behind the authority where no slash stands before it. -/
theorem IsReading.isPathOf_suffix_iff {given : String} {found : Authority}
    {slashes part suffix : List Char} (h : IsReading given found slashes part suffix) :
    IsPathOf suffix (path (slashes ++ (part ++ suffix))) ↔ '/' ∉ slashes := by
  constructor
  · intro hpath hslash
    -- The path would begin before the authority, and be longer than what follows that.
    obtain ⟨before, after, hbefore, hsplit⟩ :=
      (mark_or_not_mem '/' slashes).resolve_right (fun hfree => hfree hslash)
    have hquery : '?' ∉ before := fun hmem => h.query_not_mem (by simp [hsplit, hmem])
    have hwhole := (isPathOf_path (slashes ++ (part ++ suffix))).slash before
      (after ++ (part ++ suffix)) ⟨hbefore, hquery⟩ (by simp [hsplit])
    have hle := length_path_le suffix
    have hpart := List.length_pos_iff.2 h.part_ne_nil
    rw [← hpath.eq_path, hwhole] at hle
    simp at hle
    omega
  · intro hslash
    rw [path_append ⟨hslash, h.query_not_mem⟩, path_append h.noMark_part]
    exact isPathOf_path suffix

end Absolute

namespace Target

open Absolute

/--
A target that is neither a path nor for a tunnel has one authority, which host
and port come from, and a path, which is that of all that follows the scheme.
It is the path of what follows the authority just when no slash stands before
that, and then it goes on where the authority ends, if anything of a path begins
there.
-/
theorem readings_of_resolve {method : Method} {given : String} {header : Header}
    {target : Target} (hmethod : method ≠ .connect) (hstart : startsWith given "/" = false)
    (h : resolve method given header = .ok target) :
    ∃ slashes part suffix, IsReading given target.authority slashes part suffix ∧
      IsPathOf (slashes ++ (part ++ suffix)) target.path ∧
      (IsPathOf suffix target.path ↔ '/' ∉ slashes) ∧
      ('/' ∉ slashes -> BeginsPath suffix -> Continues suffix target.path) := by
  have habsolute : ofAbsolute given = .ok target := by
    simpa only [resolve, if_neg hmethod, hstart, Bool.false_eq_true, if_false] using h
  obtain ⟨slashes, part, suffix, hreading, hpath⟩ := exists_reading habsolute
  have hiff := hreading.isPathOf_suffix_iff
  rw [hpath]
  exact ⟨slashes, part, suffix, hreading, isPathOf_path _, hiff,
    fun hslash hbegins => (hiff.2 hslash).continues hbegins⟩

/-- A question mark ends the authority, and the path goes on with it. -/
theorem readings_of_query :
    resolve .get "hTTp://me@[0::1]:080?q/a" .empty = .ok ⟨⟨"::1", 80⟩, "/?q/a"⟩ ∧
      ∃ slashes part suffix,
        IsReading "hTTp://me@[0::1]:080?q/a" ⟨"::1", 80⟩ slashes part suffix ∧
        IsPathOf (slashes ++ (part ++ suffix)) "/?q/a" ∧
        (IsPathOf suffix "/?q/a" ↔ '/' ∉ slashes) ∧
        ('/' ∉ slashes -> BeginsPath suffix -> Continues suffix "/?q/a") := by
  have hresolve : resolve .get "hTTp://me@[0::1]:080?q/a" .empty =
      .ok ⟨⟨"::1", 80⟩, "/?q/a"⟩ := by
    decide +kernel
  exact ⟨hresolve, readings_of_resolve (by decide) (by decide) hresolve⟩

/--
A slash before the authority puts the authority into the path; behind a hash
sign a path is found where there is none; and what stands between a backslash
that ends the authority and the next slash is lost.
-/
theorem readings_disagree :
    (resolve .get "http:///[::1]/b" .empty = .ok ⟨⟨"::1", 80⟩, "/[::1]/b"⟩ ∧
      IsReading "http:///[::1]/b" ⟨"::1", 80⟩ ['/'] "[::1]".toList "/b".toList ∧
      ¬ Continues "/b".toList "/[::1]/b") ∧
    (resolve .get "http://[::1]#x/b" .empty = .ok ⟨⟨"::1", 80⟩, "/b"⟩ ∧
      IsReading "http://[::1]#x/b" ⟨"::1", 80⟩ [] "[::1]".toList "#x/b".toList ∧
      ¬ Continues "#x/b".toList "/b") ∧
    (resolve .get "http://[::1]\\b/c" .empty = .ok ⟨⟨"::1", 80⟩, "/c"⟩ ∧
      IsReading "http://[::1]\\b/c" ⟨"::1", 80⟩ [] "[::1]".toList "\\b/c".toList ∧
      ¬ Continues "\\b/c".toList "/c") := by
  have hhost : (Host.ofText (String.ofList
      (cutPort false (withoutUser "[::1]".toList)).1)).map Host.text = .ok "::1" := by
    decide +kernel
  have hport : port (cutPort false (withoutUser "[::1]".toList)).2 = .ok 80 := by
    decide +kernel
  have hpart : ∀ c ∈ "[::1]".toList, endsAuthority c = false := by
    have hall : "[::1]".toList.all (! endsAuthority ·) = true := by
      decide +kernel
    intro c hc
    simpa using List.all_eq_true.1 hall c hc
  have hne : "[::1]".toList ≠ [] := by
    decide
  refine ⟨⟨by decide +kernel, ?_, ?_⟩, ⟨by decide +kernel, ?_, ?_⟩,
    ⟨by decide +kernel, ?_, ?_⟩⟩
  · exact ⟨⟨"http".toList, by decide, by decide⟩, by simp [isSlash], hpart, hne,
      .inr ⟨'/', ['b'], by decide, by decide⟩, hhost, hport⟩
  · exact fun h => absurd (h.slash ['b'] (by decide)) (by decide)
  · exact ⟨⟨"http".toList, by decide, by decide⟩, List.forall_mem_nil _, hpart, hne,
      .inr ⟨'#', ['x', '/', 'b'], by decide, by decide⟩, hhost, hport⟩
  · exact fun h => absurd (h.root (.inr ⟨['x', '/', 'b'], by decide⟩)) (by decide)
  · exact ⟨⟨"http".toList, by decide, by decide⟩, List.forall_mem_nil _, hpart, hne,
      .inr ⟨'\\', ['b', '/', 'c'], by decide, by decide⟩, hhost, hport⟩
  · exact fun h => absurd h.nothing_lost (by decide)

end Target

end Intermediary
