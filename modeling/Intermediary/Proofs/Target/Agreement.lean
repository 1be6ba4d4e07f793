import Intermediary.Proofs.Host.Spelled
import Intermediary.Proofs.Target.Reading
import Intermediary.Blocklist
import Intermediary.Request

/-!
# The forms of one target

An authority before a path in an absolute target and the same authority in the
`Host` field beside that path are cut in different ways: one at the first colon
outside brackets, the other at the last colon.  Where both are read they name
the same host and port, since a host is spelled without any character that could
be cut at.
-/

namespace Intermediary

open Text Host

namespace Authority

/-! ## What an authority is spelled with -/

/-- The characters that end an authority, or the user information before it. -/
def endMarks : List Char := ['/', '\\', '?', '#', '@']

private theorem not_mem_endMarks_of_isHostChar {c : Char} (h : IsHostChar c) : c ∉ endMarks := by
  have hsub : endMarks ⊆ ['/', '@', '?', '#', '\\', '[', ']'] := by decide
  exact fun hmem => h.2 (hsub hmem)

private theorem not_mem_endMarks_of_isSpelling {spelled : List Char} (h : IsSpelling spelled)
    {c : Char} (hc : c ∈ spelled) : c ∉ endMarks := by
  cases h with
  | name hfree =>
      have hsub : endMarks ⊆ delimiters := by decide
      exact fun hmem => hfree c (hsub hmem) hc
  | @bracketed inner hchars =>
      simp only [List.mem_cons, List.mem_append, List.not_mem_nil, or_false] at hc
      rcases hc with rfl | hc | rfl
      · decide
      · exact not_mem_endMarks_of_isHostChar (hchars c hc)
      · decide

private theorem not_mem_endMarks_of_numeral? {base bound n : Nat} {text : String}
    (h : numeral? base bound text = some n) {c : Char} (hc : c ∈ text.toList) :
    c ∉ endMarks := by
  obtain ⟨sign, digits, hsplit, hsign, hdigits, _⟩ := numeral?_eq_some_iff.1 h
  rw [hsplit] at hc
  rcases List.mem_append.1 hc with hc | hc
  · rcases hsign with rfl | rfl
    · cases hc
    · rw [List.mem_singleton.1 hc]
      decide
  · exact not_mem_endMarks_of_isHostChar (isHostChar_of_digit? (digit?_of_spells hdigits hc))

/-! ## Host and port of an authority -/

private theorem splitAfter_eq_some (ended : String) (after : List Char) {host : String}
    {digits : Option String} (h : splitAfter ended after = some (host, digits)) :
    host = ended ∧ after = Absolute.portPart (digits.map String.toList) := by
  unfold splitAfter at h
  split at h
  · cases h
    exact ⟨rfl, rfl⟩
  · cases h
    exact ⟨rfl, by simp [Absolute.portPart]⟩
  · cases h

/-- What an authority is cut into stands in it side by side. -/
private theorem split_eq_some {given host : String} {digits : Option String}
    (h : split given = some (host, digits)) :
    given.toList = host.toList ++ Absolute.portPart (digits.map String.toList) := by
  unfold split at h
  split at h
  · split at h
    · cases h
    · next inner after hcut =>
      obtain ⟨hsplit, _⟩ := cutAt_eq_some_iff.1 hcut
      obtain ⟨rfl, hafter⟩ := splitAfter_eq_some (inner ++ "]") after.toList h
      rw [← hafter, hsplit]
      simp
  · split at h
    · next before after hcut =>
      cases h
      exact cutAtLast_eq_some hcut
    · cases h
      simp [Absolute.portPart]

/-- An authority that is read holds nothing that could end it. -/
theorem not_mem_endMarks_of_ofText? {default : Nat} {given : String} {found : Authority}
    (h : ofText? default given = some found) {c : Char} (hc : c ∈ given.toList) :
    c ∉ endMarks := by
  obtain ⟨host, digits, parsed, hsplit, _, hparsed, _, hport⟩ := exists_of_ofText? h
  rw [split_eq_some hsplit] at hc
  rcases List.mem_append.1 hc with hc | hc
  · exact not_mem_endMarks_of_isSpelling (isSpelling_of_ofText hparsed) hc
  · cases digits with
    | none => cases hc
    | some text =>
        rcases List.mem_cons.1 hc with rfl | hc
        · decide
        · exact not_mem_endMarks_of_numeral? hport hc

end Authority

namespace Absolute

open Authority

/-- The colon that follows the spelling of a host is the one before the port. -/
private theorem cutPort_of_isSpelling {host : List Char} (h : IsSpelling host)
    (port : Option (List Char)) : cutPort false (host ++ portPart port) = (host, port) := by
  cases h with
  | name hfree =>
      exact cutPort_plain (hfree ':' (by decide)) (hfree '[' (by decide))
        (hfree ']' (by decide)) port
  | bracketed hchars =>
      exact cutPort_bracketed (hchars.not_mem (by decide)) (hchars.not_mem (by decide)) port

/-- A port that both forms read is one number, since only one of them takes a plus sign. -/
private theorem port_eq_of_port? {digits : Option String} {given found : Nat}
    (hgiven : port? defaultPort digits = some given)
    (hfound : port (digits.map String.toList) = .ok found) : found = given := by
  cases digits with
  | none =>
      cases hgiven
      cases hfound
      rfl
  | some text =>
      obtain ⟨hspells, _⟩ := numeral?_eq_some_iff_unsigned.1 hgiven
      rw [Option.map_some] at hfound
      cases hcs : text.toList with
      | nil =>
          -- An empty port is the default one in a target and none at all in a field.
          rw [hcs] at hspells
          exact absurd rfl hspells.1
      | cons c cs =>
          rw [hcs] at hspells hfound
          simp only [port] at hfound
          split at hfound
          · next n hn =>
            split at hfound
            · cases hfound
              have hdigits := (digits?_zero_eq_some_iff (List.cons_ne_nil c cs)).1 hn
              rw [unsigned_of_spells hdigits] at hspells
              exact hdigits.unique hspells
            · cases hfound
          · cases hfound

/-- An authority that both forms read names one host and one port. -/
theorem authority_eq_of_ofText? {given : String} {found other : Authority}
    {path : List Char} (h : ofText? defaultPort given = some found)
    (hother : authority (given.toList ++ '/' :: path) = .ok other) : other = found := by
  obtain ⟨host, digits, parsed, hsplit, hne, hparsed, hhost, hport⟩ := exists_of_ofText? h
  have hgiven := split_eq_some hsplit
  have hends : ∀ c ∈ given.toList, endsAuthority c = false := by
    intro c hc
    have hmark := not_mem_endMarks_of_ofText? h hc
    simp only [endMarks, List.mem_cons, List.not_mem_nil, or_false, not_or] at hmark
    simp [endsAuthority, isSlash, hmark]
  have hpart : authorityPart (given.toList ++ '/' :: path) = given.toList := by
    refine authorityPart_of_slash (fun hnil => hne ?_) hends path
    rw [hnil] at hgiven
    simpa using (List.append_eq_nil_iff.1 hgiven.symm).1
  have huser : withoutUser given.toList = given.toList :=
    withoutUser_of_not_mem fun hmem => not_mem_endMarks_of_ofText? h hmem (by decide)
  -- Either form is cut at the colon that follows the spelling of the host.
  obtain ⟨otherHost, otherDigits, otherParsed, hcut, _, hotherParsed, hotherHost, hotherPort⟩ :=
    exists_of_authority hother
  rw [hpart, huser, hgiven, cutPort_of_isSpelling (isSpelling_of_ofText hparsed)] at hcut
  cases hcut
  rw [String.ofList_toList, hparsed] at hotherParsed
  cases hotherParsed
  obtain ⟨_, _⟩ := other
  obtain ⟨_, _⟩ := found
  rw [Authority.mk.injEq]
  exact ⟨hotherHost.trans hhost.symm, port_eq_of_port? hport hotherPort⟩

theorem cutScheme_append {scheme : List Char} (h : ':' ∉ scheme) (rest : List Char) :
    cutScheme (scheme ++ ':' :: '/' :: '/' :: rest) = some (scheme, rest) := by
  induction scheme with
  | nil => rfl
  | cons c scheme ih =>
      simp only [List.mem_cons, not_or] at h
      simp [cutScheme, ih h.2, Ne.symm h.1]

/-- A scheme that is `http` up to case holds none but the letters of that. -/
theorem not_mem_of_scheme {scheme : String} (h : sameIgnoringCase scheme "http" = true)
    {c : Char} (hc : c.toLower ∉ "http".toList) : c ∉ scheme.toList := by
  intro hmem
  have hlower : scheme.toList.map Char.toLower = "http".toList := by
    have heq : lower scheme = lower "http" := by
      simpa [sameIgnoringCase] using h
    have hlist := congrArg String.toList heq
    rw [lower, String.toList_ofList] at hlist
    rw [hlist]
    decide
  rw [← hlower] at hc
  exact hc (List.mem_map_of_mem hmem)

end Absolute

namespace Target

open Absolute

section

variable {method : Method} {scheme : String}
  (hscheme : sameIgnoringCase scheme "http" = true)

include hscheme

/-- A target with a scheme is read alone, whatever header stands beside it. -/
theorem resolve_of_scheme (hmethod : method ≠ .connect) (rest : String) (header : Header) :
    resolve method (scheme ++ "://" ++ rest) header = ofAbsolute (scheme ++ "://" ++ rest) := by
  have hslash : '/' ∉ scheme.toList := not_mem_of_scheme hscheme (by decide)
  have hstart : startsWith (scheme ++ "://" ++ rest) "/" = false := by
    unfold startsWith
    rw [String.toList_append, String.toList_append]
    cases hcs : scheme.toList with
    | nil => rfl
    | cons c cs =>
        rw [hcs] at hslash
        have hne : '/' ≠ c := fun heq => hslash (heq ▸ List.mem_cons_self)
        simp [List.isPrefixOf, hne]
  simp only [resolve, if_neg hmethod, hstart, Bool.false_eq_true, if_false]

private theorem ofAbsolute_of_scheme {rest : String} {target : Target}
    (h : ofAbsolute (scheme ++ "://" ++ rest) = .ok target) :
    Absolute.authority rest.toList = .ok target.authority ∧
      target.path = Absolute.path rest.toList := by
  have hcolon : ':' ∉ scheme.toList := not_mem_of_scheme hscheme (by decide)
  have hlist : (scheme ++ "://" ++ rest).toList =
      scheme.toList ++ ':' :: '/' :: '/' :: rest.toList := by
    simp
  obtain ⟨_, _, hcut, _, hauthority, hpath⟩ := exists_of_ofAbsolute h
  rw [hlist, cutScheme_append hcolon] at hcut
  cases hcut
  exact ⟨hauthority, hpath⟩

end

/--
An authority and a path name one target in both forms: as an absolute target,
however its scheme is written and whatever header stands beside it, and as a path
with the authority in the field for the host.  So they have one fingerprint, and
a blocklist has one answer for them.
-/
theorem forms_agree {method : Method} {scheme given path : String} {header beside : Header}
    {absolute relative : Target} (hmethod : method ≠ .connect)
    (hscheme : sameIgnoringCase scheme "http" = true) (hpath : startsWith path "/" = true)
    (hfield : header.get? hostField = some given)
    (habsolute : resolve method (scheme ++ "://" ++ (given ++ path)) beside = .ok absolute)
    (hrelative : resolve method path header = .ok relative) :
    absolute = relative ∧
      (∀ other, resolve method (scheme ++ "://" ++ (given ++ path)) other = .ok absolute) ∧
      (∀ list : Blocklist, list.contains absolute.authority.host =
        list.contains relative.authority.host) ∧
      (⟨method, absolute.authority.host, absolute.authority.port, absolute.path⟩ :
          Fingerprint) =
        ⟨method, relative.authority.host, relative.authority.port, relative.path⟩ := by
  have hsame : absolute = relative := by
    obtain ⟨cs, hcs⟩ := List.isPrefixOf_iff_prefix.1 hpath
    have hpathList : path.toList = '/' :: cs := hcs.symm
    rw [resolve_of_scheme hscheme hmethod] at habsolute
    obtain ⟨hauthority, hread⟩ := ofAbsolute_of_scheme hscheme habsolute
    rw [String.toList_append, hpathList] at hauthority hread
    simp only [resolve, if_neg hmethod, hpath, if_true] at hrelative
    obtain ⟨host, hhost, hfound, hgivenPath⟩ := exists_of_ofPath hrelative
    rw [hfield] at hhost
    cases hhost
    have hfree := fun c hc => Authority.not_mem_endMarks_of_ofText? (c := c) hfound hc
    have hslash : '/' ∉ given.toList ∧ '?' ∉ given.toList :=
      ⟨fun hmem => hfree '/' hmem (by decide), fun hmem => hfree '?' hmem (by decide)⟩
    rw [path_of_slash hslash, ← hpathList, String.ofList_toList] at hread
    obtain ⟨_, _⟩ := absolute
    obtain ⟨_, _⟩ := relative
    rw [Target.mk.injEq]
    exact ⟨authority_eq_of_ofText? hfound hauthority, hread.trans hgivenPath.symm⟩
  refine ⟨hsame, fun other => ?_, ?_, ?_⟩
  · rw [resolve_of_scheme hscheme hmethod] at habsolute ⊢
    exact habsolute
  · rw [hsame]
    exact fun _ => rfl
  · rw [hsame]

/-- Neither the case of a scheme nor zeros in host and port set the two forms apart. -/
theorem forms_agree_spelled :
    resolve .get ("HtTp" ++ "://" ++ ("[0::FFFF:1.2.3.4]:0080" ++ "/a?b")) .empty =
        .ok ⟨⟨"::ffff:1.2.3.4", 80⟩, "/a?b"⟩ ∧
      resolve .get "/a?b" ⟨[⟨"hOST", "[0::FFFF:1.2.3.4]:0080"⟩]⟩ =
        .ok ⟨⟨"::ffff:1.2.3.4", 80⟩, "/a?b"⟩ ∧
      ∀ other,
        resolve .get ("HtTp" ++ "://" ++ ("[0::FFFF:1.2.3.4]:0080" ++ "/a?b")) other =
          .ok ⟨⟨"::ffff:1.2.3.4", 80⟩, "/a?b"⟩ := by
  have habsolute : resolve .get ("HtTp" ++ "://" ++ ("[0::FFFF:1.2.3.4]:0080" ++ "/a?b"))
      .empty = .ok ⟨⟨"::ffff:1.2.3.4", 80⟩, "/a?b"⟩ := by
    decide +kernel
  have hrelative : resolve .get "/a?b" ⟨[⟨"hOST", "[0::FFFF:1.2.3.4]:0080"⟩]⟩ =
      .ok ⟨⟨"::ffff:1.2.3.4", 80⟩, "/a?b"⟩ := by
    decide +kernel
  have hagree := forms_agree (by decide) (by decide) (by decide) (by decide)
    habsolute hrelative
  exact ⟨habsolute, hrelative, hagree.2.1⟩

end Target

end Intermediary
