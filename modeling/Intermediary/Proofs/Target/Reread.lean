import Intermediary.Proofs.Host.Written
import Intermediary.Target

/-!
# Reading a target again

A host, a port and a path can be written in each form that a target has, and
are read from it as they were.  That a host is found where it was written is a
fact about the characters around it; that its text stands for it again is left
to the one who parses hosts.
-/

namespace Intermediary

open Text Host

namespace Authority

/-- A host as it stands in an authority: in brackets, unless it has no colon. -/
inductive IsWritten : List Char -> Prop where
  | plain {cs} (hchars : AllHostChars cs) (hcolon : ':' ∉ cs) : IsWritten cs
  | bracketed {cs} (hchars : AllHostChars cs) : IsWritten ('[' :: (cs ++ [']']))

/-- What a written host can hold besides the characters of its text. -/
theorem IsWritten.chars {written : List Char} (h : IsWritten written) :
    ∀ c ∈ written, isBlank c = false ∧ c ∉ ['/', '@', '?', '#', '\\'] := by
  have hhost : ∀ c, IsHostChar c ->
      isBlank c = false ∧ c ∉ ['/', '@', '?', '#', '\\'] := by
    rintro c ⟨hblank, hmark⟩
    refine ⟨hblank, fun hmem => hmark ?_⟩
    simp only [List.mem_cons, List.not_mem_nil, or_false] at hmem ⊢
    tauto
  cases h with
  | plain hchars _ => exact fun c hc => hhost c (hchars c hc)
  | bracketed hchars =>
      refine List.forall_mem_cons.2 ⟨by decide, List.forall_mem_append.2 ⟨?_, ?_⟩⟩
      · exact fun c hc => hhost c (hchars c hc)
      · exact List.forall_mem_singleton.2 (by decide)

theorem IsWritten.clean {written : List Char} (h : IsWritten written) : Clean written :=
  fun c hc => (h.chars c hc).1

/-! ## The authority alone -/

private theorem not_startsWith_bracket {given : String} (h : '[' ∉ given.toList) :
    startsWith given "[" = false := by
  unfold startsWith
  cases hcs : given.toList with
  | nil => rfl
  | cons c cs =>
      rw [hcs] at h
      have hne : '[' ≠ c := fun heq => h (heq ▸ List.mem_cons_self)
      simp [List.isPrefixOf, hne]

private theorem split_plain {given : String} (h : '[' ∉ given.toList) :
    split given =
      match cutAtLast ':' given with
      | some (host, port) => some (host, some port)
      | none => some (given, none) := by
  unfold split
  rw [not_startsWith_bracket h]
  rfl

/-- What stands in an authority behind the bracket that ends its host. -/
def splitAfter (host : String) : List Char -> Option (String × Option String)
  | [] => some (host, none)
  | ':' :: port => some (host, some (String.ofList port))
  | _ => none

private theorem split_bracketed {given : String} {inner after : List Char}
    (hgiven : given.toList = '[' :: (inner ++ ']' :: after)) (h : ']' ∉ inner) :
    split given = splitAfter (String.ofList ('[' :: (inner ++ [']']))) after := by
  have hstart : startsWith given "[" = true := by
    simp [startsWith, hgiven]
  have hmem : ']' ∉ '[' :: inner := by
    simpa using h
  have hcut : cutAt ']' given =
      some (String.ofList ('[' :: inner), String.ofList after) :=
    cutAt_of_split hgiven hmem
  have hhost : String.ofList ('[' :: inner) ++ "]" =
      String.ofList ('[' :: (inner ++ [']'])) := by
    apply String.toList_injective
    simp
  unfold split
  rw [if_pos hstart, hcut]
  simp only [hhost, String.toList_ofList]
  unfold splitAfter
  rfl

/-- A written host stands for itself alone. -/
private theorem split_written {written : String} (h : IsWritten written.toList) :
    split written = some (written, none) := by
  generalize hcs : written.toList = cs at h
  obtain rfl : written = String.ofList cs := by
    rw [← hcs, String.ofList_toList]
  cases h with
  | plain hchars hcolon =>
      have hbracket : '[' ∉ cs := hchars.not_mem (by decide)
      rw [split_plain (by simpa using hbracket),
        cutAtLast_of_not_mem (by simpa using hcolon)]
  | @bracketed inner hchars =>
      have hbracket : ']' ∉ inner := hchars.not_mem (by decide)
      rw [split_bracketed hcs hbracket]
      rfl

/-- The colon after a written host is found, whatever colons the host has. -/
private theorem split_written_port {written digits : String} (h : IsWritten written.toList)
    (hdigits : ':' ∉ digits.toList ∧ '[' ∉ digits.toList) :
    split (written ++ ":" ++ digits) = some (written, some digits) := by
  have hgiven : (written ++ ":" ++ digits).toList =
      written.toList ++ ':' :: digits.toList := by
    simp
  generalize hcs : written.toList = cs at h hgiven
  obtain rfl : written = String.ofList cs := by
    rw [← hcs, String.ofList_toList]
  cases h with
  | plain hchars hcolon =>
      have hbracket : '[' ∉ cs := hchars.not_mem (by decide)
      have hfree : '[' ∉ (String.ofList cs ++ ":" ++ digits).toList := by
        rw [hgiven]
        simp [hbracket, hdigits.2]
      rw [split_plain hfree, cutAtLast_of_split hgiven hdigits.1,
        String.ofList_toList]
  | @bracketed inner hchars =>
      have hbracket : ']' ∉ inner := hchars.not_mem (by decide)
      rw [List.cons_append, List.append_assoc, List.singleton_append] at hgiven
      rw [split_bracketed hgiven hbracket]
      simp only [splitAfter, String.ofList_toList]

private theorem not_mem_decimal {c : Char} {n : Nat} (h : (digit? 10 c).isSome = false) :
    c ∉ (decimal n).toList := by
  intro hc
  rw [decimal, String.toList_ofList] at hc
  rw [digit?_of_mem_toDigits (.inl rfl) hc] at h
  cases h

/-- What the text of an authority can hold. -/
theorem chars_authority {written : String} (h : IsWritten written.toList)
    (port : Nat) : ∀ c ∈ (written ++ ":" ++ decimal port).toList,
      isBlank c = false ∧ c ∉ ['/', '@', '?', '#', '\\'] := by
  have hdigits : IsWritten (decimal port).toList :=
    .plain (allHostChars_decimal port) (not_mem_decimal (by decide))
  have hcolon : isBlank ':' = false ∧ ':' ∉ ['/', '@', '?', '#', '\\'] := by decide
  simp only [String.toList_append, List.forall_mem_append]
  exact ⟨⟨h.chars, List.forall_mem_singleton.2 hcolon⟩, hdigits.chars⟩

/-! ### Reading -/

section

variable {default port : Nat} {written host : String}
  (hwritten : IsWritten written.toList)
  (hhost : (Host.ofText written).map Host.text = .ok host)

include hhost in
private theorem exists_host : ∃ parsed, Host.ofText written = .ok parsed ∧ parsed.text = host := by
  cases hparsed : Host.ofText written with
  | error e =>
      rw [hparsed] at hhost
      cases hhost
  | ok parsed =>
      rw [hparsed] at hhost
      cases hhost
      exact ⟨parsed, rfl, rfl⟩

include hhost in
private theorem ne_empty_of_host : written ≠ "" := by
  rintro rfl
  rw [ofText_empty] at hhost
  cases hhost

include hwritten hhost

private theorem ofText?_of_split {given : String} {digits : Option String}
    (hsplit : split given = some (written, digits))
    (hport : port? default digits = some port) :
    ofText? default given = some ⟨host, port⟩ := by
  have hchars : ¬ (written = "" ∨
      written.toList.any (fun c => c = '/' ∨ c = '@' ∨ c = ' ') = true) := by
    rintro (hnil | hany)
    · exact ne_empty_of_host hhost hnil
    · obtain ⟨c, hc, hmark⟩ := List.any_eq_true.1 hany
      obtain ⟨hblank, hother⟩ := hwritten.chars c hc
      simp only [decide_eq_true_eq] at hmark
      rcases hmark with rfl | rfl | rfl
      · exact hother (by decide)
      · exact hother (by decide)
      · exact absurd hblank (by decide)
  obtain ⟨parsed, hparsed, htext⟩ := exists_host hhost
  unfold ofText?
  simp only [hsplit, hport, Option.bind_eq_bind, Option.bind_some, if_neg hchars, hparsed,
    htext]

/-- A host alone is read with the default port. -/
theorem ofText?_written : ofText? default written = some ⟨host, default⟩ :=
  ofText?_of_split hwritten hhost (split_written hwritten) rfl

/-- A host and a port are read with that port, whichever is the default. -/
theorem ofText?_written_port (hport : port < portBound) :
    ofText? default (written ++ ":" ++ decimal port) = some ⟨host, port⟩ :=
  ofText?_of_split hwritten hhost
    (split_written_port hwritten
      ⟨not_mem_decimal (by decide), not_mem_decimal (by decide)⟩)
    (numeral?_decimal hport)

end

end Authority

/-! ## Absolute targets -/

namespace Absolute

open Authority

theorem dropEnd_cons {p : Char -> Bool} {mark : Char} (h : p mark = false)
    (before after : List Char) :
    dropEnd p (before ++ mark :: after) = before ++ mark :: dropEnd p after := by
  unfold dropEnd
  rw [List.reverse_append, List.reverse_cons, List.append_assoc, List.dropWhile_append]
  split
  · next hnil =>
    rw [List.isEmpty_iff] at hnil
    simp [h, hnil]
  · simp

/-- What stands before the first slash is the authority. -/
theorem authorityPart_of_slash {part : List Char} (hne : part ≠ [])
    (hpart : ∀ c ∈ part, endsAuthority c = false) (path : List Char) :
    authorityPart (part ++ '/' :: path) = part := by
  have hslash : isControl '/' = false := by decide
  obtain ⟨first, others, rfl⟩ := List.exists_cons_of_ne_nil hne
  have hfirst : isSlash first = false := by
    have hends := hpart first List.mem_cons_self
    simp only [endsAuthority, Bool.or_eq_false_iff] at hends
    exact hends.1.1
  have htake : ∀ c ∈ first :: others, (! endsAuthority c) = true := by
    intro c hc
    simp [hpart c hc]
  have hstop : (! endsAuthority '/') = false := by decide
  unfold authorityPart
  rw [dropEnd_cons hslash, List.cons_append, List.dropWhile_cons_of_neg (by simp [hfirst]),
    ← List.cons_append, List.takeWhile_append_of_pos htake,
    List.takeWhile_cons_of_neg (by simp [hstop]), List.append_nil]

theorem withoutUser_of_not_mem {part : List Char} (h : '@' ∉ part) :
    withoutUser part = part := by
  have hrev : '@' ∉ part.reverse := by simpa using h
  unfold withoutUser
  rw [List.takeWhile_eq_self_iff.2 (bne_of_not_mem hrev), List.reverse_reverse]

def portPart : Option (List Char) -> List Char
  | some digits => ':' :: digits
  | none => []

theorem cutPort_plain {host : List Char} (hcolon : ':' ∉ host) (hopen : '[' ∉ host)
    (hclose : ']' ∉ host) (port : Option (List Char)) :
    cutPort false (host ++ portPart port) = (host, port) := by
  induction host with
  | nil => cases port <;> rfl
  | cons c host ih =>
      simp only [List.mem_cons, not_or] at hcolon hopen hclose
      have hrest := ih hcolon.2 hopen.2 hclose.2
      simp [cutPort, Ne.symm hcolon.1, Ne.symm hopen.1, Ne.symm hclose.1, hrest]

/-- Inside brackets no colon is the one before the port. -/
theorem cutPort_bracketed {inner : List Char} (hopen : '[' ∉ inner)
    (hclose : ']' ∉ inner) (port : Option (List Char)) :
    cutPort false ('[' :: (inner ++ [']']) ++ portPart port) =
      ('[' :: (inner ++ [']']), port) := by
  have hinner : cutPort true (inner ++ ']' :: portPart port) = (inner ++ [']'], port) := by
    induction inner with
    | nil => cases port <;> rfl
    | cons c inner ih =>
        simp only [List.mem_cons, not_or] at hopen hclose
        have hrest := ih hopen.2 hclose.2
        simp [cutPort, Ne.symm hopen.1, Ne.symm hclose.1, hrest]
  simp [cutPort, hinner]

/-- The colon after a written host is the one before the port. -/
private theorem cutPort_written {written : List Char} (h : IsWritten written)
    (port : Option (List Char)) :
    cutPort false (written ++ portPart port) = (written, port) := by
  cases h with
  | plain hchars hcolon =>
      exact cutPort_plain hcolon (hchars.not_mem (by decide))
        (hchars.not_mem (by decide)) port
  | @bracketed inner hchars =>
      exact cutPort_bracketed (hchars.not_mem (by decide)) (hchars.not_mem (by decide)) port

private theorem port_decimal {n : Nat} (h : n < portBound) :
    port (some (decimal n).toList) = .ok n := by
  have hvalue := digits?_toDigits (.inl rfl : 10 = 10 ∨ 10 = 16) n
  have hne : Nat.toDigits 10 n ≠ [] := Nat.toDigits_ne_nil
  rw [decimal, String.toList_ofList]
  generalize Nat.toDigits 10 n = digits at hvalue hne
  cases digits with
  | nil => exact absurd rfl hne
  | cons c cs => simp only [port, hvalue, if_pos h]

/-- Host and port are read from before the path whichever port it is. -/
theorem authority_written {port : Nat} {written host : String}
    (hwritten : IsWritten written.toList)
    (hhost : (Host.ofText written).map Host.text = .ok host)
    (hport : port < portBound) (path : List Char) :
    authority ((written ++ ":" ++ decimal port).toList ++ '/' :: path) =
      .ok ⟨host, port⟩ := by
  have hlist : (written ++ ":" ++ decimal port).toList =
      written.toList ++ portPart (some (decimal port).toList) := by
    simp [portPart]
  have hchars := chars_authority hwritten port
  rw [hlist] at hchars ⊢
  have hends : ∀ c ∈ written.toList ++ portPart (some (decimal port).toList),
      endsAuthority c = false := by
    intro c hc
    have hmark := (hchars c hc).2
    simp only [List.mem_cons, List.not_mem_nil, or_false, not_or] at hmark
    simp [endsAuthority, isSlash, hmark]
  have huser : '@' ∉ written.toList ++ portPart (some (decimal port).toList) :=
    fun hmem => (hchars _ hmem).2 (by decide)
  have hne : written.toList.isEmpty = false := by
    simpa using ne_empty_of_host hhost
  obtain ⟨parsed, hparsed, rfl⟩ := exists_host hhost
  unfold authority
  rw [authorityPart_of_slash (by simp [portPart]) hends, withoutUser_of_not_mem huser,
    cutPort_written hwritten]
  simp only [hne, Bool.false_eq_true, if_false, String.ofList_toList, hparsed,
    port_decimal hport]
  rfl

theorem path_of_slash {part : List Char} (h : '/' ∉ part ∧ '?' ∉ part)
    (cs : List Char) : path (part ++ '/' :: cs) = String.ofList ('/' :: cs) := by
  have hpart : ∀ c ∈ part, decide (c ≠ '/' ∧ c ≠ '?') = true := by
    intro c hc
    refine decide_eq_true ⟨?_, ?_⟩
    · rintro rfl
      exact h.1 hc
    · rintro rfl
      exact h.2 hc
  unfold path
  rw [List.dropWhile_append_of_pos hpart, List.dropWhile_cons_of_neg (by simp)]
  rfl

end Absolute

/-! ## Targets -/

namespace Target

open Authority

variable {method : Method} {header : Header} {port : Nat} {written host : String}
  (hwritten : IsWritten written.toList)
  (hhost : (Host.ofText written).map Host.text = .ok host)
  (hport : port < portBound)

include hwritten hhost hport

theorem resolve_authority :
    resolve .connect (written ++ ":" ++ decimal port) header =
      .ok ⟨⟨host, port⟩, ""⟩ := by
  have hauthority : Authority.ofText defaultTunnelPort (written ++ ":" ++ decimal port) =
      .ok ⟨host, port⟩ := by
    unfold Authority.ofText
    rw [ofText?_written_port hwritten hhost hport]
  simp only [resolve, if_true, hauthority]

/-- A path is read with the host beside it, which leaves out the default port. -/
theorem resolve_path {path : String} (hmethod : method ≠ .connect)
    (hpath : startsWith path "/" = true)
    (hfield : header.get? hostField =
      some (if port = defaultPort then written else written ++ ":" ++ decimal port)) :
    resolve method path header = .ok ⟨⟨host, port⟩, path⟩ := by
  have hfound : ofText? defaultPort
      (if port = defaultPort then written else written ++ ":" ++ decimal port) =
        some ⟨host, port⟩ := by
    by_cases hdefault : port = defaultPort
    · rw [if_pos hdefault, ofText?_written hwritten hhost, hdefault]
    · rw [if_neg hdefault, ofText?_written_port hwritten hhost hport]
  simp only [resolve, if_neg hmethod, hpath, if_true, ofPath, hfield, Authority.ofText,
    hfound]

theorem resolve_absolute {path : String} {cs : List Char} (hmethod : method ≠ .connect)
    (hpath : path.toList = '/' :: cs) :
    resolve method ("http://" ++ (written ++ ":" ++ decimal port) ++ path) header =
      .ok ⟨⟨host, port⟩, path⟩ := by
  have hchars := chars_authority hwritten port
  have hslash : '/' ∉ (written ++ ":" ++ decimal port).toList :=
    fun hmem => (hchars _ hmem).2 (by decide)
  have hquery : '?' ∉ (written ++ ":" ++ decimal port).toList :=
    fun hmem => (hchars _ hmem).2 (by decide)
  have hscheme : Absolute.cutScheme
      ("http://" ++ (written ++ ":" ++ decimal port) ++ path).toList =
        some ("http".toList, (written ++ ":" ++ decimal port).toList ++ path.toList) := by
    rw [String.toList_append, String.toList_append]
    rfl
  have hstart : startsWith ("http://" ++ (written ++ ":" ++ decimal port) ++ path) "/" =
      false := by
    unfold startsWith
    rw [String.toList_append, String.toList_append]
    rfl
  have hsame : (!sameIgnoringCase (String.ofList "http".toList) "http") = false := by
    decide
  have hread : Absolute.path ((written ++ ":" ++ decimal port).toList ++ '/' :: cs) =
      path := by
    rw [Absolute.path_of_slash ⟨hslash, hquery⟩, ← hpath, String.ofList_toList]
  simp only [resolve, if_neg hmethod, hstart, Bool.false_eq_true, if_false, ofAbsolute,
    hscheme, hsame, hpath, Absolute.authority_written hwritten hhost hport, hread]

end Target

/-! ## How a target is resolved -/

namespace Authority

theorem ofText_eq_ok_iff {default : Nat} {given : String} {found : Authority} :
    ofText default given = .ok found ↔ ofText? default given = some found := by
  unfold ofText
  cases ofText? default given <;> simp

theorem exists_of_ofText? {default : Nat} {given : String} {found : Authority}
    (h : ofText? default given = some found) :
    ∃ host digits parsed, split given = some (host, digits) ∧ host ≠ "" ∧
      Host.ofText host = .ok parsed ∧ found.host = parsed.text ∧
      port? default digits = some found.port := by
  obtain ⟨⟨host, digits⟩, hsplit, h⟩ := Option.bind_eq_some_iff.1 h
  obtain ⟨port, hport, h⟩ := Option.bind_eq_some_iff.1 h
  split at h
  · cases h
  · next hallowed =>
    split at h
    · next parsed hparsed =>
      cases h
      exact ⟨host, digits, parsed, hsplit, fun hnil => hallowed (.inl hnil), hparsed, rfl,
        hport⟩
    · cases h

end Authority

namespace Absolute

theorem exists_of_authority {afterScheme : List Char} {found : Authority}
    (h : authority afterScheme = .ok found) :
    ∃ host digits parsed,
      cutPort false (withoutUser (authorityPart afterScheme)) = (host, digits) ∧ host ≠ [] ∧
      Host.ofText (String.ofList host) = .ok parsed ∧ found.host = parsed.text ∧
      port digits = .ok found.port := by
  unfold authority at h
  generalize cutPort false (withoutUser (authorityPart afterScheme)) = cut at h ⊢
  obtain ⟨host, digits⟩ := cut
  dsimp only at h
  split at h
  · cases h
  · next hne =>
    simp only [bind, Except.bind, pure, Except.pure] at h
    split at h
    · cases h
    · next parsed hparsed =>
      split at h
      · cases h
      · next n hn =>
        cases h
        exact ⟨host, digits, parsed, rfl, by simpa using hne, hparsed, rfl, hn⟩

theorem cutScheme_eq_some {cs scheme rest : List Char}
    (h : cutScheme cs = some (scheme, rest)) :
    cs = scheme ++ ':' :: '/' :: '/' :: rest := by
  fun_induction cutScheme cs generalizing scheme with
  | case1 => cases h
  | case2 rest' =>
      cases h
      rfl
  | case3 c cs _ ih =>
      obtain ⟨⟨scheme', rest'⟩, hcut, heq⟩ := Option.map_eq_some_iff.1 h
      cases heq
      rw [ih hcut]
      rfl

end Absolute

namespace Target

theorem exists_of_ofAbsolute {given : String} {target : Target}
    (h : ofAbsolute given = .ok target) :
    ∃ scheme rest, Absolute.cutScheme given.toList = some (scheme, rest) ∧
      sameIgnoringCase (String.ofList scheme) "http" = true ∧
      Absolute.authority rest = .ok target.authority ∧ target.path = Absolute.path rest := by
  unfold ofAbsolute at h
  split at h
  · cases h
  · next scheme rest hcut =>
    split at h
    · cases h
    · next hscheme =>
      split at h
      · cases h
      · next authority hauthority =>
        cases h
        exact ⟨scheme, rest, hcut, by simpa using hscheme, hauthority, rfl⟩

theorem exists_of_ofPath {given : String} {header : Header} {target : Target}
    (h : ofPath given header = .ok target) :
    ∃ host, header.get? hostField = some host ∧
      Authority.ofText? defaultPort host = some target.authority ∧ target.path = given := by
  unfold ofPath at h
  split at h
  · cases h
  · next host hhost =>
    split at h
    · cases h
    · next authority hauthority =>
      cases h
      exact ⟨host, hhost, Authority.ofText_eq_ok_iff.1 hauthority, rfl⟩

end Target

/-! ## What is known of a target that was resolved -/

structure Authority.IsWritable (authority : Authority) : Prop where
  host : AllHostChars authority.host.toList
  port : authority.port < portBound

structure Target.IsWritable (method : Method) (target : Target) : Prop where
  authority : target.authority.IsWritable
  tunnel : method = .connect -> target.path = ""
  path : method ≠ .connect -> ∃ cs, target.path.toList = '/' :: cs ∧ Clean cs

namespace Authority

private theorem isWritable_of_ofText? {default : Nat} {given : String} {authority : Authority}
    (hdefault : default < portBound) (h : ofText? default given = some authority) :
    authority.IsWritable := by
  obtain ⟨host, digits, parsed, _, _, hparsed, hhost, hport⟩ := exists_of_ofText? h
  refine ⟨hhost ▸ allHostChars_text hparsed, ?_⟩
  cases digits with
  | none =>
      cases hport
      exact hdefault
  | some digits =>
      obtain ⟨_, _, _, _, _, hlt⟩ := numeral?_eq_some_iff.1 hport
      exact hlt

end Authority

namespace Absolute

private theorem port_lt {digits : Option (List Char)} {n : Nat} (h : port digits = .ok n) :
    n < portBound := by
  unfold port at h
  split at h
  · cases h
    decide
  · cases h
    decide
  · split at h
    · split at h
      · next hlt =>
        cases h
        exact hlt
      · cases h
    · cases h

private theorem isWritable_of_authority {afterScheme : List Char} {found : Authority}
    (h : authority afterScheme = .ok found) : found.IsWritable := by
  obtain ⟨host, digits, parsed, _, _, hparsed, hhost, hport⟩ := exists_of_authority h
  exact ⟨hhost ▸ allHostChars_text hparsed, port_lt hport⟩

theorem path_eq {afterSlashes : List Char} (hclean : Clean afterSlashes) :
    ∃ cs, (path afterSlashes).toList = '/' :: cs ∧ Clean cs := by
  have hleft : Clean (afterSlashes.dropWhile (fun c => c ≠ '/' ∧ c ≠ '?')) :=
    fun c hc => hclean c (List.dropWhile_subset _ hc)
  unfold path
  split
  · exact ⟨[], rfl, List.forall_mem_nil _⟩
  · next cs hcs =>
    rw [hcs] at hleft
    exact ⟨cs, String.toList_ofList, fun c hc => hleft c (List.mem_cons_of_mem _ hc)⟩
  · exact ⟨_, String.toList_ofList, hleft⟩

end Absolute

namespace Target

private theorem isWritable_of_ofAbsolute {method : Method} {given : String} {target : Target}
    (hmethod : method ≠ .connect) (hclean : Clean given.toList)
    (h : ofAbsolute given = .ok target) : target.IsWritable method := by
  obtain ⟨scheme, rest, hcut, _, hauthority, hpath⟩ := exists_of_ofAbsolute h
  have hrest : Clean rest := by
    intro c hc
    refine hclean c ?_
    rw [Absolute.cutScheme_eq_some hcut]
    simp [hc]
  refine ⟨Absolute.isWritable_of_authority hauthority,
    fun hconnect => absurd hconnect hmethod, fun _ => ?_⟩
  rw [hpath]
  exact Absolute.path_eq hrest

private theorem isWritable_of_ofPath {method : Method} {given : String} {header : Header}
    {target : Target} (hmethod : method ≠ .connect) (hclean : Clean given.toList)
    (hstart : startsWith given "/" = true) (h : ofPath given header = .ok target) :
    target.IsWritable method := by
  obtain ⟨host, _, hauthority, rfl⟩ := exists_of_ofPath h
  obtain ⟨cs, hcs⟩ := List.isPrefixOf_iff_prefix.1 hstart
  refine ⟨Authority.isWritable_of_ofText? (by decide) hauthority,
    fun hconnect => absurd hconnect hmethod, fun _ => ⟨cs, hcs.symm, ?_⟩⟩
  exact fun c hc => hclean c (hcs ▸ List.mem_append_right _ hc)

/-- Whatever form its target has, a request is for a target that can be written. -/
theorem isWritable_of_resolve {method : Method} {given : String} {header : Header}
    {target : Target} (hclean : Clean given.toList)
    (h : resolve method given header = .ok target) : target.IsWritable method := by
  unfold resolve at h
  split at h
  · next hconnect =>
    split at h
    · cases h
    · next authority hauthority =>
      cases h
      exact ⟨Authority.isWritable_of_ofText? (by decide)
        (Authority.ofText_eq_ok_iff.1 hauthority), fun _ => rfl,
        fun hother => absurd hconnect hother⟩
  · next hmethod =>
    split at h
    · next hstart => exact isWritable_of_ofPath hmethod hclean hstart h
    · exact isWritable_of_ofAbsolute hmethod hclean h

end Target

end Intermediary
