import Intermediary.Proofs.Host.Written
import Intermediary.Proofs.Text.Encoding
import Intermediary.Proofs.Text.Normal

/-!
# The spellings of hosts

A name or an IPv4 address is spelled without the characters that end or divide
an authority: each of them would come through to the ASCII form of the name,
which may not hold it.  An IPv6 address is spelled in brackets, with digits,
colons and dots alone.
-/

namespace Intermediary

open Text

namespace Host

/-! ## Characters that come through -/

/-- A character that no step on the way to an ASCII form takes away. -/
structure ComesThrough (mark : Char) : Prop where
  ascii : mark.toNat < 128
  not_percent : UInt8.ofNat mark.toNat ≠ percentSign
  not_hexadecimal : hexDigit? (UInt8.ofNat mark.toNat) = none
  small : mark.toLower = mark
  inert : Normal.isInert mark = true
  not_dot : mark ≠ '.'
  not_hyphen : mark ≠ '-'
  not_start : mark ∉ Idna.encodedStart
  not_digit : Punycode.digit? mark = none

def delimiters : List Char := ['/', '\\', '?', '#', '@', ':', '[', ']']

private theorem comesThrough_of_delimiter {mark : Char} (h : mark ∈ delimiters) :
    ComesThrough mark := by
  simp only [delimiters, List.mem_cons, List.not_mem_nil, or_false] at h
  rcases h with rfl | rfl | rfl | rfl | rfl | rfl | rfl | rfl <;> constructor <;> decide

private theorem mem_percentDecode {b : UInt8} (hpercent : b ≠ percentSign)
    (hdigit : hexDigit? b = none) {bytes : Bytes} (h : b ∈ bytes) :
    b ∈ percentDecode bytes := by
  fun_induction percentDecode bytes with
  | case1 => exact h
  | case2 => exact h
  | case3 => exact h
  | case4 second third rest high low hlow hhigh ih =>
      simp only [List.mem_cons] at h
      rcases h with rfl | rfl | rfl | h
      · exact absurd rfl hpercent
      · rw [hdigit] at hhigh
        cases hhigh
      · rw [hdigit] at hlow
        cases hlow
      · exact List.mem_cons_of_mem _ (ih h)
  | case5 first second rest _ ih =>
      rcases List.mem_cons.1 h with rfl | h
      · exact List.mem_cons_self
      · exact List.mem_cons_of_mem _ (ih h)
  | case6 first second third rest _ ih =>
      rcases List.mem_cons.1 h with rfl | h
      · exact List.mem_cons_self
      · exact List.mem_cons_of_mem _ (ih h)

/-! ## Names -/

private theorem exists_of_mapM {α β : Type} {f : α -> Option β} {as : List α} {bs : List β}
    (h : as.mapM f = some bs) {a : α} (ha : a ∈ as) : ∃ b ∈ bs, f a = some b := by
  induction as generalizing bs with
  | nil => cases ha
  | cons first rest ih =>
      rw [List.mapM_cons] at h
      obtain ⟨b, hb, h⟩ := Option.bind_eq_some_iff.1 h
      obtain ⟨others, hothers, h⟩ := Option.bind_eq_some_iff.1 h
      cases h
      rcases List.mem_cons.1 ha with rfl | ha
      · exact ⟨b, List.mem_cons_self, hb⟩
      · obtain ⟨other, hother, heq⟩ := ih hothers ha
        exact ⟨other, List.mem_cons_of_mem b hother, heq⟩

theorem mem_of_mem_splitOn {mark separator : Char} (hne : mark ≠ separator)
    {cs : List Char} (h : mark ∈ cs) : ∃ part ∈ cs.splitOn separator, mark ∈ part := by
  have hjoined : List.intercalate [separator] (cs.splitOn separator) = cs :=
    List.intercalate_splitOn separator
  rw [← hjoined] at h
  rcases mem_intercalate h with h | h
  · exact absurd (List.mem_singleton.1 h) hne
  · exact h

namespace Punycode

private theorem digits_of_readDistance {bias place weight total distance : Nat}
    {cs rest : List Char}
    (h : readDistance bias place weight total cs = some (distance, rest)) {c : Char}
    (hc : c ∈ cs) : (digit? c).isSome ∨ c ∈ rest := by
  induction cs generalizing place weight total with
  | nil => cases hc
  | cons first cs ih =>
      unfold readDistance at h
      split at h
      · cases h
      · next d hd =>
        rcases List.mem_cons.1 hc with rfl | hc
        · exact .inl (by rw [hd]; rfl)
        · dsimp only at h
          split at h
          · cases h
            exact .inr hc
          · exact ih h hc

/-- What is read as distances are digits, and what they are inserted into stays. -/
private theorem of_readInsertions {point place bias : Nat} {output cs decoded : List Char}
    (h : readInsertions point place bias output cs = some decoded) :
    (∀ c ∈ cs, (digit? c).isSome) ∧ ∀ c ∈ output, c ∈ decoded := by
  fun_induction readInsertions point place bias output cs with
  | case1 =>
      cases h
      exact ⟨List.forall_mem_nil _, fun c hc => hc⟩
  | case2 => cases h
  | case3 point place bias output first rest distance after hread count step next slot
      hnext ih =>
      obtain ⟨hdigits, hkept⟩ := ih h
      have hslot : slot ≤ output.length := Nat.le_of_lt_succ (Nat.mod_lt _ (Nat.succ_pos _))
      refine ⟨fun c hc => ?_, fun c hc => ?_⟩
      · rcases digits_of_readDistance hread hc with hdigit | hafter
        · exact hdigit
        · exact hdigits c hafter
      · exact hkept c ((List.mem_insertIdx hslot).2 (.inr hc))
  | case4 => cases h

/-- A mark that is neither a digit nor a hyphen is a basic character of the label. -/
theorem mem_decode {mark : Char} (hdigit : digit? mark = none) (hhyphen : mark ≠ '-')
    {cs decoded : List Char} (h : decode cs = some decoded) (hmark : mark ∈ cs) :
    mark ∈ decoded := by
  have hno : ∀ {cs : List Char}, (∀ c ∈ cs, (digit? c).isSome) -> mark ∉ cs := by
    intro cs hdigits hmem
    have hsome := hdigits mark hmem
    rw [hdigit] at hsome
    cases hsome
  unfold decode at h
  rw [List.span_eq_takeWhile_dropWhile] at h
  rcases mark_or_not_mem '-' cs.reverse with ⟨after, before, hfree, hsplit⟩ | hfree
  · rw [hsplit, takeWhile_of_not_mem hfree, dropWhile_of_not_mem hfree] at h
    dsimp only at h
    split at h
    · obtain ⟨hdigits, hkept⟩ := of_readInsertions h
      have hmem : mark ∈ after ++ '-' :: before := by
        rw [← hsplit]
        exact List.mem_reverse.2 hmark
      rcases List.mem_append.1 hmem with hmem | hmem
      · exact absurd (List.mem_reverse.2 hmem) (hno hdigits)
      · rcases List.mem_cons.1 hmem with hmem | hmem
        · exact absurd hmem hhyphen
        · exact hkept mark (List.mem_reverse.2 hmem)
    · cases h
  · have hnil : cs.reverse.dropWhile (· != '-') = [] :=
      List.dropWhile_eq_nil_iff.2 (bne_of_not_mem hfree)
    rw [hnil] at h
    exact absurd hmark (hno (of_readInsertions h).1)

private theorem mem_encode {mark : Char} (hascii : mark.toNat < initialPoint) {cs : List Char}
    (hmark : mark ∈ cs) : mark ∈ encode cs := by
  have hbasic : mark ∈ cs.filter (·.toNat < initialPoint) :=
    List.mem_filter.2 ⟨hmark, decide_eq_true hascii⟩
  have hne : (cs.filter (·.toNat < initialPoint)).isEmpty = false :=
    List.isEmpty_eq_false_iff.2 (List.ne_nil_of_mem hbasic)
  unfold encode
  simp only [hne, Bool.false_eq_true, if_false]
  exact List.mem_append_left _ (List.mem_append_left _ hbasic)

end Punycode

namespace Idna

private theorem mem_of_assemble {labels : List (List Char)} {ascii : String}
    (h : assemble labels = some ascii) {label : List Char} (hlabel : label ∈ labels)
    {c : Char} (hc : c ∈ encodeLabel label) : c ∈ ascii.toList := by
  unfold assemble at h
  split at h
  · dsimp only at h
    split at h
    · cases h
    · cases h
      rw [String.toList_ofList]
      exact mem_intercalate_of_mem (List.mem_map_of_mem hlabel) hc
  · cases h

variable {mark : Char} (hmark : ComesThrough mark)

include hmark

private theorem mem_decodeLabel {label decoded : List Char} (h : decodeLabel label = some decoded)
    (hmem : mark ∈ label) : mark ∈ decoded := by
  unfold decodeLabel at h
  split at h
  · next hstart =>
    split at h
    · next found hfound =>
      split at h
      · cases h
        obtain ⟨rest, rfl⟩ := List.isPrefixOf_iff_prefix.1 hstart
        rw [List.drop_left] at hfound
        refine Punycode.mem_decode hmark.not_digit hmark.not_hyphen hfound ?_
        exact (List.mem_append.1 hmem).resolve_left hmark.not_start
      · cases h
    · cases h
  · cases h
    exact hmem

private theorem mem_encodeLabel {label : List Char} (hmem : mark ∈ label) :
    mark ∈ encodeLabel label := by
  unfold encodeLabel
  split
  · exact hmem
  · exact List.mem_append_right _ (Punycode.mem_encode hmark.ascii hmem)

theorem mapChar_eq : mapChar mark = some [mark] := by
  unfold mapChar
  rw [if_pos hmark.ascii, hmark.small]

/-- A forbidden character that comes through is in no name with an ASCII form. -/
theorem not_mem_of_toAscii {name ascii : String} (hforbidden : isForbidden mark = true)
    (h : toAscii name = some ascii) : mark ∉ name.toList := by
  intro hname
  obtain ⟨mapped, hmapped, h⟩ := Option.bind_eq_some_iff.1 h
  obtain ⟨labels, hlabels, h⟩ := Option.bind_eq_some_iff.1 h
  -- The mark is followed through mapping, composition and the labels to the ASCII form.
  have hflat : mark ∈ mapped.flatten := by
    obtain ⟨part, hpart, heq⟩ := exists_of_mapM hmapped hname
    rw [mapChar_eq hmark] at heq
    cases heq
    exact List.mem_flatten.2 ⟨[mark], hpart, List.mem_singleton_self mark⟩
  obtain ⟨written, hwritten, hmem⟩ := mem_of_mem_splitOn hmark.not_dot
    (Normal.mem_compose hmark.inert hflat)
  obtain ⟨label, hlabel, hdecoded⟩ := exists_of_mapM hlabels hwritten
  have hencoded := mem_encodeLabel hmark (mem_decodeLabel hmark hdecoded hmem)
  have hallowed := (chars_of_assemble h).2 mark (mem_of_assemble h hlabel hencoded)
  rw [hforbidden] at hallowed
  cases hallowed

end Idna

private theorem forbidden_of_delimiter {mark : Char} (h : mark ∈ delimiters) :
    Idna.isForbidden mark = true := by
  have hall : delimiters.all Idna.isForbidden = true := by
    decide
  exact List.all_eq_true.1 hall mark h

private theorem not_mem_of_ofName {spelled : String} {host : Host} (h : ofName spelled = .ok host)
    {mark : Char} (hmark : mark ∈ delimiters) : mark ∉ spelled.toList := by
  intro hspelled
  have hthrough := comesThrough_of_delimiter hmark
  unfold ofName at h
  split at h
  · cases h
  · next decoded hdecoded =>
    split at h
    · cases h
    · next ascii hascii =>
      have hbyte : UInt8.ofNat mark.toNat ∈ percentDecode (Bytes.ofText spelled) :=
        mem_percentDecode hthrough.not_percent hthrough.not_hexadecimal
          ((Bytes.mem_ofText_iff hthrough.ascii).2 hspelled)
      rw [← Bytes.ofText_of_text? hdecoded] at hbyte
      exact Idna.not_mem_of_toAscii hthrough (forbidden_of_delimiter hmark) hascii
        ((Bytes.mem_ofText_iff hthrough.ascii).1 hbyte)

/-! ## Addresses in brackets -/

private theorem isHostChar_of_digits? {base n : Nat} {cs : List Char}
    (h : digits? base 0 cs = some n) {c : Char} (hc : c ∈ cs) : IsHostChar c :=
  isHostChar_of_digit?
    (digit?_of_spells ((digits?_zero_eq_some_iff (List.ne_nil_of_mem hc)).1 h) hc)

private theorem isHostChar_of_group? {cs : List Char} {value : Nat} (h : group? cs = some value)
    {c : Char} (hc : c ∈ cs) : IsHostChar c := by
  unfold group? at h
  split at h
  · cases h
  · exact isHostChar_of_digits? h hc

private theorem isHostChar_of_quadByte? {cs : List Char} {value : Nat}
    (h : quadByte? cs = some value) {c : Char} (hc : c ∈ cs) : IsHostChar c := by
  unfold quadByte? at h
  split at h
  · cases h
  · cases h
  · split at h
    · next n hn => exact isHostChar_of_digits? hn hc
    · cases h

private theorem isHostChar_of_quad? {cs : List Char} {groups : List Nat}
    (h : quad? cs = some groups) {c : Char} (hc : c ∈ cs) : IsHostChar c := by
  unfold quad? at h
  split at h
  · next a b d e hparts =>
    by_cases hdot : c = '.'
    · rw [hdot]
      exact isHostChar_dot
    · obtain ⟨part, hpart, hmem⟩ := mem_of_mem_splitOn hdot hc
      obtain ⟨value, _, hvalue⟩ := exists_of_mapM hparts hpart
      exact isHostChar_of_quadByte? hvalue hmem
  · cases h

private theorem isHostChar_of_groups? {dotted : Bool} {parts : List (List Char)}
    {groups : List Nat} (h : groups? dotted parts = some groups) {part : List Char}
    (hpart : part ∈ parts) {c : Char} (hc : c ∈ part) : IsHostChar c := by
  fun_induction groups? dotted parts generalizing groups with
  | case1 => cases hpart
  | case2 only hdotted =>
      rw [List.mem_singleton.1 hpart] at hc
      exact isHostChar_of_quad? h hc
  | case3 only hdotted =>
      rw [List.mem_singleton.1 hpart] at hc
      obtain ⟨value, hvalue, _⟩ := Option.map_eq_some_iff.1 h
      exact isHostChar_of_group? hvalue hc
  | case4 first rest hrest ih =>
      obtain ⟨value, hvalue, h⟩ := Option.bind_eq_some_iff.1 h
      obtain ⟨values, hvalues, _⟩ := Option.bind_eq_some_iff.1 h
      rcases List.mem_cons.1 hpart with rfl | hpart
      · exact isHostChar_of_group? hvalue hc
      · exact ih hvalues hpart

private theorem isHostChar_of_side? {dotted : Bool} {cs : List Char} {groups : List Nat}
    (h : side? dotted cs = some groups) {c : Char} (hc : c ∈ cs) : IsHostChar c := by
  unfold side? at h
  split at h
  · next hnil =>
    rw [List.isEmpty_iff.1 hnil] at hc
    cases hc
  · by_cases hcolon : c = ':'
    · rw [hcolon]
      exact isHostChar_colon
    · obtain ⟨part, hpart, hmem⟩ := mem_of_mem_splitOn hcolon hc
      exact isHostChar_of_groups? h hpart hmem

theorem cutAtGap_eq_some {before cs first second : List Char}
    (h : cutAtGap before cs = some (first, second)) :
    before.reverse ++ cs = first ++ ':' :: ':' :: second := by
  fun_induction cutAtGap before cs with
  | case1 => cases h
  | case2 => cases h; rfl
  | case3 before c cs _ ih => simpa using ih h

private theorem isHostChar_of_ipv6? {text : String} {groups : List Nat}
    (h : ipv6? text = some groups) {c : Char} (hc : c ∈ text.toList) :
    IsHostChar c := by
  unfold ipv6? at h
  split at h
  · split at h
    · next hside => exact isHostChar_of_side? hside hc
    · cases h
  · next before after hcut =>
    split at h
    · next left right hleft hright =>
      have hsplit := cutAtGap_eq_some hcut
      rw [List.reverse_nil, List.nil_append] at hsplit
      simp only [hsplit, List.mem_append, List.mem_cons] at hc
      rcases hc with hc | rfl | rfl | hc
      · exact isHostChar_of_side? hleft hc
      · exact isHostChar_colon
      · exact isHostChar_colon
      · exact isHostChar_of_side? hright hc
    · cases h

/-! ## All spellings -/

inductive IsSpelling : List Char -> Prop where
  | name {cs} (hfree : ∀ mark ∈ delimiters, mark ∉ cs) : IsSpelling cs
  | bracketed {inner} (hchars : AllHostChars inner) :
      IsSpelling ('[' :: (inner ++ [']']))

theorem isSpelling_of_ofText {spelled : String} {host : Host}
    (h : ofText spelled = .ok host) : IsSpelling spelled.toList := by
  unfold ofText at h
  split at h
  · next inner hinner =>
    unfold ofBracketed at h
    split at h
    · next hlast =>
      split at h
      · next groups hgroups =>
        obtain ⟨address, rfl⟩ := List.getLast?_eq_some_iff.1 hlast
        rw [List.dropLast_concat] at hgroups
        rw [hinner]
        refine .bracketed fun c hc => isHostChar_of_ipv6? hgroups ?_
        rwa [String.toList_ofList]
      · cases h
    · cases h
  · exact .name fun mark hmark => not_mem_of_ofName h hmark

end Host

end Intermediary
