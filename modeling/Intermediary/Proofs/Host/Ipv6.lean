import Intermediary.Proofs.Host.Spelled
import Mathlib.Data.List.Forall2

/-!
# The texts of IPv6 addresses

The grammar of IPv6 addresses, said without a reader: parts of up to four
hexadecimal digits with colons between them, the last of which may be an IPv4
address, and at most one gap that stands for zeros.  The reader reads exactly
the texts of the grammar, and reads them as what they write.
-/

namespace Intermediary

open Text

namespace Host

/-! ## The grammar -/

/-- Digits of a byte; a zero stands only alone. -/
structure WritesByte (cs : List Char) (value : Nat) : Prop where
  spells : Spells 10 cs value
  small : value < 256
  plain : cs.head? = some '0' -> cs = ['0']

/-- The two groups that four bytes with dots between them write. -/
def WritesQuad (cs : List Char) (groups : List Nat) : Prop :=
  ∃ parts a b c d, List.Forall₂ WritesByte parts [a, b, c, d] ∧
    cs = ['.'].intercalate parts ∧ groups = [a * 256 + b, c * 256 + d]

structure WritesGroup (cs : List Char) (value : Nat) : Prop where
  spells : Spells 16 cs value
  short : cs.length ≤ 4

/-- The groups that parts write, the last of which may be four bytes. -/
inductive WritesRun (dotted : Bool) : List (List Char) -> List Nat -> Prop where
  | nil : WritesRun dotted [] []
  | quad {part : List Char} {groups : List Nat} (hdotted : dotted = true)
      (hquad : WritesQuad part groups) : WritesRun dotted [part] groups
  | cons {part : List Char} {value : Nat} {parts : List (List Char)} {values : List Nat}
      (hpart : WritesGroup part value) (hparts : WritesRun dotted parts values) :
      WritesRun dotted (part :: parts) (value :: values)

/-- The groups that a text without a gap writes, with colons between its parts. -/
def WritesSide (dotted : Bool) (cs : List Char) (groups : List Nat) : Prop :=
  ∃ parts, WritesRun dotted parts groups ∧ cs = [':'].intercalate parts

/-- The eight groups of an address.  A gap stands for at least one of them. -/
inductive WritesIpv6 : List Char -> List Nat -> Prop where
  | full {cs : List Char} {groups : List Nat} (hside : WritesSide true cs groups)
      (hlength : groups.length = 8) : WritesIpv6 cs groups
  | gap {before after : List Char} {left right : List Nat}
      (hleft : WritesSide false before left) (hright : WritesSide true after right)
      (hroom : left.length + right.length < 8) :
      WritesIpv6 (before ++ ':' :: ':' :: after)
        (left ++ List.replicate (8 - (left.length + right.length)) 0 ++ right)

/-! ## Bytes and groups -/

theorem quadByte?_eq_some_iff {cs : List Char} {value : Nat} :
    quadByte? cs = some value ↔ WritesByte cs value := by
  unfold quadByte?
  split
  · exact ⟨fun h => (nomatch h), fun h => absurd rfl h.spells.1⟩
  · next second rest =>
    refine ⟨fun h => (nomatch h), fun h => ?_⟩
    cases h.plain rfl
  · next hne hzero =>
    have hplain : cs.head? = some '0' -> cs = ['0'] := by
      intro hhead
      obtain ⟨rest, rfl⟩ := List.head?_eq_some_iff.1 hhead
      cases rest with
      | nil => rfl
      | cons second rest => exact absurd rfl (hzero second rest)
    constructor
    · intro h
      split at h
      · next n hn =>
        split at h
        · next hsmall =>
          cases h
          exact ⟨(digits?_zero_eq_some_iff hne).1 hn, hsmall, hplain⟩
        · cases h
      · cases h
    · intro h
      rw [(digits?_zero_eq_some_iff hne).2 h.spells]
      exact if_pos h.small

theorem group?_eq_some_iff {cs : List Char} {value : Nat} :
    group? cs = some value ↔ WritesGroup cs value := by
  unfold group?
  split
  · next hbad =>
    refine ⟨fun h => (nomatch h), fun h => ?_⟩
    simp only [Bool.or_eq_true, List.isEmpty_iff, decide_eq_true_eq] at hbad
    rcases hbad with hnil | hlong
    · exact absurd hnil h.spells.1
    · exact absurd h.short (Nat.not_le_of_lt hlong)
  · next hgood =>
    simp only [Bool.or_eq_true, List.isEmpty_iff, decide_eq_true_eq, not_or,
      Nat.not_lt] at hgood
    rw [digits?_zero_eq_some_iff hgood.1]
    exact ⟨fun h => ⟨h, hgood.2⟩, fun h => h.spells⟩

theorem not_mem_of_spells {base n : Nat} {cs : List Char} (h : Spells base cs n)
    {mark : Char} (hmark : digit? base mark = none) : mark ∉ cs := by
  intro hmem
  have hsome := digit?_of_spells h hmem
  rw [hmark] at hsome
  cases hsome

/-! ## Four bytes -/

theorem mapM_eq_some_iff {α β : Type} {f : α -> Option β} {as : List α} {bs : List β} :
    as.mapM f = some bs ↔ List.Forall₂ (fun a b => f a = some b) as bs := by
  induction as generalizing bs with
  | nil => simp [eq_comm]
  | cons a as ih =>
      rw [List.mapM_cons, List.forall₂_cons_left_iff]
      simp only [Option.bind_eq_bind, Option.bind_eq_some_iff, ih, Option.pure_def,
        Option.some.injEq]
      constructor
      · rintro ⟨b, hb, rest, hrest, rfl⟩
        exact ⟨b, rest, hb, hrest, rfl⟩
      · rintro ⟨b, rest, hb, hrest, rfl⟩
        exact ⟨b, hb, rest, hrest, rfl⟩

private theorem exists_of_forall₂ {α β : Type} {r : α -> β -> Prop} {as : List α} {bs : List β}
    (h : List.Forall₂ r as bs) {a : α} (ha : a ∈ as) : ∃ b, r a b := by
  induction h with
  | nil => cases ha
  | cons hfirst _ ih =>
      rcases List.mem_cons.1 ha with rfl | ha
      · exact ⟨_, hfirst⟩
      · exact ih ha

theorem quad?_eq_some_iff {cs : List Char} {groups : List Nat} :
    quad? cs = some groups ↔ WritesQuad cs groups := by
  unfold quad?
  constructor
  · intro h
    split at h
    · next a b c d hparts =>
      cases h
      refine ⟨cs.splitOn '.', a, b, c, d, ?_, (List.intercalate_splitOn '.').symm, rfl⟩
      exact (mapM_eq_some_iff.1 hparts).imp fun _ _ => quadByte?_eq_some_iff.1
    · cases h
  · rintro ⟨parts, a, b, c, d, hbytes, rfl, rfl⟩
    have hfree : ∀ part ∈ parts, '.' ∉ part := by
      intro part hpart
      obtain ⟨value, hvalue⟩ := exists_of_forall₂ hbytes hpart
      exact not_mem_of_spells hvalue.spells (by decide)
    have hne : parts ≠ [] := by
      rintro rfl
      cases hbytes
    rw [List.splitOn_intercalate '.' hfree hne,
      mapM_eq_some_iff.2 (hbytes.imp fun _ _ => quadByte?_eq_some_iff.2)]

theorem WritesQuad.dot_mem {cs : List Char} {groups : List Nat} (h : WritesQuad cs groups) :
    '.' ∈ cs := by
  obtain ⟨parts, a, b, c, d, hbytes, rfl, _⟩ := h
  cases hbytes with
  | cons _ hrest =>
      cases hrest with
      | cons _ _ => simp [List.intercalate_cons_cons]

theorem WritesQuad.not_mem {cs : List Char} {groups : List Nat} (h : WritesQuad cs groups)
    {mark : Char} (hdigit : digit? 10 mark = none) (hdot : mark ≠ '.') : mark ∉ cs := by
  obtain ⟨parts, a, b, c, d, hbytes, rfl, _⟩ := h
  intro hmem
  rcases mem_intercalate hmem with hmem | ⟨part, hpart, hmem⟩
  · exact hdot (List.mem_singleton.1 hmem)
  · obtain ⟨value, hvalue⟩ := exists_of_forall₂ hbytes hpart
    exact not_mem_of_spells hvalue.spells hdigit hmem

/-! ## Sides -/

private theorem WritesRun.part {dotted : Bool} {parts : List (List Char)} {groups : List Nat}
    (h : WritesRun dotted parts groups) :
    ∀ part ∈ parts, part ≠ [] ∧ ':' ∉ part := by
  induction h with
  | nil => exact List.forall_mem_nil _
  | quad _ hquad =>
      exact List.forall_mem_singleton.2
        ⟨List.ne_nil_of_mem hquad.dot_mem, hquad.not_mem (by decide) (by decide)⟩
  | cons hpart _ ih =>
      exact List.forall_mem_cons.2
        ⟨⟨hpart.spells.1, not_mem_of_spells hpart.spells (by decide)⟩, ih⟩

theorem groups?_eq_some_iff {dotted : Bool} {parts : List (List Char)}
    {groups : List Nat} :
    groups? dotted parts = some groups ↔ WritesRun dotted parts groups := by
  constructor
  · intro h
    fun_induction groups? dotted parts generalizing groups with
    | case1 =>
        cases h
        exact .nil
    | case2 part hdots =>
        rw [Bool.and_eq_true] at hdots
        exact .quad hdots.1 (quad?_eq_some_iff.1 h)
    | case3 part hplain =>
        obtain ⟨value, hvalue, rfl⟩ := Option.map_eq_some_iff.1 h
        exact .cons (group?_eq_some_iff.1 hvalue) .nil
    | case4 part parts hparts ih =>
        obtain ⟨value, hvalue, h⟩ := Option.bind_eq_some_iff.1 h
        obtain ⟨values, hvalues, h⟩ := Option.bind_eq_some_iff.1 h
        cases h
        exact .cons (group?_eq_some_iff.1 hvalue) (ih hvalues)
  · intro h
    induction h with
    | nil => rfl
    | @quad part groups hdotted hquad =>
        simp [groups?, hdotted, hquad.dot_mem, quad?_eq_some_iff.2 hquad]
    | @cons part value parts values hpart hparts ih =>
        have hdot : '.' ∉ part := not_mem_of_spells hpart.spells (by decide)
        have hgroup := group?_eq_some_iff.2 hpart
        cases parts with
        | nil =>
            cases hparts
            simp [groups?, hdot, hgroup]
        | cons next parts =>
            simp [groups?, hgroup, ih]

theorem side?_eq_some_iff {dotted : Bool} {cs : List Char} {groups : List Nat} :
    side? dotted cs = some groups ↔ WritesSide dotted cs groups := by
  unfold side?
  constructor
  · intro h
    split at h
    · next hnil =>
      cases h
      exact ⟨[], .nil, List.isEmpty_iff.1 hnil⟩
    · exact ⟨cs.splitOn ':', groups?_eq_some_iff.1 h, (List.intercalate_splitOn ':').symm⟩
  · rintro ⟨parts, hrun, rfl⟩
    cases parts with
    | nil =>
        cases hrun
        rfl
    | cons part parts =>
        have hsolid := hrun.part
        have hne : ([':'].intercalate (part :: parts)).isEmpty = false := by
          obtain ⟨c, hc⟩ := List.exists_mem_of_ne_nil part (hsolid part List.mem_cons_self).1
          exact List.isEmpty_eq_false_iff.2 (List.ne_nil_of_mem
            (mem_intercalate_of_mem List.mem_cons_self hc))
        rw [hne, List.splitOn_intercalate ':' (fun p hp => (hsolid p hp).2) (by simp)]
        simpa using groups?_eq_some_iff.2 hrun

/-! ## The gap -/

theorem cutAtGap_append {part : List Char} (hfree : ':' ∉ part) (before rest : List Char) :
    cutAtGap before (part ++ rest) = cutAtGap (part.reverse ++ before) rest := by
  induction part generalizing before with
  | nil => rfl
  | cons c part ih =>
      have hc : c ≠ ':' := fun heq => hfree (heq ▸ List.mem_cons_self)
      have hrest : ':' ∉ part := fun hmem => hfree (List.mem_cons_of_mem c hmem)
      rw [List.cons_append, cutAtGap, ih hrest]
      · simp
      · intro after heq _
        exact hc heq

private theorem cutAtGap_colon {rest : List Char} (hhead : rest.head? ≠ some ':')
    (before : List Char) :
    cutAtGap before (':' :: rest) = cutAtGap (':' :: before) rest := by
  rw [cutAtGap]
  rintro after - rfl
  exact hhead rfl

private theorem head?_intercalate_ne {mark : Char} (separator : List Char) {part : List Char}
    (hpart : part ≠ [] ∧ mark ∉ part) (parts : List (List Char)) (rest : List Char) :
    (separator.intercalate (part :: parts) ++ rest).head? ≠ some mark := by
  obtain ⟨c, cs, rfl⟩ := List.exists_cons_of_ne_nil hpart.1
  have hc : c ≠ mark := fun heq => hpart.2 (heq ▸ List.mem_cons_self)
  cases parts with
  | nil => simpa using hc
  | cons next parts => simpa [List.intercalate_cons_cons] using hc

/-- There is no gap in parts with single colons between them, nor at their end. -/
theorem cutAtGap_parts {parts : List (List Char)}
    (hsolid : ∀ part ∈ parts, part ≠ [] ∧ ':' ∉ part) (before rest : List Char) :
    cutAtGap before ([':'].intercalate parts ++ rest) =
      cutAtGap (([':'].intercalate parts).reverse ++ before) rest := by
  induction parts generalizing before with
  | nil => rfl
  | cons part parts ih =>
      obtain ⟨hpart, hothers⟩ := List.forall_mem_cons.1 hsolid
      cases parts with
      | nil => rw [List.intercalate_singleton, cutAtGap_append hpart.2]
      | cons next parts =>
          have hhead := head?_intercalate_ne [':'] (hothers next List.mem_cons_self) parts rest
          rw [List.intercalate_cons_cons, List.append_assoc, List.append_assoc,
            cutAtGap_append hpart.2, List.singleton_append, cutAtGap_colon hhead,
            ih hothers]
          simp

/-- The reader reads the texts of the grammar, as what they write. -/
theorem ipv6?_eq_some_iff {text : String} {groups : List Nat} :
    ipv6? text = some groups ↔ WritesIpv6 text.toList groups := by
  unfold ipv6?
  constructor
  · intro h
    split at h
    · split at h
      · next found hside =>
        split at h
        · next hlength =>
          cases h
          exact .full (side?_eq_some_iff.1 hside) hlength
        · cases h
      · cases h
    · next before after hcut =>
      split at h
      · next left right hleft hright =>
        dsimp only at h
        split at h
        · next hroom =>
          cases h
          have hsplit := cutAtGap_eq_some hcut
          rw [List.reverse_nil, List.nil_append] at hsplit
          rw [hsplit]
          exact .gap (side?_eq_some_iff.1 hleft) (side?_eq_some_iff.1 hright) hroom
        · cases h
      · cases h
  · intro h
    generalize text.toList = cs at h
    cases h with
    | full hside hlength =>
        have hcut : cutAtGap [] cs = none := by
          obtain ⟨parts, hrun, rfl⟩ := hside
          have hskip := cutAtGap_parts hrun.part [] []
          rwa [List.append_nil] at hskip
        rw [hcut]
        simp only [side?_eq_some_iff.2 hside, if_pos hlength]
    | @gap before after left right hleft hright hroom =>
        have hcut : cutAtGap [] (before ++ ':' :: ':' :: after) = some (before, after) := by
          obtain ⟨parts, hrun, rfl⟩ := hleft
          rw [cutAtGap_parts hrun.part, cutAtGap, List.append_nil, List.reverse_reverse]
        rw [hcut]
        simp only [side?_eq_some_iff.2 hleft, side?_eq_some_iff.2 hright, if_pos hroom]

theorem ipv6?_ofList_eq_some_iff {cs : List Char} {groups : List Nat} :
    ipv6? (String.ofList cs) = some groups ↔ WritesIpv6 cs groups := by
  rw [ipv6?_eq_some_iff, String.toList_ofList]

/-! ## Other characters -/

section Foreign

variable {mark : Char} (hdecimal : digit? 10 mark = none) (hdigit : digit? 16 mark = none)
  (hdot : mark ≠ '.')

include hdecimal hdigit hdot

private theorem WritesRun.not_mem {dotted : Bool} {parts : List (List Char)} {groups : List Nat}
    (h : WritesRun dotted parts groups) : ∀ part ∈ parts, mark ∉ part := by
  induction h with
  | nil => exact List.forall_mem_nil _
  | quad _ hquad => exact List.forall_mem_singleton.2 (hquad.not_mem hdecimal hdot)
  | cons hpart _ ih =>
      exact List.forall_mem_cons.2 ⟨not_mem_of_spells hpart.spells hdigit, ih⟩

private theorem WritesSide.not_mem (hcolon : mark ≠ ':') {dotted : Bool} {cs : List Char}
    {groups : List Nat} (h : WritesSide dotted cs groups) : mark ∉ cs := by
  obtain ⟨parts, hrun, rfl⟩ := h
  intro hmem
  rcases mem_intercalate hmem with hmem | ⟨part, hpart, hmem⟩
  · exact hcolon (List.mem_singleton.1 hmem)
  · exact hrun.not_mem hdecimal hdigit hdot part hpart hmem

/-- An address is written with digits, dots and colons. -/
theorem WritesIpv6.not_mem (hcolon : mark ≠ ':') {cs : List Char} {groups : List Nat}
    (h : WritesIpv6 cs groups) : mark ∉ cs := by
  cases h with
  | full hside _ => exact hside.not_mem hdecimal hdigit hdot hcolon
  | gap hleft hright _ =>
      simp [hcolon, hleft.not_mem hdecimal hdigit hdot hcolon,
        hright.not_mem hdecimal hdigit hdot hcolon]

end Foreign

end Host

end Intermediary
