import Intermediary.Proofs.Host.Ipv6
import Intermediary.SocketAddress

/-!
# The texts of socket addresses

The grammar of socket addresses: four bytes, or an IPv6 address in brackets
with perhaps a scope, then a colon and a port.  The reader reads exactly these
texts.  The last colon of a text is the one before the port, whatever the
address is, so that another port can be put in its place.
-/

namespace Intermediary

open Text

namespace SocketAddress

/-- Digits of a number below a bound, with any zeros before them. -/
def WritesBelow (bound : Nat) (cs : List Char) (n : Nat) : Prop :=
  Spells 10 cs n ∧ n < bound

inductive Writes : List Char -> SocketAddress -> Prop where
  | ipv4 {quad digits : List Char} {high low port : Nat}
      (hquad : Host.WritesQuad quad [high, low])
      (hport : WritesBelow portBound digits port) :
      Writes (quad ++ ':' :: digits) (.ipv4 (high * 65536 + low) port)
  | ipv6 {inner digits : List Char} {groups : List Nat} {port : Nat}
      (hinner : Host.WritesIpv6 inner groups)
      (hport : WritesBelow portBound digits port) :
      Writes ('[' :: (inner ++ ']' :: ':' :: digits)) (.ipv6 groups 0 port)
  | zoned {inner name digits : List Char} {groups : List Nat} {scope port : Nat}
      (hinner : Host.WritesIpv6 inner groups)
      (hscope : WritesBelow scopeBound name scope)
      (hport : WritesBelow portBound digits port) :
      Writes ('[' :: ((inner ++ '%' :: name) ++ ']' :: ':' :: digits))
        (.ipv6 groups scope port)

theorem digitsBelow?_eq_some_iff {bound n : Nat} {cs : List Char} :
    digitsBelow? bound cs = some n ↔ WritesBelow bound cs n := by
  unfold digitsBelow? WritesBelow
  split
  · exact ⟨fun h => (nomatch h), fun h => absurd rfl h.1.1⟩
  · next hne =>
    rw [← digits?_zero_eq_some_iff hne]
    cases digits? 10 0 cs with
    | none => simp
    | some value =>
        simp only [Option.ite_none_right_eq_some, Option.some.injEq]
        exact ⟨fun ⟨hlt, heq⟩ => ⟨heq, heq ▸ hlt⟩, fun ⟨heq, hlt⟩ => ⟨heq ▸ hlt, heq⟩⟩

/-! ## Reading -/

theorem span_of_not_mem {mark : Char} {cs : List Char} (h : mark ∉ cs) (rest : List Char) :
    (cs ++ mark :: rest).span (· != mark) = (cs, mark :: rest) := by
  rw [List.span_eq_takeWhile_dropWhile, takeWhile_of_not_mem h, dropWhile_of_not_mem h]

theorem span_of_not_mem_nil {mark : Char} {cs : List Char} (h : mark ∉ cs) :
    cs.span (· != mark) = (cs, []) := by
  rw [List.span_eq_takeWhile_dropWhile, List.takeWhile_eq_self_iff.2 (bne_of_not_mem h),
    List.dropWhile_eq_nil_iff.2 (bne_of_not_mem h)]

private theorem writes_of_ofQuad? {quad digits : List Char} {address : SocketAddress}
    (h : ofQuad? quad digits = some address) : Writes (quad ++ ':' :: digits) address := by
  unfold ofQuad? at h
  split at h
  · next high low port hquad hport =>
    cases h
    exact .ipv4 (Host.quad?_eq_some_iff.1 hquad) (digitsBelow?_eq_some_iff.1 hport)
  · cases h

private theorem writes_of_ofBracketed? {inner digits : List Char} {address : SocketAddress}
    (h : ofBracketed? inner digits = some address) :
    Writes ('[' :: (inner ++ ']' :: ':' :: digits)) address := by
  obtain ⟨port, hport, h⟩ := Option.bind_eq_some_iff.1 h
  have hport := digitsBelow?_eq_some_iff.1 hport
  rcases mark_or_not_mem '%' inner with ⟨front, name, hfree, rfl⟩ | hfree
  · rw [span_of_not_mem hfree] at h
    obtain ⟨groups, hgroups, h⟩ := Option.bind_eq_some_iff.1 h
    obtain ⟨scope, hscope, h⟩ := Option.bind_eq_some_iff.1 h
    cases h
    exact .zoned (Host.ipv6?_ofList_eq_some_iff.1 hgroups)
      (digitsBelow?_eq_some_iff.1 hscope) hport
  · rw [span_of_not_mem_nil hfree] at h
    obtain ⟨groups, hgroups, h⟩ := Option.bind_eq_some_iff.1 h
    cases h
    exact .ipv6 (Host.ipv6?_ofList_eq_some_iff.1 hgroups) hport

private theorem append_of_span {p : Char -> Bool} {cs first rest : List Char}
    (h : cs.span p = (first, rest)) : cs = first ++ rest := by
  rw [List.span_eq_takeWhile_dropWhile] at h
  cases h
  exact List.takeWhile_append_dropWhile.symm

private theorem writes_of_ofText? {text : String} {address : SocketAddress}
    (h : ofText? text = some address) : Writes text.toList address := by
  unfold ofText? at h
  split at h
  · next cs hcs =>
    split at h
    · next inner digits hspan =>
      rw [hcs, append_of_span hspan]
      exact writes_of_ofBracketed? h
    · cases h
  · next cs _ =>
    split at h
    · next quad digits hspan =>
      rw [append_of_span hspan]
      exact writes_of_ofQuad? h
    · cases h

private theorem ofQuad?_of_writes {quad digits : List Char} {high low port : Nat}
    (hquad : Host.WritesQuad quad [high, low]) (hport : WritesBelow portBound digits port) :
    ofQuad? quad digits = some (.ipv4 (high * 65536 + low) port) := by
  simp only [ofQuad?, Host.quad?_eq_some_iff.2 hquad, digitsBelow?_eq_some_iff.2 hport]

private theorem ofText?_bracketed {text : String} {inner digits : List Char}
    (h : text.toList = '[' :: (inner ++ ']' :: ':' :: digits)) (hfree : ']' ∉ inner) :
    ofText? text = ofBracketed? inner digits := by
  unfold ofText?
  split
  · next cs hcs =>
    rw [h] at hcs
    cases hcs
    simp only [span_of_not_mem hfree]
  · next hother => exact absurd h (hother _)

private theorem not_mem_of_writesIpv6 {inner : List Char} {groups : List Nat}
    (h : Host.WritesIpv6 inner groups) {mark : Char} (hmark : mark = ']' ∨ mark = '%') :
    mark ∉ inner := by
  rcases hmark with rfl | rfl <;>
    exact h.not_mem (by decide) (by decide) (by decide) (by decide)

private theorem ofText?_of_writes {text : String} {address : SocketAddress}
    (h : Writes text.toList address) : ofText? text = some address := by
  generalize hcs : text.toList = cs at h
  cases h with
  | @ipv4 quad digits high low port hquad hport =>
      have hcolon : ':' ∉ quad := hquad.not_mem (by decide) (by decide)
      have hbracket : '[' ∉ quad := hquad.not_mem (by decide) (by decide)
      unfold ofText?
      split
      · next rest hrest =>
        -- Four bytes start with a digit.
        obtain ⟨c, quad, rfl⟩ := List.exists_cons_of_ne_nil (List.ne_nil_of_mem hquad.dot_mem)
        rw [hcs] at hrest
        cases hrest
        exact absurd List.mem_cons_self hbracket
      · rw [hcs, span_of_not_mem hcolon]
        exact ofQuad?_of_writes hquad hport
  | @ipv6 inner digits groups port hinner hport =>
      have hbracket := not_mem_of_writesIpv6 hinner (.inl rfl)
      have hpercent := not_mem_of_writesIpv6 hinner (.inr rfl)
      have hgroups := Host.ipv6?_ofList_eq_some_iff.2 hinner
      rw [ofText?_bracketed hcs hbracket]
      simp only [ofBracketed?, digitsBelow?_eq_some_iff.2 hport, Option.bind_eq_bind,
        Option.bind_some, span_of_not_mem_nil hpercent, hgroups, Option.pure_def]
  | @zoned inner name digits groups scope port hinner hscope hport =>
      have hbracket := not_mem_of_writesIpv6 hinner (.inl rfl)
      have hpercent := not_mem_of_writesIpv6 hinner (.inr rfl)
      have hname : ']' ∉ name := Host.not_mem_of_spells hscope.1 (by decide)
      have hgroups := Host.ipv6?_ofList_eq_some_iff.2 hinner
      rw [ofText?_bracketed hcs (by simp [hbracket, hname])]
      simp only [ofBracketed?, digitsBelow?_eq_some_iff.2 hport, Option.bind_eq_bind,
        Option.bind_some, span_of_not_mem hpercent, hgroups,
        digitsBelow?_eq_some_iff.2 hscope, Option.pure_def]

/-- The texts that are read are those of the grammar. -/
theorem ofText?_eq_some_iff {text : String} {address : SocketAddress} :
    ofText? text = some address ↔ Writes text.toList address :=
  ⟨writes_of_ofText?, ofText?_of_writes⟩

example : ofText? "[fe80::1%3]:080" = some (.ipv6 [0xFE80, 0, 0, 0, 0, 0, 0, 1] 3 80) := by
  decide

/-! ## Another port -/

def atPort (port : Nat) : SocketAddress -> SocketAddress
  | .ipv4 address _ => .ipv4 address port
  | .ipv6 groups scope _ => .ipv6 groups scope port

theorem writesBelow_decimal {bound n : Nat} (h : n < bound) :
    WritesBelow bound (decimal n).toList n := by
  rw [decimal, String.toList_ofList]
  exact ⟨(digits?_zero_eq_some_iff Nat.toDigits_ne_nil).1 (digits?_toDigits (.inl rfl) n), h⟩

/-- What follows the last colon of an address is its port, and may be any other. -/
theorem Writes.exists_port {cs : List Char} {address : SocketAddress}
    (h : Writes cs address) :
    ∃ front digits, cs = front ++ ':' :: digits ∧ ':' ∉ digits ∧
      ∀ port digits, WritesBelow portBound digits port ->
        Writes (front ++ ':' :: digits) (address.atPort port) := by
  cases h with
  | @ipv4 quad digits high low _ hquad hport =>
      exact ⟨quad, digits, rfl, Host.not_mem_of_spells hport.1 (by decide),
        fun port digits hdigits => .ipv4 hquad hdigits⟩
  | @ipv6 inner digits groups _ hinner hport =>
      refine ⟨'[' :: (inner ++ [']']), digits, by simp,
        Host.not_mem_of_spells hport.1 (by decide), fun port digits hdigits => ?_⟩
      simpa [atPort] using Writes.ipv6 hinner hdigits
  | @zoned inner name digits groups scope _ hinner hscope hport =>
      refine ⟨'[' :: ((inner ++ '%' :: name) ++ [']']), digits, by simp,
        Host.not_mem_of_spells hport.1 (by decide), fun port digits hdigits => ?_⟩
      simpa [atPort] using Writes.zoned hinner hscope hdigits

end SocketAddress

end Intermediary
