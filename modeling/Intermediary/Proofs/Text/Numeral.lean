import Intermediary.Proofs.Text.Blank
import Intermediary.Text.Numeral
import Mathlib.Data.Nat.Digits.Defs

/-!
# What numerals spell

The numerals that are read are an optional plus sign and digits; their value is
that of the digits.  What is written in decimal is read as the same number.
-/

namespace Intermediary

namespace Text

/-- Characters that are the digits of a number, the most significant first. -/
def Spells (base : Nat) (cs : List Char) (n : Nat) : Prop :=
  cs ≠ [] ∧ ∃ values : List Nat, cs.map (digit? base) = values.map some ∧
    n = Nat.ofDigits base values.reverse

theorem digits?_eq_some_iff {base value n : Nat} {cs : List Char} :
    digits? base value cs = some n ↔
      ∃ values : List Nat, cs.map (digit? base) = values.map some ∧
        n = Nat.ofDigits base values.reverse + base ^ cs.length * value := by
  -- What was read before stands in front of the digits that are left.
  induction cs generalizing value with
  | nil =>
      constructor
      · intro h
        cases h
        exact ⟨[], rfl, by simp⟩
      · rintro ⟨values, hvalues, rfl⟩
        have hnil : values = [] := by simpa using hvalues.symm
        subst hnil
        simp [digits?]
  | cons c cs ih =>
      cases hc : digit? base c with
      | none =>
          simp only [digits?, hc]
          constructor
          · intro h
            cases h
          · rintro ⟨values, hvalues, _⟩
            cases values with
            | nil => simp at hvalues
            | cons d values => simp [hc] at hvalues
      | some d =>
          simp only [digits?, hc]
          rw [ih]
          constructor
          · rintro ⟨values, hvalues, rfl⟩
            refine ⟨d :: values, by simp [hc, hvalues], ?_⟩
            have hlength : values.length = cs.length := by
              simpa using (congrArg List.length hvalues).symm
            rw [Nat.ofDigits_reverse_cons, hlength, List.length_cons, Nat.pow_succ]
            ring
          · rintro ⟨values, hvalues, rfl⟩
            cases values with
            | nil => simp at hvalues
            | cons e values =>
                simp only [List.map_cons, hc, List.cons.injEq, Option.some.injEq] at hvalues
                obtain ⟨rfl, hrest⟩ := hvalues
                refine ⟨values, hrest, ?_⟩
                have hlength : values.length = cs.length := by
                  simpa using (congrArg List.length hrest).symm
                rw [Nat.ofDigits_reverse_cons, hlength, List.length_cons, Nat.pow_succ]
                ring

theorem digits?_zero_eq_some_iff {base n : Nat} {cs : List Char} (hcs : cs ≠ []) :
    digits? base 0 cs = some n ↔ Spells base cs n := by
  simp [digits?_eq_some_iff, Spells, hcs]

/-- Digits have one value. -/
theorem Spells.unique {base n m : Nat} {cs : List Char} (h : Spells base cs n)
    (hother : Spells base cs m) : n = m := by
  have hn := (digits?_zero_eq_some_iff h.1).2 h
  rw [(digits?_zero_eq_some_iff h.1).2 hother] at hn
  exact (Option.some.inj hn).symm

/-- Digits are ASCII digits and letters. -/
theorem toNat_of_digit? {base : Nat} {c : Char} (h : (digit? base c).isSome) :
    48 ≤ c.toNat ∧ c.toNat ≤ 57 ∨ 65 ≤ c.toNat ∧ c.toNat ≤ 70 ∨
      97 ≤ c.toNat ∧ c.toNat ≤ 102 := by
  by_cases hdecimal : '0' ≤ c ∧ c ≤ '9'
  · exact .inl hdecimal
  · by_cases hsmall : 'a' ≤ c ∧ c ≤ 'f'
    · exact .inr (.inr hsmall)
    · by_cases hcapital : 'A' ≤ c ∧ c ≤ 'F'
      · exact .inr (.inl hcapital)
      · simp [digit?, hdecimal, hsmall, hcapital] at h

theorem digit?_of_spells {base n : Nat} {cs : List Char} (h : Spells base cs n)
    {c : Char} (hc : c ∈ cs) : (digit? base c).isSome := by
  obtain ⟨_, values, hvalues, _⟩ := h
  have hmem : digit? base c ∈ cs.map (digit? base) := List.mem_map_of_mem hc
  rw [hvalues] at hmem
  obtain ⟨value, _, hvalue⟩ := List.mem_map.1 hmem
  rw [← hvalue]
  rfl

theorem isBlank_of_digit? {base : Nat} {c : Char} (h : (digit? base c).isSome) :
    isBlank c = false := by
  have hrange := toNat_of_digit? h
  simp only [isBlank, Bool.or_eq_false_iff, Bool.and_eq_false_iff,
    decide_eq_false_iff_not, beq_eq_false_iff_ne]
  omega

/-- There are no blanks in digits with a plus sign before them. -/
theorem clean_of_signed {base n : Nat} {sign digits : List Char}
    (hsign : sign = [] ∨ sign = ['+']) (h : Spells base digits n) :
    Clean (sign ++ digits) := by
  refine Clean.append ?_ fun c hc => isBlank_of_digit? (digit?_of_spells h hc)
  rcases hsign with rfl | rfl
  · exact List.forall_mem_nil _
  · intro c hc
    rw [List.mem_singleton.1 hc]
    decide

theorem digit?_plus (base : Nat) : digit? base '+' = none := by
  simp [digit?]

theorem not_spells_plus {base n : Nat} {cs : List Char} :
    ¬ Spells base ('+' :: cs) n := by
  rintro ⟨_, values, hvalues, _⟩
  cases values with
  | nil => simp at hvalues
  | cons d values => simp [digit?_plus] at hvalues

theorem unsigned_of_spells {base n : Nat} {cs : List Char} (h : Spells base cs n) :
    unsigned cs = cs := by
  unfold unsigned
  split
  · exact absurd h not_spells_plus
  · rfl

theorem numeral?_eq_some_iff_unsigned {base bound n : Nat} {text : String} :
    numeral? base bound text = some n ↔
      Spells base (unsigned text.toList) n ∧ n < bound := by
  unfold numeral?
  split
  · next h => simp [h, Spells]
  · next h =>
    rw [← digits?_zero_eq_some_iff h]
    split
    · next value hvalue =>
      rw [hvalue]
      by_cases hlt : value < bound
      · simp only [if_pos hlt, Option.some.injEq]
        exact ⟨fun heq => ⟨heq, heq ▸ hlt⟩, fun h => h.1⟩
      · simp only [if_neg hlt, Option.some.injEq]
        constructor
        · intro hnone
          cases hnone
        · rintro ⟨rfl, hn⟩
          exact absurd hn hlt
    · next hnone => simp [hnone]

/-- The numerals that are read, and their values. -/
theorem numeral?_eq_some_iff {base bound n : Nat} {text : String} :
    numeral? base bound text = some n ↔
      ∃ sign digits, text.toList = sign ++ digits ∧
        (sign = [] ∨ sign = ['+']) ∧ Spells base digits n ∧ n < bound := by
  rw [numeral?_eq_some_iff_unsigned]
  constructor
  · rintro ⟨hspells, hlt⟩
    unfold unsigned at hspells
    split at hspells
    · next cs hcs => exact ⟨['+'], cs, hcs, .inr rfl, hspells, hlt⟩
    · exact ⟨[], text.toList, rfl, .inl rfl, hspells, hlt⟩
  · rintro ⟨sign, digits, hsplit, rfl | rfl, hspells, hlt⟩
    · rw [hsplit, List.nil_append, unsigned_of_spells hspells]
      exact ⟨hspells, hlt⟩
    · rw [hsplit]
      exact ⟨hspells, hlt⟩

theorem clean_of_numeral? {base bound n : Nat} {text : String}
    (h : numeral? base bound text = some n) : Clean text.toList := by
  obtain ⟨sign, digits, hsplit, hsign, hspells, _⟩ := numeral?_eq_some_iff.1 h
  rw [hsplit]
  exact clean_of_signed hsign hspells

/-! ## Writing numerals -/

theorem digits?_append (base value : Nat) (cs ds : List Char) :
    digits? base value (cs ++ ds) =
      (digits? base value cs).bind fun reached => digits? base reached ds := by
  induction cs generalizing value with
  | nil => rfl
  | cons c cs ih =>
      simp only [List.cons_append, digits?]
      cases digit? base c with
      | none => rfl
      | some d => exact ih (base * value + d)

/-- A digit that is written is read as its value, in both bases of use. -/
theorem digit?_digitChar {base d : Nat} (hbase : base = 10 ∨ base = 16)
    (hd : d < base) : digit? base d.digitChar = some d := by
  have hall : (∀ d < 10, digit? 10 (Nat.digitChar d) = some d) ∧
      ∀ d < 16, digit? 16 (Nat.digitChar d) = some d := by decide
  rcases hbase with rfl | rfl
  · exact hall.1 d hd
  · exact hall.2 d hd

theorem digits?_toDigits {base : Nat} (hbase : base = 10 ∨ base = 16) (n : Nat) :
    digits? base 0 (Nat.toDigits base n) = some n := by
  have hone : 1 < base := by omega
  induction n using Nat.strongRecOn with
  | ind n ih =>
      by_cases hlt : n < base
      · simp [Nat.toDigits_of_lt_base hlt, digits?, digit?_digitChar hbase hlt]
      · have hle : base ≤ n := Nat.le_of_not_lt hlt
        have hmod : n % base < base := Nat.mod_lt n (by omega)
        have hdiv : n / base < n := Nat.div_lt_self (by omega) hone
        rw [Nat.toDigits_of_base_le hone hle, digits?_append, ih _ hdiv]
        simp only [Option.bind_some, digits?, digit?_digitChar hbase hmod]
        rw [Nat.div_add_mod]

theorem digit?_of_mem_toDigits {base n : Nat} (hbase : base = 10 ∨ base = 16)
    {c : Char} (hc : c ∈ Nat.toDigits base n) : (digit? base c).isSome :=
  digit?_of_spells
    ((digits?_zero_eq_some_iff Nat.toDigits_ne_nil).1 (digits?_toDigits hbase n)) hc

/-- What is written in decimal is read as the same number. -/
theorem numeral?_decimal {bound n : Nat} (h : n < bound) :
    numeral? 10 bound (decimal n) = some n := by
  have hspells : Spells 10 (Nat.toDigits 10 n) n :=
    (digits?_zero_eq_some_iff Nat.toDigits_ne_nil).1 (digits?_toDigits (.inl rfl) n)
  exact numeral?_eq_some_iff.2
    ⟨[], Nat.toDigits 10 n, by simp [decimal], .inl rfl, hspells, h⟩

theorem length_toDigits_of_three {n : Nat} (hleast : 100 ≤ n) (hbelow : n < 1000) :
    (Nat.toDigits 10 n).length = 3 := by
  have hmost : (Nat.toDigits 10 n).length ≤ 3 :=
    (Nat.length_toDigits_le_iff (by decide) (by decide)).2 hbelow
  have hmore : ¬ (Nat.toDigits 10 n).length ≤ 2 := by
    rw [Nat.length_toDigits_le_iff (by decide) (by decide)]
    omega
  omega

theorem clean_decimal (n : Nat) : Clean (decimal n).toList := by
  intro c hc
  rw [decimal, String.toList_ofList] at hc
  exact isBlank_of_digit? (digit?_of_mem_toDigits (.inl rfl) hc)

theorem decimal_ne_empty (n : Nat) : decimal n ≠ "" := by
  intro h
  have hlist := congrArg String.toList h
  rw [decimal, String.toList_ofList] at hlist
  exact Nat.toDigits_ne_nil hlist

theorem toNat_lt_of_mem_decimal {n : Nat} {c : Char} (hc : c ∈ (decimal n).toList) :
    c.toNat < 128 := by
  rw [decimal, String.toList_ofList] at hc
  have hrange := toNat_of_digit? (digit?_of_mem_toDigits (.inl rfl) hc)
  omega

end Text

end Intermediary
