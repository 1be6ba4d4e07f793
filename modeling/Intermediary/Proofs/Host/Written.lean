import Intermediary.Host
import Intermediary.Proofs.Text.Numeral

/-!
# The texts of hosts

The one text of a host holds no blank and none of the characters that end or
divide an authority, whichever way the host was spelled.
-/

namespace Intermediary

open Text

namespace Host

def IsHostChar (c : Char) : Prop :=
  isBlank c = false ∧ c ∉ ['/', '@', '?', '#', '\\', '[', ']']

def AllHostChars (cs : List Char) : Prop :=
  ∀ c ∈ cs, IsHostChar c

def AllAscii (cs : List Char) : Prop :=
  ∀ c ∈ cs, c.toNat < 128

theorem mem_intercalate {α : Type} {separator : List α} {parts : List (List α)} {a : α}
    (h : a ∈ separator.intercalate parts) :
    a ∈ separator ∨ ∃ part ∈ parts, a ∈ part := by
  induction parts with
  | nil => cases h
  | cons part rest ih =>
      cases rest with
      | nil =>
          rw [List.intercalate_singleton] at h
          exact .inr ⟨part, List.mem_cons_self, h⟩
      | cons next rest =>
          rw [List.intercalate_cons_cons] at h
          rcases List.mem_append.1 h with h | h
          · rcases List.mem_append.1 h with h | h
            · exact .inr ⟨part, List.mem_cons_self, h⟩
            · exact .inl h
          · rcases ih h with h | ⟨other, hmem, h⟩
            · exact .inl h
            · exact .inr ⟨other, List.mem_cons_of_mem part hmem, h⟩

theorem mem_intercalate_of_mem {α : Type} {separator : List α} {parts : List (List α)}
    {part : List α} (hpart : part ∈ parts) {a : α} (ha : a ∈ part) :
    a ∈ separator.intercalate parts := by
  induction parts with
  | nil => cases hpart
  | cons first rest ih =>
      cases rest with
      | nil =>
          rw [List.intercalate_singleton, ← List.mem_singleton.1 hpart]
          exact ha
      | cons next rest =>
          rw [List.intercalate_cons_cons]
          rcases List.mem_cons.1 hpart with rfl | hpart
          · exact List.mem_append_left _ (List.mem_append_left _ ha)
          · exact List.mem_append_right _ (ih hpart)

theorem AllHostChars.append {as bs : List Char} (ha : AllHostChars as)
    (hb : AllHostChars bs) : AllHostChars (as ++ bs) :=
  List.forall_mem_append.2 ⟨ha, hb⟩

theorem AllHostChars.not_mem {cs : List Char} (h : AllHostChars cs) {c : Char}
    (hc : c ∈ ['/', '@', '?', '#', '\\', '[', ']']) : c ∉ cs :=
  fun hmem => (h c hmem).2 hc

private theorem allHostChars_intercalate {separator : String} {parts : List String}
    (hseparator : AllHostChars separator.toList)
    (hparts : ∀ part ∈ parts, AllHostChars part.toList) :
    AllHostChars (separator.intercalate parts).toList := by
  intro c hc
  rw [String.toList_intercalate] at hc
  rcases mem_intercalate hc with hc | ⟨cs, hcs, hc⟩
  · exact hseparator c hc
  · obtain ⟨part, hpart, rfl⟩ := List.mem_map.1 hcs
    exact hparts part hpart c hc

/-! ## Addresses -/

theorem isHostChar_of_digit? {base : Nat} {c : Char} (h : (digit? base c).isSome) :
    IsHostChar c := by
  refine ⟨isBlank_of_digit? h, fun hmem => ?_⟩
  have hrange := toNat_of_digit? h
  have hnat : c.toNat ∈ ['/', '@', '?', '#', '\\', '[', ']'].map Char.toNat :=
    List.mem_map_of_mem hmem
  simp only [List.map_cons, List.map_nil, List.mem_cons, List.not_mem_nil, or_false,
    Char.reduceToNat] at hnat
  omega

theorem allHostChars_decimal (n : Nat) : AllHostChars (decimal n).toList := by
  intro c hc
  rw [decimal, String.toList_ofList] at hc
  exact isHostChar_of_digit? (digit?_of_mem_toDigits (.inl rfl) hc)

private theorem allHostChars_hexadecimal (n : Nat) : AllHostChars (hexadecimal n).toList := by
  intro c hc
  rw [hexadecimal, String.toList_ofList] at hc
  exact isHostChar_of_digit? (digit?_of_mem_toDigits (.inr rfl) hc)

theorem isHostChar_dot : IsHostChar '.' := by
  constructor <;> decide

theorem isHostChar_colon : IsHostChar ':' := by
  constructor <;> decide

private theorem allHostChars_renderIpv4 (address : Nat) :
    AllHostChars (renderIpv4 address).toList := by
  refine allHostChars_intercalate (List.forall_mem_singleton.2 isHostChar_dot) ?_
  intro part hpart
  obtain ⟨shift, _, rfl⟩ := List.mem_map.1 hpart
  exact allHostChars_decimal _

private theorem allHostChars_renderGroups (groups : List Nat) :
    AllHostChars (renderGroups groups).toList := by
  refine allHostChars_intercalate (List.forall_mem_singleton.2 isHostChar_colon) ?_
  intro part hpart
  obtain ⟨group, _, rfl⟩ := List.mem_map.1 hpart
  exact allHostChars_hexadecimal group

private theorem allHostChars_renderIpv6 (groups : List Nat) :
    AllHostChars (renderIpv6 groups).toList := by
  have hembedding : AllHostChars "::ffff:".toList := by
    intro c hc
    have hf : IsHostChar 'f' := @isHostChar_of_digit? 16 'f' (by decide)
    simp only [String.reduceToList, List.mem_cons, List.not_mem_nil, or_false] at hc
    rcases hc with rfl | rfl | rfl | rfl | rfl | rfl | rfl <;>
      first | exact isHostChar_colon | exact hf
  have hgap : AllHostChars "::".toList :=
    List.forall_mem_cons.2 ⟨isHostChar_colon, List.forall_mem_singleton.2 isHostChar_colon⟩
  unfold renderIpv6
  split
  · rw [String.toList_append]
    exact hembedding.append (allHostChars_renderIpv4 _)
  · rcases longestGap 0 groups with ⟨place, length⟩
    dsimp only
    split
    · rw [String.toList_append, String.toList_append]
      exact ((allHostChars_renderGroups _).append hgap).append
        (allHostChars_renderGroups _)
    · exact allHostChars_renderGroups groups

/-! ## Names -/

namespace Punycode

private theorem toNat_digit_lt {value : Nat} (h : value < base) : (digit value).toNat < 128 := by
  have hall : ∀ value < 36, (digit value).toNat < 128 := by decide
  exact hall value h

private theorem ascii_writeDistance (bias place distance : Nat) :
    AllAscii (writeDistance bias place distance) := by
  have hlt := threshold_lt bias place
  rw [writeDistance]
  split
  · next hsmall => exact List.forall_mem_singleton.2 (toNat_digit_lt (by omega))
  · have hmod := Nat.mod_lt (distance - threshold bias place)
      (show 0 < base - threshold bias place by omega)
    exact List.forall_mem_cons.2 ⟨toNat_digit_lt (by omega), ascii_writeDistance _ _ _⟩
termination_by distance
decreasing_by
  have hpos := threshold_pos bias place
  exact Nat.lt_of_le_of_lt (Nat.div_le_self _ _) (by omega)

private theorem ascii_pass {basic point : Nat} {writer : Writer} {c : Char}
    (h : AllAscii writer.output) : AllAscii (writer.pass basic point c).output := by
  unfold Writer.pass
  split
  · exact h
  · split
    · refine List.forall_mem_append.2 ⟨fun d hd => ?_, h⟩
      exact ascii_writeDistance _ _ _ d (List.mem_reverse.1 hd)
    · exact h

private theorem ascii_foldl_pass {basic point : Nat} {cs : List Char} {writer : Writer}
    (h : AllAscii writer.output) :
    AllAscii (cs.foldl (Writer.pass basic point) writer).output := by
  induction cs generalizing writer with
  | nil => exact h
  | cons c cs ih => exact ih (ascii_pass h)

private theorem ascii_writePoints {cs : List Char} {basic reached : Nat} {points : List Nat}
    {writer : Writer} (h : AllAscii writer.output) :
    AllAscii (writePoints cs basic reached points writer).output := by
  induction points generalizing reached writer with
  | nil => exact h
  | cons point points ih =>
      unfold writePoints
      exact ih (ascii_foldl_pass h)

private theorem ascii_encode (cs : List Char) : AllAscii (encode cs) := by
  have hbasic : AllAscii (cs.filter (·.toNat < initialPoint)) := by
    intro c hc
    exact of_decide_eq_true (List.mem_filter.1 hc).2
  unfold encode
  refine List.forall_mem_append.2 ⟨?_, fun c hc => ?_⟩
  · split
    · exact List.forall_mem_nil _
    · exact List.forall_mem_append.2 ⟨hbasic, List.forall_mem_singleton.2 (by decide)⟩
  · refine ascii_writePoints ?_ c (List.mem_reverse.1 hc)
    exact List.forall_mem_nil _

end Punycode

namespace Idna

private theorem ascii_encodeLabel (label : List Char) : AllAscii (encodeLabel label) := by
  unfold encodeLabel
  split
  · next hall =>
    intro c hc
    simpa [isAscii] using List.all_eq_true.1 hall c hc
  · have hstart : ∀ c ∈ encodedStart, isAscii c = true :=
      List.all_eq_true.1 (by decide)
    refine List.forall_mem_append.2 ⟨fun c hc => ?_, Punycode.ascii_encode label⟩
    simpa [isAscii] using hstart c hc

theorem chars_of_assemble {labels : List (List Char)} {ascii : String}
    (h : assemble labels = some ascii) :
    AllAscii ascii.toList ∧ ∀ c ∈ ascii.toList, isForbidden c = false := by
  unfold assemble at h
  split at h
  · dsimp only at h
    split at h
    · cases h
    · next hforbidden =>
      cases h
      rw [String.toList_ofList]
      refine ⟨fun c hc => ?_, fun c hc => ?_⟩
      · rcases mem_intercalate hc with hc | ⟨part, hpart, hc⟩
        · rw [List.mem_singleton.1 hc]
          decide
        · obtain ⟨label, _, rfl⟩ := List.mem_map.1 hpart
          exact ascii_encodeLabel label c hc
      · rw [Bool.not_eq_true, List.any_eq_false] at hforbidden
        simpa using hforbidden c hc
  · cases h

end Idna

private theorem isHostChar_toLower {c : Char} (hascii : c.toNat < 128)
    (h : Idna.isForbidden c = false) : IsHostChar c.toLower := by
  have hall : ∀ n < 128, Idna.isForbidden (Char.ofNat n) = false ->
      isBlank (Char.ofNat n).toLower = false ∧
        (Char.ofNat n).toLower ∉ ['/', '@', '?', '#', '\\', '[', ']'] := by
    decide
  have hc := hall c.toNat hascii
  rw [Char.ofNat_toNat] at hc
  exact hc h

private theorem allHostChars_name {spelled ascii : String}
    (h : Idna.toAscii spelled = some ascii) : AllHostChars (lower ascii).toList := by
  obtain ⟨mapped, _, h⟩ := Option.bind_eq_some_iff.1 h
  obtain ⟨labels, _, h⟩ := Option.bind_eq_some_iff.1 h
  obtain ⟨hascii, hallowed⟩ := Idna.chars_of_assemble h
  intro c hc
  rw [lower, String.toList_ofList] at hc
  obtain ⟨d, hd, rfl⟩ := List.mem_map.1 hc
  exact isHostChar_toLower (hascii d hd) (hallowed d hd)

/-- Whatever a host is and however it was spelled, its text has host characters only. -/
theorem allHostChars_text {spelled : String} {host : Host}
    (h : ofText spelled = .ok host) : AllHostChars host.text.toList := by
  have haddress : ∀ {host : Host}, (∀ ascii, host ≠ .name ascii) ->
      AllHostChars host.text.toList := by
    intro host hname
    cases host with
    | name ascii => exact absurd rfl (hname ascii)
    | ipv4 address => exact allHostChars_renderIpv4 address
    | ipv6 groups => exact allHostChars_renderIpv6 groups
  unfold ofText at h
  split at h
  · unfold ofBracketed at h
    split at h
    · split at h
      · cases h
        exact haddress fun _ hname => by cases hname
      · cases h
    · cases h
  · unfold ofName at h
    split at h
    · cases h
    · split at h
      · cases h
      · next ascii hascii =>
        split at h
        · cases h
        · split at h
          · split at h
            · cases h
              exact haddress fun _ hname => by cases hname
            · cases h
          · cases h
            exact allHostChars_name hascii

private theorem Idna.toAscii_empty : toAscii "" = some "" := by
  have hcompose : Normal.compose [] = [] := rfl
  have hallowed : labelAllowed [] = true := rfl
  have hdecode : decodeLabel [] = some [] := rfl
  have hassemble : assemble [[]] = some "" := by
    simp [assemble, hallowed, isBidirectional, encodeLabel]
  simp [toAscii, hcompose, hdecode, hassemble]

theorem ofText_empty : ofText "" = .error .empty := by
  have hdecoded : Bytes.text? (percentDecode (Bytes.ofText "")) = some "" := by
    decide
  simp only [ofText, String.toList_empty]
  unfold ofName
  rw [hdecoded]
  simp only [Idna.toAscii_empty, if_true]

end Host

end Intermediary
