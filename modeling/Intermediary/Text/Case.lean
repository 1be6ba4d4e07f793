/-!
# Texts up to ASCII case

Field names, schemes and directive names are compared without regard to the
case of ASCII letters.  Every other character is compared as it stands.
-/

namespace Intermediary

namespace Text

/-- The text with its ASCII capital letters made small. -/
def lower (text : String) : String :=
  String.ofList (text.toList.map Char.toLower)

/-- Equality up to the case of ASCII letters. -/
def sameIgnoringCase (a b : String) : Bool :=
  lower a == lower b

theorem sameIgnoringCase_refl (a : String) : sameIgnoringCase a a = true := by
  simp [sameIgnoringCase]

theorem sameIgnoringCase_comm (a b : String) :
    sameIgnoringCase a b = sameIgnoringCase b a :=
  BEq.comm

theorem sameIgnoringCase_trans {a b c : String}
    (hab : sameIgnoringCase a b = true)
    (hbc : sameIgnoringCase b c = true) :
    sameIgnoringCase a c = true := by
  simp only [sameIgnoringCase, beq_iff_eq] at *
  exact hab.trans hbc

theorem sameIgnoringCase_congr_left {a b : String} (h : sameIgnoringCase a b = true)
    (other : String) : sameIgnoringCase a other = sameIgnoringCase b other := by
  simp only [sameIgnoringCase, beq_iff_eq] at *
  rw [h]

theorem sameIgnoringCase_congr_right {a b : String} (h : sameIgnoringCase a b = true)
    (other : String) : sameIgnoringCase other a = sameIgnoringCase other b := by
  simp only [sameIgnoringCase, beq_iff_eq] at *
  rw [h]

end Text

end Intermediary
