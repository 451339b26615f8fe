/-! Letter case of the ASCII alphabet, the only case that names and keywords ignore. -/

namespace RecordFilter.Text

/-- The text with its ASCII capitals made small. -/
def lowered (text : String) : String :=
  -- Characters outside the ASCII alphabet keep their case.
  String.ofList (text.toList.map Char.toLower)

/-- Two texts agree when they differ at most in the case of ASCII letters. -/
def agree (left right : String) : Bool :=
  -- Comparing the lowered characters leaves every other character significant.
  left.toList.map Char.toLower == right.toList.map Char.toLower

/-- Every text agrees with itself. -/
theorem agree_refl (text : String) : agree text text = true := by
  simp [agree]

/-- Agreement has no direction. -/
theorem agree_comm (left right : String) : agree left right = agree right left := by
  simp [agree, Bool.beq_comm]

/-- Texts that agree with a third one agree with each other. -/
theorem agree_trans {left middle right : String} (first : agree left middle = true)
    (second : agree middle right = true) : agree left right = true := by
  simp only [agree, beq_iff_eq] at first second ⊢
  exact first.trans second

end RecordFilter.Text
