import LineTemplate.Unicode.Casing
import LineTemplate.Unicode.Category

/-!
# Characters with case

The characters that are used as upper-case or lower-case letters, and those that a change of case
changes, by Unicode 16.0.
-/

namespace LineTemplate.Unicode

/-- The code points that are lower-case without being lower-case letters. -/
def otherLowercaseRanges : Ranges := .ofTable "
  AA BA 2B0-2B8 2C0-2C1 2E0-2E4 345 37A 10FC 1D2C-1D6A 1D78 1D9B-1DBF 2071 207F 2090-209C
  2170-217F 24D0-24E9 2C7C-2C7D A69C-A69D A770 A7F2-A7F4 A7F8-A7F9 AB5C-AB5F AB69 10780
  10783-10785 10787-107B0 107B2-107BA 1E030-1E06D"

/-- The code points that are upper-case without being upper-case letters. -/
def otherUppercaseRanges : Ranges := .ofTable "
  2160-216F 24B6-24CF 1F130-1F149 1F150-1F169 1F170-1F189"

/-- Lower-case letters, and characters that are used as such. -/
def lowercaseRanges : Ranges :=
  Category.ll.ranges.union otherLowercaseRanges

/-- Upper-case letters, and characters that are used as such. -/
def uppercaseRanges : Ranges :=
  Category.lu.ranges.union otherUppercaseRanges

/-- Characters that are not their own lower-case form. -/
def changedByLowercaseRanges : Ranges :=
  (Ranges.ofCodes (lowerShifts.flatMap Shift.codes)).union (.ofTable "130")

/-- Characters that are not their own upper-case form. -/
def changedByUppercaseRanges : Ranges :=
  (Ranges.ofCodes (upperShifts.flatMap Shift.codes)).union
    (.ofCodes (upperSpellings.map (·.1)))

/-- Characters that are not their own title-case form: those that are not their own upper-case form,
except the digraphs and letters in title case and the letters that have none. -/
def changedByTitlecaseRanges : Ranges :=
  (changedByUppercaseRanges.diff (.ofTable "
    1C5 1C8 1CB 1F2 10D0-10FA 10FD-10FF 1F88-1F8F 1F98-1F9F 1FA8-1FAF 1FBC 1FCC 1FFC")).union
      (.ofTable "1C4 1C7 1CA 1F1")

/-- Characters that case folding changes: those with a lower-case form, except the Cherokee letters
that others fold to, and lower-case characters that fold to others. -/
def changedByFoldingRanges : Ranges :=
  (changedByLowercaseRanges.union (.ofTable "
    B5 DF 149 17F 345 3C2 3D0-3D1 3D5-3D6 3F0-3F1 3F5 587 13F8-13FD 1C80-1C88 1E9A-1E9B 1F80-1F87
    1F90-1F97 1FA0-1FA7 1FB2-1FB4 1FB7 1FC2-1FC4 1FC7 1FF2-1FF4 1FF7 AB70-ABBF FB00-FB06
    FB13-FB17")).diff (.ofTable "13A0-13F5")

/-- Characters that some change of case changes. -/
def changedByCasingRanges : Ranges :=
  .unions [changedByLowercaseRanges, changedByUppercaseRanges, changedByTitlecaseRanges]

end LineTemplate.Unicode
