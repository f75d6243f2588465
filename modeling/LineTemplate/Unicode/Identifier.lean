import LineTemplate.Unicode.Category

/-!
# Identifiers

The characters that identifiers are made of, and those that patterns keep for their own syntax, by
Unicode 16.0.
-/

namespace LineTemplate.Unicode

def patternSyntaxRanges : Ranges := .ofTable "
  21-2F 3A-40 5B-5E 60 7B-7E A1-A7 A9 AB-AC AE B0-B1 B6 BB BF D7 F7 2010-2027 2030-203E 2041-2053
  2055-205E 2190-245F 2500-2775 2794-2BFF 2E00-2E7F 3001-3003 3008-3020 3030 FD3E-FD3F FE45-FE46"

def patternBlankRanges : Ranges := .ofTable "9-D 20 85 200E-200F 2028-2029"

/-- Characters that were once letters and still start identifiers. -/
def otherIdStartRanges : Ranges := .ofTable "1885-1886 2118 212E 309B-309C"

/-- Characters that are no letters and still continue identifiers. -/
def otherIdContinueRanges : Ranges := .ofTable "B7 387 1369-1371 19DA 200C-200D 30FB FF65"

/-- Characters that start identifiers: letters and numerals that are letters. -/
def idStartRanges : Ranges :=
  ((Category.rangesOf [.lu, .ll, .lt, .lm, .lo, .nl]).union otherIdStartRanges).diff
    (patternSyntaxRanges.union patternBlankRanges)

/-- Characters that continue identifiers: those that start them, marks, digits and connectors. -/
def idContinueRanges : Ranges :=
  .unions [idStartRanges, Category.rangesOf [.mn, .mc, .nd, .pc], otherIdContinueRanges]

/-- Characters that start identifiers, also after a compatibility normalization. -/
def xidStartRanges : Ranges :=
  idStartRanges.diff (.ofTable "
    37A E33 EB3 309B-309C FC5E-FC63 FDFA-FDFB FE70 FE72 FE74 FE76 FE78 FE7A FE7C FE7E FF9E-FF9F")

/-- Characters that continue identifiers, also after a compatibility normalization. -/
def xidContinueRanges : Ranges :=
  idContinueRanges.diff (.ofTable "
    37A 309B-309C FC5E-FC63 FDFA-FDFB FE70 FE72 FE74 FE76 FE78 FE7A FE7C FE7E")

end LineTemplate.Unicode
