import LineTemplate.Unicode.Script

/-!
# Script extensions

The characters that are used with several scripts, or with others than the script that they have,
by Unicode 16.0.
-/

namespace LineTemplate.Unicode

/-- Characters that are used with the same scripts. -/
structure ScriptExtension where
  /-- The codes of the scripts. -/
  scripts : List String
  /-- The characters. -/
  ranges : Ranges

/-- The characters whose scripts are not just the one that they have. -/
def scriptExtensions : List ScriptExtension := [
  ⟨["avst", "cari", "copt", "dupl", "elba", "geor", "glag", "gong", "goth", "grek", "hani", "latn",
    "lydi", "mahj", "perm", "shaw"], .ofTable "B7"⟩,
  ⟨["beng", "cyrl", "deva", "latn", "lisu", "thai", "toto"], .ofTable "2BC"⟩,
  ⟨["bopo", "latn"], .ofTable "2C7 2C9-2CB 2D9"⟩,
  ⟨["latn", "lisu"], .ofTable "2CD"⟩,
  ⟨["latn", "thai"], .ofTable "2D7"⟩,
  ⟨["cher", "copt", "cyrl", "grek", "latn", "perm", "sunu", "tale"], .ofTable "300"⟩,
  ⟨["cher", "cyrl", "grek", "latn", "osge", "sunu", "tale", "todr"], .ofTable "301"⟩,
  ⟨["cher", "cyrl", "latn", "tfng"], .ofTable "302"⟩,
  ⟨["glag", "latn", "sunu", "syrc", "thai"], .ofTable "303"⟩,
  ⟨["aghb", "cher", "copt", "cyrl", "goth", "grek", "latn", "osge", "syrc", "tfng", "todr"],
    .ofTable "304"⟩,
  ⟨["copt", "elba", "glag", "goth", "kana", "latn"], .ofTable "305"⟩,
  ⟨["cyrl", "grek", "latn", "perm", "tfng"], .ofTable "306"⟩,
  ⟨["copt", "dupl", "hebr", "latn", "perm", "syrc", "tale", "tfng", "todr"], .ofTable "307"⟩,
  ⟨["armn", "cyrl", "dupl", "goth", "grek", "hebr", "latn", "perm", "syrc", "tale", "tfng"],
    .ofTable "308"⟩,
  ⟨["latn", "tfng"], .ofTable "309"⟩,
  ⟨["dupl", "latn", "syrc"], .ofTable "30A"⟩,
  ⟨["cher", "cyrl", "latn", "osge"], .ofTable "30B"⟩,
  ⟨["cher", "latn", "tale"], .ofTable "30C"⟩,
  ⟨["latn", "sunu"], .ofTable "30D 310"⟩,
  ⟨["ethi", "latn"], .ofTable "30E"⟩,
  ⟨["cyrl", "latn", "todr"], .ofTable "311"⟩,
  ⟨["grek", "latn", "perm", "todr"], .ofTable "313"⟩,
  ⟨["cher", "dupl", "kana", "latn", "syrc", "tfng"], .ofTable "323"⟩,
  ⟨["cher", "dupl", "latn", "syrc"], .ofTable "324"⟩,
  ⟨["latn", "syrc"], .ofTable "325 32E"⟩,
  ⟨["latn", "sunu", "syrc"], .ofTable "32D"⟩,
  ⟨["cher", "latn", "syrc"], .ofTable "330"⟩,
  ⟨["aghb", "cher", "goth", "latn", "sunu", "syrc", "thai"], .ofTable "331"⟩,
  ⟨["grek"], .ofTable "342 345 1DC0-1DC1"⟩,
  ⟨["latn", "osge"], .ofTable "358"⟩,
  ⟨["aghb", "latn", "todr"], .ofTable "35E"⟩,
  ⟨["latn"], .ofTable "363-36F"⟩,
  ⟨["copt", "grek"], .ofTable "374-375"⟩,
  ⟨["cyrl", "perm"], .ofTable "483"⟩,
  ⟨["cyrl", "glag"], .ofTable "484 487 2E43 A66F"⟩,
  ⟨["cyrl", "latn"], .ofTable "485-486"⟩,
  ⟨["armn", "geor", "glag"], .ofTable "589"⟩,
  ⟨["arab", "gara", "nkoo", "rohg", "syrc", "thaa", "yezi"], .ofTable "60C 61B"⟩,
  ⟨["arab", "syrc", "thaa"], .ofTable "61C"⟩,
  ⟨["adlm", "arab", "gara", "nkoo", "rohg", "syrc", "thaa", "yezi"], .ofTable "61F"⟩,
  ⟨["adlm", "arab", "mand", "mani", "ougr", "phlp", "rohg", "sogd", "syrc"], .ofTable "640"⟩,
  ⟨["arab", "syrc"], .ofTable "64B-655 670"⟩,
  ⟨["arab", "thaa", "yezi"], .ofTable "660-669"⟩,
  ⟨["arab", "rohg"], .ofTable "6D4"⟩,
  ⟨["beng", "deva", "gran", "gujr", "guru", "knda", "latn", "mlym", "nand", "newa", "orya", "shrd",
    "taml", "telu", "tirh"], .ofTable "951"⟩,
  ⟨["beng", "deva", "gran", "gujr", "guru", "knda", "latn", "mlym", "newa", "orya", "taml", "telu",
    "tirh"], .ofTable "952"⟩,
  ⟨["beng", "deva", "dogr", "gong", "gonm", "gran", "gujr", "guru", "knda", "mahj", "mlym", "nand",
    "onao", "orya", "sind", "sinh", "sylo", "takr", "taml", "telu", "tirh"], .ofTable "964"⟩,
  ⟨["beng", "deva", "dogr", "gong", "gonm", "gran", "gujr", "gukh", "guru", "knda", "limb", "mahj",
    "mlym", "nand", "onao", "orya", "sind", "sinh", "sylo", "takr", "taml", "telu", "tirh"],
    .ofTable "965"⟩,
  ⟨["deva", "dogr", "kthi", "mahj"], .ofTable "966-96F"⟩,
  ⟨["beng", "cakm", "sylo"], .ofTable "9E6-9EF"⟩,
  ⟨["guru", "mult"], .ofTable "A66-A6F"⟩,
  ⟨["gujr", "khoj"], .ofTable "AE6-AEF"⟩,
  ⟨["gran", "taml"], .ofTable "BE6-BF3 11301 11303 1133B-1133C 11FD0-11FD1 11FD3"⟩,
  ⟨["knda", "nand", "tutg"], .ofTable "CE6-CEF"⟩,
  ⟨["cakm", "mymr", "tale"], .ofTable "1040-1049"⟩,
  ⟨["geor", "glag", "latn"], .ofTable "10FB"⟩,
  ⟨["runr"], .ofTable "16EB-16ED"⟩,
  ⟨["buhd", "hano", "tagb", "tglg"], .ofTable "1735-1736"⟩,
  ⟨["mong", "phag"], .ofTable "1802-1803 1805"⟩,
  ⟨["beng", "deva", "gran", "knda"], .ofTable "1CD0 1CD2"⟩,
  ⟨["deva"], .ofTable "1CD1 1CD4 1CDB 1CDE-1CDF 1CE3-1CE8 1CEC 1CEE-1CF1"⟩,
  ⟨["deva", "gran", "knda"], .ofTable "1CD3"⟩,
  ⟨["beng", "deva", "newa", "telu", "tirh"], .ofTable "1CD5"⟩,
  ⟨["beng", "deva", "telu"], .ofTable "1CD6"⟩,
  ⟨["deva", "newa", "shrd"], .ofTable "1CD7"⟩,
  ⟨["beng", "deva", "newa", "telu"], .ofTable "1CD8"⟩,
  ⟨["deva", "shrd"], .ofTable "1CD9 1CDC-1CDD 1CE0"⟩,
  ⟨["deva", "knda", "mlym", "orya", "taml", "telu"], .ofTable "1CDA"⟩,
  ⟨["beng", "deva"], .ofTable "1CE1 1CF5-1CF6"⟩,
  ⟨["deva", "newa", "tirh"], .ofTable "1CE2"⟩,
  ⟨["deva", "nand", "newa"], .ofTable "1CE9"⟩,
  ⟨["beng", "deva", "shrd"], .ofTable "1CEA"⟩,
  ⟨["deva", "newa"], .ofTable "1CEB"⟩,
  ⟨["beng", "deva", "newa", "shrd"], .ofTable "1CED"⟩,
  ⟨["beng", "deva", "gran", "knda", "mlym", "nand", "orya", "sinh", "telu", "tirh", "tutg"],
    .ofTable "1CF2"⟩,
  ⟨["deva", "gran"], .ofTable "1CF3 1CF8-1CF9"⟩,
  ⟨["deva", "gran", "knda", "tutg"], .ofTable "1CF4"⟩,
  ⟨["beng"], .ofTable "1CF7"⟩,
  ⟨["nand"], .ofTable "1CFA"⟩,
  ⟨["cyrl", "latn", "syrc"], .ofTable "1DF8"⟩,
  ⟨["syrc"], .ofTable "1DFA"⟩,
  ⟨["latn", "mong", "phag"], .ofTable "202F"⟩,
  ⟨["adlm", "arab"], .ofTable "204F"⟩,
  ⟨["cari", "geor", "glag", "hung", "lyci", "orkh"], .ofTable "205A"⟩,
  ⟨["cari", "grek", "hung", "mero"], .ofTable "205D"⟩,
  ⟨["deva", "gran", "latn"], .ofTable "20F0"⟩,
  ⟨["copt", "latn"], .ofTable "2E17"⟩,
  ⟨["avst", "orkh"], .ofTable "2E30"⟩,
  ⟨["avst", "cari", "geor", "hung", "kthi", "lydi", "samr"], .ofTable "2E31"⟩,
  ⟨["dupl"], .ofTable "2E3C 1BCA0-1BCA3"⟩,
  ⟨["adlm", "arab", "hung"], .ofTable "2E41"⟩,
  ⟨["hani", "tang"], .ofTable "2FF0-2FFF 31EF"⟩,
  ⟨["bopo", "hang", "hani", "hira", "kana", "mong", "yiii"], .ofTable "3001"⟩,
  ⟨["bopo", "hang", "hani", "hira", "kana", "mong", "phag", "yiii"], .ofTable "3002"⟩,
  ⟨["bopo", "hang", "hani", "hira", "kana"], .ofTable "3003 3013 301C-301F 3030 3037 FE45-FE46"⟩,
  ⟨["hani"], .ofTable "
    3006 303E-303F 3190-319F 31C0-31E5 3220-3247 3280-32B0 32C0-32CB 32FF 3358-3370 337B-337F
    33E0-33FE 1D360-1D371 1F250-1F251"⟩,
  ⟨["bopo", "hang", "hani", "hira", "kana", "mong", "tibt", "yiii"], .ofTable "3008-3009"⟩,
  ⟨["bopo", "hang", "hani", "hira", "kana", "lisu", "mong", "tibt", "yiii"], .ofTable "300A-300B"⟩,
  ⟨["bopo", "hang", "hani", "hira", "kana", "yiii"], .ofTable "300C-3011 3014-301B 30FB FF61-FF65"⟩,
  ⟨["bopo", "hani"], .ofTable "302A-302D"⟩,
  ⟨["hira", "kana"], .ofTable "3031-3035 3099-309C 30A0 30FC FF70 FF9E-FF9F"⟩,
  ⟨["hani", "hira", "kana"], .ofTable "303C-303D"⟩,
  ⟨["hani", "latn"], .ofTable "A700-A707"⟩,
  ⟨["deva", "dogr", "gujr", "guru", "khoj", "knda", "kthi", "mahj", "mlym", "modi", "nand", "shrd",
    "sind", "takr", "tirh", "tutg"], .ofTable "A830-A832"⟩,
  ⟨["deva", "dogr", "gujr", "guru", "khoj", "knda", "kthi", "mahj", "modi", "nand", "shrd", "sind",
    "takr", "tirh", "tutg"], .ofTable "A833-A835"⟩,
  ⟨["deva", "dogr", "gujr", "guru", "khoj", "kthi", "mahj", "modi", "sind", "takr", "tirh"],
    .ofTable "A836-A837 A839"⟩,
  ⟨["deva", "dogr", "gujr", "guru", "khoj", "kthi", "mahj", "modi", "shrd", "sind", "takr", "tirh"],
    .ofTable "A838"⟩,
  ⟨["beng", "deva", "tutg"], .ofTable "A8F1"⟩,
  ⟨["deva", "taml"], .ofTable "A8F3"⟩,
  ⟨["kali", "latn", "mymr"], .ofTable "A92E"⟩,
  ⟨["bugi", "java"], .ofTable "A9CF"⟩,
  ⟨["arab", "nkoo"], .ofTable "FD3E-FD3F"⟩,
  ⟨["arab", "thaa"], .ofTable "FDF2 FDFD"⟩,
  ⟨["cpmn", "cprt", "linb"], .ofTable "10100-10101"⟩,
  ⟨["cprt", "linb"], .ofTable "10102 10137-1013F"⟩,
  ⟨["cprt", "lina", "linb"], .ofTable "10107-10133"⟩,
  ⟨["arab", "copt"], .ofTable "102E0-102FB"⟩,
  ⟨["mani", "ougr"], .ofTable "10AF2"⟩]

/-- The characters that are used with a script: those that have it, unless they are used with others
instead, and those that are used with several. -/
def Script.extendedRanges (script : Script) : Ranges :=
  let others := Ranges.unions (scriptExtensions.map (·.ranges))
  let extensions := scriptExtensions.filter fun e => e.scripts.any script.names.contains
  (script.ranges.diff others).union (.unions (extensions.map (·.ranges)))

end LineTemplate.Unicode
