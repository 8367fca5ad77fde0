import Highlighter.Text.Blank
import Highlighter.Text.Property.Age
import Highlighter.Text.Property.Binary
import Highlighter.Text.Property.Category
import Highlighter.Text.Property.Script
import Highlighter.Text.Property.ScriptExtension

/-!
# Properties made from tables

The sets that general categories, scripts, ages and yes-or-no properties stand
for.  All names are given here without capitals, spaces, hyphens and
underscores.
-/

set_option autoImplicit false

namespace Highlighter.Property

/-! ## General categories -/

/-- The names of general categories, with the smallest categories that each is made of. -/
def categoryNames : List (List String × List String) :=
  [(["c", "other"], ["cc", "cf", "cn", "co"]), (["cc", "control", "cntrl"], ["cc"]),
   (["cf", "format"], ["cf"]), (["cn", "unassigned"], ["cn"]), (["co", "privateuse"], ["co"]),
   (["l", "letter"], ["ll", "lm", "lo", "lt", "lu"]), (["lc", "casedletter"], ["ll", "lt", "lu"]),
   (["ll", "lowercaseletter"], ["ll"]), (["lm", "modifierletter"], ["lm"]),
   (["lo", "otherletter"], ["lo"]), (["lt", "titlecaseletter"], ["lt"]),
   (["lu", "uppercaseletter"], ["lu"]), (["m", "mark", "combiningmark"], ["mc", "me", "mn"]),
   (["mc", "spacingmark"], ["mc"]), (["me", "enclosingmark"], ["me"]),
   (["mn", "nonspacingmark"], ["mn"]), (["n", "number"], ["nd", "nl", "no"]),
   (["nd", "decimalnumber", "digit"], ["nd"]), (["nl", "letternumber"], ["nl"]),
   (["no", "othernumber"], ["no"]),
   (["p", "punctuation", "punct"], ["pc", "pd", "pe", "pf", "pi", "po", "ps"]),
   (["pc", "connectorpunctuation"], ["pc"]), (["pd", "dashpunctuation"], ["pd"]),
   (["pe", "closepunctuation"], ["pe"]), (["pf", "finalpunctuation"], ["pf"]),
   (["pi", "initialpunctuation"], ["pi"]), (["po", "otherpunctuation"], ["po"]),
   (["ps", "openpunctuation"], ["ps"]), (["s", "symbol"], ["sc", "sk", "sm", "so"]),
   (["sc", "currencysymbol"], ["sc"]), (["sk", "modifiersymbol"], ["sk"]),
   (["sm", "mathsymbol"], ["sm"]), (["so", "othersymbol"], ["so"]),
   (["z", "separator"], ["zl", "zp", "zs"]), (["zl", "lineseparator"], ["zl"]),
   (["zp", "paragraphseparator"], ["zp"]), (["zs", "spaceseparator"], ["zs"])]

def unionOf (sets : List CodeRanges) : CodeRanges :=
  sets.foldl CodeRanges.union []

/-- Every character that has a category of its own. -/
def assigned : CodeRanges :=
  unionOf (categoryTable.map fun category => .ofLines category.2)

/-- The characters of one of the smallest categories. -/
def smallCategory (abbreviation : String) : CodeRanges :=
  if abbreviation == "cn" then assigned.compl
  else .ofLines ((categoryTable.lookup abbreviation).getD [])

def categories (abbreviations : List String) : CodeRanges :=
  unionOf (abbreviations.map smallCategory)

/-- The category of a given name, or one of the three sets that count as categories. -/
def category? (name : String) : Option CodeRanges :=
  if name == "any" then some .everything
  else if name == "assigned" then some assigned
  else if name == "ascii" then some [(0, 0x7F)]
  else (categoryNames.find? (·.1.contains name)).map fun category => categories category.2

/-! ## Scripts -/

def script? (name : String) : Option CodeRanges :=
  (scriptTable.find? (·.1.contains name)).map fun script => .ofLines script.2

/-- The characters that are used with the script of a given name. -/
def scriptExtension? (name : String) : Option CodeRanges :=
  (scriptTable.find? (·.1.contains name)).map fun script =>
    .symmDiff (.ofLines script.2) (.ofLines ((extensionTable.lookup (script.1.headD "")).getD []))

/-! ## Ages -/

/-- Whether `value` names a version, as `5.2` or `v52`. -/
def isVersionName (value version : String) : Bool :=
  value == version || value.toList == 'v' :: version.toList.filter (· != '.')

def age? (value : String) : Option CodeRanges :=
  if ageTable.any fun age => isVersionName value age.1 then
    let older := ageTable.takeWhile fun age => !isVersionName value age.1
    let newest := (ageTable.find? fun age => isVersionName value age.1).toList
    some (unionOf ((older ++ newest).map fun age => .ofLines age.2))
  else none

/-! ## Yes-or-no properties -/

def shortNames : List (String × String) :=
  [("ahex", "asciihexdigit"), ("alpha", "alphabetic"), ("bidic", "bidicontrol"),
   ("bidim", "bidimirrored"), ("ci", "caseignorable"), ("cwcf", "changeswhencasefolded"),
   ("cwcm", "changeswhencasemapped"), ("cwl", "changeswhenlowercased"),
   ("cwt", "changeswhentitlecased"), ("cwu", "changeswhenuppercased"),
   ("di", "defaultignorablecodepoint"), ("dep", "deprecated"), ("dia", "diacritic"),
   ("ecomp", "emojicomponent"), ("emod", "emojimodifier"), ("ebase", "emojimodifierbase"),
   ("epres", "emojipresentation"), ("extpict", "extendedpictographic"), ("ext", "extender"),
   ("grbase", "graphemebase"), ("grext", "graphemeextend"), ("grlink", "graphemelink"),
   ("hex", "hexdigit"), ("idsb", "idsbinaryoperator"), ("idst", "idstrinaryoperator"),
   ("idsu", "idsunaryoperator"), ("idc", "idcontinue"), ("ids", "idstart"),
   ("ideo", "ideographic"), ("joinc", "joincontrol"), ("loe", "logicalorderexception"),
   ("lower", "lowercase"), ("mcm", "modifiercombiningmark"), ("nchar", "noncharactercodepoint"),
   ("oalpha", "otheralphabetic"), ("odi", "otherdefaultignorablecodepoint"),
   ("ogrext", "othergraphemeextend"), ("oidc", "otheridcontinue"),
   ("oids", "otheridstart"), ("olower", "otherlowercase"), ("omath", "othermath"),
   ("oupper", "otheruppercase"), ("patsyn", "patternsyntax"), ("patws", "patternwhitespace"),
   ("pcm", "prependedconcatenationmark"), ("qmark", "quotationmark"),
   ("ri", "regionalindicator"), ("sd", "softdotted"), ("sterm", "sentenceterminal"),
   ("term", "terminalpunctuation"), ("uideo", "unifiedideograph"), ("upper", "uppercase"),
   ("vs", "variationselector"), ("wspace", "whitespace"), ("space", "whitespace"),
   ("xidc", "xidcontinue"), ("xids", "xidstart")]

/-- The characters of a table of properties. -/
def stored (name : String) : CodeRanges :=
  .ofLines ((binaryTable.lookup name).getD [])

/-- The tables that are no properties by themselves. -/
def partTables : List String :=
  ["changeswhencasefoldedonly", "changeswhentitlecasedonly", "notxidcontinue", "notxidstart",
   "othercaseignorable"]

/-- The letters, with numbers that are written with letters and other marks of letters. -/
def alphabetic : CodeRanges :=
  .union (categories ["ll", "lm", "lo", "lt", "lu", "nl"]) (stored "otheralphabetic")

def lowercase : CodeRanges := .union (categories ["ll"]) (stored "otherlowercase")

def uppercase : CodeRanges := .union (categories ["lu"]) (stored "otheruppercase")

/-- The characters that extend the one before them. -/
def graphemeExtend : CodeRanges :=
  .union (categories ["me", "mn"]) (stored "othergraphemeextend")

/-- The marks that a pattern or a program sets aside. -/
def patternMarks : CodeRanges :=
  .union (stored "patternsyntax") (stored "patternwhitespace")

def idStart : CodeRanges :=
  .diff (.union (categories ["ll", "lm", "lo", "lt", "lu", "nl"]) (stored "otheridstart"))
    patternMarks

def idContinue : CodeRanges :=
  .diff (unionOf [idStart, categories ["mc", "mn", "nd", "pc"], stored "otheridcontinue"])
    patternMarks

def titlecased : CodeRanges :=
  .symmDiff (stored "changeswhenuppercased") (stored "changeswhentitlecasedonly")

/-- The property of a given long name. -/
def binary? (name : String) : Option CodeRanges :=
  if name == "alphabetic" then some alphabetic
  else if name == "lowercase" then some lowercase
  else if name == "uppercase" then some uppercase
  else if name == "cased" then some (unionOf [lowercase, uppercase, categories ["lt"]])
  else if name == "caseignorable" then
    some (.union (categories ["cf", "lm", "me", "mn", "sk"]) (stored "othercaseignorable"))
  else if name == "changeswhentitlecased" then some titlecased
  else if name == "changeswhencasemapped" then
    some (unionOf [stored "changeswhenlowercased", stored "changeswhenuppercased", titlecased])
  else if name == "changeswhencasefolded" then
    some (.symmDiff (stored "changeswhenlowercased") (stored "changeswhencasefoldedonly"))
  else if name == "graphemeextend" then some graphemeExtend
  else if name == "graphemebase" then
    some (.diff assigned (.union (categories ["cc", "cf", "co", "zl", "zp"]) graphemeExtend))
  else if name == "idstart" then some idStart
  else if name == "idcontinue" then some idContinue
  else if name == "xidstart" then some (.diff idStart (stored "notxidstart"))
  else if name == "xidcontinue" then some (.diff idContinue (stored "notxidcontinue"))
  else if name == "math" then some (.union (categories ["sm"]) (stored "othermath"))
  else if name == "whitespace" then some blankRanges
  else if partTables.contains name then none
  else (binaryTable.lookup name).map .ofLines

/-- The set of the property, the category or the script of a given name. -/
def named? (name : String) : Option CodeRanges :=
  binary? ((shortNames.lookup name).getD name) <|> category? name <|> script? name

end Highlighter.Property
