import Highlighter.Text.Property.Derived

/-!
# Where a text can be divided

The classes of characters by which a text is divided into what a reader takes
for single characters, into words and into sentences, of Unicode 16.0.  A class
is made of properties and of single codes, less what it leaves out.
-/

set_option autoImplicit false

namespace Highlighter.Property

/-- A class of characters by what it takes in and what it leaves out. -/
structure BreakClass where
  names : List String
  /-- The properties whose characters are taken in. -/
  parts : List String
  /-- The properties whose characters are not taken in with them. -/
  exceptParts : List String
  /-- The codes that are taken in besides, in lines of words. -/
  codes : List String
  /-- The codes that are left out, in lines of words. -/
  exceptCodes : List String
  deriving DecidableEq, Repr

namespace BreakClass

def ofCodes (names codes : List String) : BreakClass :=
  ⟨names, [], [], codes, []⟩

def ofParts (names parts : List String) : BreakClass :=
  ⟨names, parts, [], [], []⟩

def gather (parts : List String) : CodeRanges :=
  unionOf (parts.map fun name => (named? name).getD [])

def set (breakClass : BreakClass) : CodeRanges :=
  let taken := .diff (gather breakClass.parts) (gather breakClass.exceptParts)
  let left := CodeRanges.ofList (CodeRanges.ofLines breakClass.exceptCodes)
  .diff (.union taken (.ofLines breakClass.codes)) left

end BreakClass

def breakClass? (classes : List BreakClass) (name : String) : Option CodeRanges :=
  (classes.find? (·.names.contains name)).map BreakClass.set

def hebrewLetters : List String :=
  ["5D0-5EA 5EF-5F2 FB1D FB1F-FB28 FB2A-FB36 FB38-FB3C FB3E FB40-FB41 FB43-FB44 FB46-FB4F"]

/-- What is used like the letters of Katakana. -/
def katakanaMarks : List String := ["3031-3035 309B-309C 30A0 30FC FF70"]

/-- The scripts that set no space between words. -/
def unspacedScripts : List String :=
  ["ahom", "khmer", "lao", "myanmar", "newtailue", "taile", "taitham", "taiviet", "thai"]

/-- The classes of characters within what a reader takes for one. -/
def graphemeBreaks : List BreakClass :=
  [.ofCodes ["cr"] ["D"], .ofCodes ["lf"] ["A"], .ofCodes ["zwj"] ["200D"],
   { names := ["cn", "control"], parts := ["cc", "cf", "zl", "zp"],
     exceptParts := ["graphemeextend", "prependedconcatenationmark"],
     codes := ["2065 FFF0-FFF8 E0000 E0002-E001F E0080-E00FF E01F0-E0FFF"],
     exceptCodes := ["A D 200D"] },
   .ofParts ["ex", "extend"] ["emojimodifier", "graphemeextend"],
   .ofCodes ["l"] ["1100-115F A960-A97C"],
   .ofCodes ["v"] ["1160-11A7 D7B0-D7C6 16D63 16D67-16D6A"],
   .ofCodes ["t"] ["11A8-11FF D7CB-D7FB"],
   .ofCodes ["lv"] ["AC00-D788/1C"],
   { BreakClass.ofCodes ["lvt"] ["AC00-D7A3"] with exceptCodes := ["AC00-D788/1C"] },
   { BreakClass.ofParts ["pp", "prepend"] ["prependedconcatenationmark"] with
     codes := ["D4E 111C2-111C3 113D1 1193F 11941 11A3A 11A84-11A89 11D46 11F02"] },
   .ofParts ["ri", "regionalindicator"] ["regionalindicator"],
   { names := ["sm", "spacingmark"], parts := ["mc"], exceptParts := ["graphemeextend"],
     codes := ["E33 EB3"],
     exceptCodes :=
       ["102B-102C 1038 1062-1064 1067-106D 1083 1087-108C 108F 109A-109C 1A61 1A63-1A64 AA7B",
        "AA7D 11720-11721"] }]

def wordBreaks : List BreakClass :=
  [.ofCodes ["cr"] ["D"], .ofCodes ["lf"] ["A"], .ofCodes ["zwj"] ["200D"],
   .ofCodes ["newline", "nl"] ["B-C 85 2028-2029"],
   .ofCodes ["doublequote", "dq"] ["22"], .ofCodes ["singlequote", "sq"] ["27"],
   .ofParts ["extend"] ["emojimodifier", "graphemeextend", "mc"],
   { BreakClass.ofParts ["fo", "format"] ["cf"] with
     exceptParts := ["graphemeextend", "prependedconcatenationmark"],
     exceptCodes := ["200B 200D"] },
   { BreakClass.ofParts ["ka", "katakana"] ["katakana"] with codes := katakanaMarks },
   .ofCodes ["hebrewletter", "hl"] hebrewLetters,
   { names := ["aletter", "le"], parts := ["alphabetic"],
     exceptParts :=
       ["graphemeextend", "hiragana", "ideographic", "katakana", "mc"] ++ unspacedScripts,
     codes :=
       ["2C2-2C5 2D2-2D7 2DE-2DF 2E5-2EB 2ED 2EF-2FF 55A-55C 55E 58A 5F3 70F A708-A716",
        "A720-A721 A789-A78A AB5B"],
     exceptCodes := hebrewLetters ++ katakanaMarks },
   .ofCodes ["midletter", "ml"] ["3A B7 387 55F 5F4 2027 FE13 FE55 FF1A"],
   .ofCodes ["midnum", "mn"]
     ["2C 3B 37E 589 60C-60D 66C 7F8 2044 FE10 FE14 FE50 FE54 FF0C FF1B"],
   .ofCodes ["mb", "midnumlet"] ["2E 2018-2019 2024 FE52 FF07 FF0E"],
   { BreakClass.ofParts ["nu", "numeric"] ["nd", "prependedconcatenationmark"] with
     codes := ["66B"], exceptCodes := ["70F"] },
   { BreakClass.ofParts ["ex", "extendnumlet"] ["pc"] with codes := ["202F"] },
   .ofParts ["ri", "regionalindicator"] ["regionalindicator"],
   { BreakClass.ofParts ["wsegspace"] ["zs"] with exceptCodes := ["A0 2007 202F"] }]

def sentenceBreaks : List BreakClass :=
  [.ofCodes ["cr"] ["D"], .ofCodes ["lf"] ["A"],
   .ofCodes ["se", "sep"] ["85 2028-2029"],
   { BreakClass.ofParts ["ex", "extend"] ["graphemeextend", "mc"] with codes := ["200D"] },
   { names := ["fo", "format"], parts := ["cf"], exceptParts := ["graphemeextend"],
     codes := ["70F"], exceptCodes := ["600-605 6DD 890-891 8E2 200D 110BD 110CD"] },
   { BreakClass.ofParts ["sp"] ["whitespace"] with exceptCodes := ["A D 85 2028-2029"] },
   { BreakClass.ofParts ["lo", "lower"] ["lowercase"] with
     exceptParts := ["graphemeextend"], exceptCodes := ["10D0-10FA 10FD-10FF"] },
   { BreakClass.ofParts ["up", "upper"] ["lt", "uppercase"] with
     exceptCodes := ["1C90-1CBA 1CBD-1CBF"] },
   { BreakClass.ofParts ["le", "oletter"] ["alphabetic"] with
     exceptParts := ["graphemeextend", "lowercase", "lt", "mc", "uppercase"],
     codes := ["5F3 10D0-10FA 10FD-10FF 1C90-1CBA 1CBD-1CBF"] },
   { BreakClass.ofParts ["nu", "numeric"] ["nd", "prependedconcatenationmark"] with
     codes := ["66B-66C"], exceptCodes := ["70F"] },
   .ofCodes ["at", "aterm"] ["2E 2024 FE52 FF0E"],
   { BreakClass.ofParts ["st", "sterm"] ["sentenceterminal"] with
     exceptCodes := ["2E 2024 FE52 FF0E"] },
   { BreakClass.ofParts ["cl", "close"] ["pe", "ps"] with
     codes :=
       ["22 27 AB BB 2018-2019 201B-201D 201F 2039-203A 275B-2760 2E00-2E0D 2E1C-2E1D 2E20-2E21",
        "1F676-1F678"] },
   .ofCodes ["sc", "scontinue"]
     ["2C-2D 3A-3B 37E 55D 60C-60D 7F8 1802 1808 2013-2014 3001 FE10-FE11 FE13-FE14 FE31-FE32",
      "FE50-FE51 FE54-FE55 FE58 FE63 FF0C-FF0D FF1A-FF1B FF64"]]

end Highlighter.Property
