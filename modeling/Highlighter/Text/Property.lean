import Highlighter.Text.Property.Break
import Highlighter.Text.Property.Derived

/-!
# Character properties by name

A property is asked for by its name alone, or by a name and a value.  Case,
spaces, hyphens and underscores in names do not count, nor does `is` at their
start.  A name alone is that of a property that a character has or has not, of
a general category or of a script.
-/

set_option autoImplicit false

namespace Highlighter.Property

/-! ## Names -/

/-- A name without what does not count in it. -/
def plainName (name : List Char) : List Char :=
  (name.filter fun c => c.toNat < 0x80 && c != ' ' && c != '_' && c != '-').map Char.toLower

/-- A name in the form in which it is compared.  `isc` is a name of its own. -/
def normalize (name : List Char) : String :=
  String.ofList <|
    match name with
    | first :: second :: rest =>
      if first.toLower == 'i' && second.toLower == 's' then
        if plainName rest == ['c'] then ['i', 's', 'c'] else plainName rest
      else plainName name
    | _ => plainName name

/-! ## Looking up -/

/-- The characters of the property, the category or the script of a given name. -/
def ofName? (name : List Char) : Option CodeRanges :=
  named? (normalize name)

/-- The characters for which the property of a given name has a given value. -/
def ofValue? (name value : List Char) : Option CodeRanges :=
  let value := normalize value
  match normalize name with
  | "gc" | "generalcategory" => category? value
  | "sc" | "script" => script? value
  | "scx" | "scriptextensions" => scriptExtension? value
  | "age" => age? value
  | "gcb" | "graphemeclusterbreak" => breakClass? graphemeBreaks value
  | "wb" | "wordbreak" => breakClass? wordBreaks value
  | "sb" | "sentencebreak" => breakClass? sentenceBreaks value
  | _ => none

end Highlighter.Property
