/-!
# What is wrong with a pattern text
-/

set_option autoImplicit false

namespace Highlighter

inductive PatternError where
  | unclosedGroup
  | unopenedGroup
  | unclosedClass
  | nothingToRepeat
  | badCount
  | unclosedCount
  | lookAround
  | badGroupName
  | duplicateGroupName
  | badFlag
  | badEscape
  | backreference
  | badCode
  | badRange
  | badProperty
  | notAscii
  | tooDeep
  | tooLarge
  deriving DecidableEq, Repr

namespace PatternError

def message : PatternError → String
  | unclosedGroup => "a group is not closed"
  | unopenedGroup => "a group is closed that was not opened"
  | unclosedClass => "a character class is not closed"
  | nothingToRepeat => "there is nothing to repeat"
  | badCount => "a repetition has no valid count"
  | unclosedCount => "the count of a repetition is not closed"
  | lookAround => "looking ahead or behind is not supported"
  | badGroupName => "a group has no valid name"
  | duplicateGroupName => "two groups have the same name"
  | badFlag => "the flags are not valid"
  | badEscape => "an escape is not known"
  | backreference => "references to groups are not supported"
  | badCode => "a character code is not valid"
  | badRange => "the range of a class is not valid"
  | badProperty => "a character property is not known"
  | notAscii => "a set reaches beyond ASCII where the pattern is one of ASCII"
  | tooDeep => "the pattern is nested too deeply"
  | tooLarge => "the pattern is too large"

end PatternError

end Highlighter
