import MessageRouting.Text.Quoted

/-!
# Faults of patterns

Why a text is not a search pattern. Most causes have a place in the pattern, which their wording
names by position and, in a pattern of several lines, by line and column.
-/

namespace MessageRouting.Pattern

/-- Why a text is not a pattern. -/
inductive Cause where
  /-- A backslash at the end. -/
  | loneBackslash
  /-- An escape that means nothing. -/
  | badEscape (written : String)
  /-- An escape with too few digits. -/
  | incompleteEscape (written : String)
  /-- An octal escape above `\377`. -/
  | octalEscape (written : String)
  /-- A character by name, `\N`, without a brace. -/
  | missingBrace
  /-- A character name that names nothing. -/
  | unknownCharacter (name : String)
  /-- A name is missing. -/
  | missingName (what : String)
  /-- A name that does not end. -/
  | openName (terminator : String)
  /-- A group name that is no identifier. -/
  | badGroupName (name : String)
  /-- A group name that was given before. -/
  | groupAgain (name : String) (group earlier : Nat)
  /-- A group name that was not given. -/
  | unknownGroup (name : String)
  /-- A reference from inside a group to that group. -/
  | openGroup
  /-- A reference inside a look-behind to a group of the same look-behind. -/
  | lookbehindGroup
  /-- A reference to a group that does not exist. -/
  | noGroup (number : Nat)
  /-- A condition on the group of number zero. -/
  | groupZero
  /-- More than two branches of a condition. -/
  | threeBranches
  /-- A character set that does not end. -/
  | openSet
  /-- A range that runs backwards or has a class at one end. -/
  | badRange (low high : String)
  /-- A repetition of nothing. -/
  | nothingToRepeat
  /-- A repetition of a repetition. -/
  | repeatedRepeat
  /-- A least count above the greatest. -/
  | countOrder
  /-- The pattern ends inside the head of a group. -/
  | endOfPattern
  /-- Something unknown after `(?`. -/
  | unknownExtension (written : String)
  /-- A comment that does not end. -/
  | openComment
  /-- A group that does not end. -/
  | openSubpattern
  /-- A parenthesis that closes nothing. -/
  | unbalanced
  /-- Flags for the whole pattern that do not stand at its start. -/
  | lateFlags
  /-- The flag for locales. -/
  | localeFlag
  /-- Two flags for character classes. -/
  | classFlags
  /-- A character class flag after a minus sign. -/
  | classFlagOff
  /-- A flag of the whole pattern in a group, turned on or off. -/
  | globalFlag (on : Bool)
  /-- A flag both on and off. -/
  | flagOnOff
  /-- A letter that is no flag. -/
  | unknownFlag
  /-- Something else than a flag, where one of these should stand. -/
  | missingFlag (what : String)
deriving DecidableEq, Repr

/-- What prevents a search. -/
inductive Fault where
  /-- A cause with its position. -/
  | at (cause : Cause) (position : Nat)
  /-- A look-behind of several widths. -/
  | variableLookbehind
  /-- A look-behind of more characters than can be counted. -/
  | wideLookbehind
  /-- A repetition count that is too large. -/
  | repetitionCount
  /-- Two incompatible flags for the whole pattern. -/
  | flagConflict
  /-- Too many groups inside each other. -/
  | tooDeep
deriving DecidableEq, Repr

/-- The wording of a cause. -/
def Cause.message : Cause → String
  | loneBackslash => "bad escape (end of pattern)"
  | badEscape s => "bad escape " ++ s
  | incompleteEscape s => "incomplete escape " ++ s
  | octalEscape s => "octal escape value " ++ s ++ " outside of range 0-0o377"
  | missingBrace => "missing \x7b"
  | unknownCharacter name => "undefined character name " ++ quoted name
  | missingName what => "missing " ++ what
  | openName terminator => "missing " ++ terminator ++ ", unterminated name"
  | badGroupName name => "bad character in group name " ++ quoted name
  | groupAgain name group earlier =>
    "redefinition of group name " ++ quoted name ++ " as group " ++ toString group ++
      "; was group " ++ toString earlier
  | unknownGroup name => "unknown group name " ++ quoted name
  | openGroup => "cannot refer to an open group"
  | lookbehindGroup => "cannot refer to group defined in the same lookbehind subpattern"
  | noGroup n => "invalid group reference " ++ toString n
  | groupZero => "bad group number"
  | threeBranches => "conditional backref with more than two branches"
  | openSet => "unterminated character set"
  | badRange low high => "bad character range " ++ low ++ "-" ++ high
  | nothingToRepeat => "nothing to repeat"
  | repeatedRepeat => "multiple repeat"
  | countOrder => "min repeat greater than max repeat"
  | endOfPattern => "unexpected end of pattern"
  | unknownExtension s => "unknown extension ?" ++ s
  | openComment => "missing ), unterminated comment"
  | openSubpattern => "missing ), unterminated subpattern"
  | unbalanced => "unbalanced parenthesis"
  | lateFlags => "global flags not at the start of the expression"
  | localeFlag => "bad inline flags: cannot use 'L' flag with a str pattern"
  | classFlags => "bad inline flags: flags 'a', 'u' and 'L' are incompatible"
  | classFlagOff => "bad inline flags: cannot turn off flags 'a', 'u' and 'L'"
  | globalFlag on =>
    "bad inline flags: cannot turn " ++ (if on then "on" else "off") ++ " global flag"
  | flagOnOff => "bad inline flags: flag turned on and off"
  | unknownFlag => "unknown flag"
  | missingFlag what => "missing " ++ what
where
  /-- A name in quotes. -/
  quoted (name : String) : String := String.ofList (Text.Quoted.literal name.toList)

/-- The wording of a fault in a pattern. -/
def Fault.message (pattern : List Char) : Fault → String
  | .at cause position =>
    let lines :=
      if pattern.contains '\n' then
        let before := pattern.take position
        " (line " ++ toString (before.count '\n' + 1) ++ ", column " ++
          toString ((before.reverse.takeWhile (· ≠ '\n')).length + 1) ++ ")"
      else ""
    cause.message ++ " at position " ++ toString position ++ lines
  | .variableLookbehind => "look-behind requires fixed-width pattern"
  | .wideLookbehind => "looks too much behind"
  | .repetitionCount => "the repetition number is too large"
  | .flagConflict => "ASCII and UNICODE flags are incompatible"
  | .tooDeep => "maximum recursion depth exceeded"

end MessageRouting.Pattern
