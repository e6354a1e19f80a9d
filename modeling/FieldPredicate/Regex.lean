/-!
# Regular expressions

The tree of a regular expression, as far as it decides whether the expression can be used. Which
text it matches plays no part here, so assertions, classes and repetitions of different meaning are
told apart only where their use is restricted.
-/

namespace FieldPredicate

/-- What the letters of a flag group switch. -/
inductive RegexFlag where
  | ignoreCase
  | multiLine
  | dotMatchesLineFeed
  | swapGreed
  | unicode
  | carriageReturns
  | spaced
  deriving DecidableEq

def RegexFlag.ofLetter? : Char → Option RegexFlag
  | 'i' => some .ignoreCase
  | 'm' => some .multiLine
  | 's' => some .dotMatchesLineFeed
  | 'U' => some .swapGreed
  | 'u' => some .unicode
  | 'R' => some .carriageReturns
  | 'x' => some .spaced
  | _ => none

/-- Flags that are switched on or off. -/
abbrev RegexSettings := List (RegexFlag × Bool)

def RegexSettings.state (settings : RegexSettings) (flag : RegexFlag) (before : Bool) : Bool :=
  (settings.lookup flag).getD before

/-- What stands between the brackets of a class. -/
inductive RegexSet where
  | empty
  | char (c : Char)
  | range (first last : Char)
  | ascii (negated : Bool)
  /-- A class by its letter: digits, white space or word characters. -/
  | named (negated : Bool)
  | nested (negated : Bool) (body : RegexSet)
  | union (parts : List RegexSet)
  | operation (left right : RegexSet)

inductive Regex where
  | literal (c : Char)
  /-- A character by the two digits of its number, which may mean a byte. -/
  | byte (c : Char)
  | any
  | anchor
  | wordEdge
  | named (negated : Bool)
  | set (negated : Bool) (body : RegexSet)
  | settings (changes : RegexSettings)
  | repeated (part : Regex)
  | group (changes : RegexSettings) (body : Regex)
  | concat (parts : List Regex)
  | alternatives (branches : List Regex)

/-- The union of parts, of which there may be only one or none. -/
def RegexSet.ofParts : List RegexSet → RegexSet
  | [] => .empty
  | [part] => part
  | parts => .union parts

def Regex.ofParts : List Regex → Regex
  | [part] => part
  | parts => .concat parts

def Regex.ofBranches : List Regex → Regex
  | [branch] => branch
  | branches => .alternatives branches

/-! ## Nesting -/

mutual

/-- How deeply the parts of a class nest. -/
def RegexSet.height : RegexSet → Nat
  | .nested _ body => body.height + 1
  | .union parts => RegexSet.heights parts + 1
  | .operation left right => max left.height right.height + 1
  | _ => 0

def RegexSet.heights : List RegexSet → Nat
  | [] => 0
  | part :: rest => max part.height (RegexSet.heights rest)

end

mutual

def Regex.height : Regex → Nat
  | .set _ body => body.height + 1
  | .repeated part => part.height + 1
  | .group _ body => body.height + 1
  | .concat [] => 0
  | .concat parts => Regex.heights parts + 1
  | .alternatives branches => Regex.heights branches + 1
  | _ => 0

def Regex.heights : List Regex → Nat
  | [] => 0
  | part :: rest => max part.height (Regex.heights rest)

end

/-! ## Support -/

/-- What is known of an expression after a part of it: the flags that are in force, whether all
parts have a meaning under theirs, and whether one asks for the edges of words in Unicode text. -/
structure RegexSurvey where
  ignoreCase : Bool
  unicode : Bool
  isSupported : Bool
  hasWordEdge : Bool

namespace RegexSurvey

def start : RegexSurvey := ⟨false, true, true, false⟩

def set (survey : RegexSurvey) (settings : RegexSettings) : RegexSurvey :=
  { survey with
    ignoreCase := settings.state .ignoreCase survey.ignoreCase
    unicode := settings.state .unicode survey.unicode }

/-- The survey after a part that has a meaning or not. -/
def require (survey : RegexSurvey) (isSupported : Bool) : RegexSurvey :=
  { survey with isSupported := survey.isSupported && isSupported }

end RegexSurvey

/-- A character has a meaning in a class: characters of Unicode text have no known cases, and a
class of bytes holds ASCII characters only. -/
def RegexSurvey.supportsChar (survey : RegexSurvey) (c : Char) : Bool :=
  if survey.unicode then !survey.ignoreCase else c.toNat < 128

mutual

/-- A class has a meaning. The classes of Unicode text that have letters are not known, and the
complement of a class of bytes holds what is no character. -/
def RegexSet.isSupported (survey : RegexSurvey) : RegexSet → Bool
  | .empty => true
  | .char c => survey.supportsChar c
  | .range first last => survey.supportsChar first && survey.supportsChar last
  | .ascii negated => if survey.unicode then !survey.ignoreCase else !negated
  | .named negated => !survey.unicode && !negated
  | .nested negated body => body.isSupported survey && (survey.unicode || !negated)
  | .union parts => RegexSet.areSupported survey parts
  | .operation left right => left.isSupported survey && right.isSupported survey

def RegexSet.areSupported (survey : RegexSurvey) : List RegexSet → Bool
  | [] => true
  | part :: rest => part.isSupported survey && RegexSet.areSupported survey rest

end

mutual

/-- The survey after an expression. Settings within a group end with it. -/
def Regex.survey : Regex → RegexSurvey → RegexSurvey
  | .literal _, survey => survey.require (!survey.unicode || !survey.ignoreCase)
  | .byte c, survey =>
      survey.require (if survey.unicode then !survey.ignoreCase else c.toNat < 128)
  | .any, survey => survey.require survey.unicode
  | .anchor, survey => survey
  | .wordEdge, survey => { survey with hasWordEdge := survey.hasWordEdge || survey.unicode }
  | .named negated, survey => survey.require (!survey.unicode && !negated)
  | .set negated body, survey =>
      survey.require ((RegexSet.nested negated body).isSupported survey)
  | .settings changes, survey => survey.set changes
  | .repeated part, survey => part.survey survey
  | .group changes body, survey =>
      { body.survey (survey.set changes) with
        ignoreCase := survey.ignoreCase
        unicode := survey.unicode }
  | .concat parts, survey => Regex.surveyAll parts survey
  | .alternatives branches, survey => Regex.surveyAll branches survey

def Regex.surveyAll : List Regex → RegexSurvey → RegexSurvey
  | [], survey => survey
  | part :: rest, survey => Regex.surveyAll rest (part.survey survey)

end

end FieldPredicate
