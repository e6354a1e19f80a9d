import FieldPredicate.Regex.Read

/-!
# Log filters

A log filter is a list of directives between commas. A directive is a level, or names a target, a
span in brackets with its fields in braces, or both, and may end in `=` and a level. A field may
have a value after another `=`, which is a truth value, a number or a regular expression.
-/

namespace FieldPredicate.LogFilter

inductive FilterError where
  | directive
  | level
  | field (fault : Regex.Fault)
  deriving DecidableEq

def FilterError.message : FilterError → String
  | .directive => "invalid filter directive"
  | .level =>
      "error parsing level filter: expected one of \"off\", \"error\", \"warn\", \"info\", " ++
        "\"debug\", \"trace\", or a number 0-5"
  | .field .malformed => "invalid field filter: error building NFA"
  | .field .wordEdge =>
      "invalid field filter: unsupported regex feature for DFAs: cannot build DFAs for regexes " ++
        "with Unicode word boundaries; switch to ASCII word boundaries, or heuristically enable " ++
        "Unicode word boundaries or use a different regex engine"

/-! ## Levels and fields -/

/-- The names of levels, in lower case. The empty name counts as a level. -/
def levelNames : List String :=
  ["", "off", "error", "warn", "info", "debug", "trace"]

/-- A level, by its name in any case or by its number. -/
def isLevel (text : List Char) : Bool :=
  let digits := if text.head? = some '+' then text.tail else text
  levelNames.contains (String.ofList (text.map Char.toLower)) ||
    (!digits.isEmpty && digits.all Char.isDigit &&
      digits.foldl (fun n c => n * 10 + (c.toNat - 48)) 0 ≤ 5)

def dropSign : List Char → List Char
  | '+' :: rest | '-' :: rest => rest
  | text => text

/-- An exponent, or nothing. -/
def isExponent : List Char → Bool
  | [] => true
  | c :: rest =>
      let digits := dropSign rest
      (c = 'e' || c = 'E') && !digits.isEmpty && digits.all Char.isDigit

/-- The text is a decimal number with or without a sign, a point and an exponent, or names a float
that is infinite or not a number. -/
def isNumber (text : List Char) : Bool :=
  let text := dropSign text
  let whole := text.takeWhile Char.isDigit
  let rest := text.dropWhile Char.isDigit
  ["inf", "infinity", "nan"].contains (String.ofList (text.map Char.toLower)) ||
    match rest with
    | '.' :: rest =>
        (!whole.isEmpty || !(rest.takeWhile Char.isDigit).isEmpty) &&
          isExponent (rest.dropWhile Char.isDigit)
    | rest => !whole.isEmpty && isExponent rest

/-- Why the value of a field is refused, if it is. The value ends at another `=`. -/
def fieldError? (field : List Char) : Option FilterError :=
  match field.dropWhile (· ≠ '=') with
  | [] => none
  | _ :: rest =>
      let value := rest.takeWhile (· ≠ '=')
      if isNumber value then none else (Regex.fault? value).map .field

/-! ## Directives -/

/-- The parts of a directive that is being read. Positions count bytes from the first character
that is not white space. -/
inductive Part where
  | start
  /-- A level or a target. -/
  | target
  | span
  | field (first : Nat)
  | afterField
  | afterSpan
  | level (first : Nat)

def dropBytes : Nat → List Char → List Char
  | _, [] => []
  | 0, text => text
  | count, c :: rest => dropBytes (count - c.utf8Size) rest

def takeBytes : Nat → List Char → List Char
  | _, [] => []
  | 0, _ => []
  | count, c :: rest => c :: takeBytes (count - c.utf8Size) rest

def beginsTarget (c : Char) : Bool :=
  c = '-' || c = ':' || c = '_' || Text.isAlphanumeric c

/-- The part of a directive after one more character, at a position. The text of a field is cut
from the directive with its white space, at the position where the field stands without. -/
def Part.next (part : Part) (text : List Char) (position : Nat) (c : Char) :
    Except FilterError Part :=
  match part with
  | .start =>
      if c = '[' then .ok .span
      else if beginsTarget c then .ok .target
      else .error .directive
  | .target =>
      if c = '=' then .ok (.level (position + 1))
      else if c = '[' then .ok .span
      else .ok .target
  | .span =>
      if c = ']' then .ok .afterSpan
      else if c = '\x7b' then .ok (.field (position + 1))
      else .ok .span
  | .field first =>
      if c ≠ '\x7d' then .ok (.field first)
      else if first = position then .error .directive
      else
        match fieldError? (takeBytes (position - first) (dropBytes first text)) with
        | some e => .error e
        | none => .ok .afterField
  | .afterField => if c = ']' then .ok .afterSpan else .error .directive
  | .afterSpan => if c = '=' then .ok (.level (position + 1)) else .error .directive
  | .level first => .ok (.level first)

def lastPart (text : List Char) : Part → Nat → List Char → Except FilterError Part
  | part, _, [] => .ok part
  | part, position, c :: rest =>
      match part.next text position c with
      | .ok part => lastPart text part (position + c.utf8Size) rest
      | .error e => .error e

/-- Why a directive is refused, if it is. Its level is cut as its fields are. -/
def directiveError? (text : List Char) : Option FilterError :=
  match lastPart text .start 0 (Text.trim (String.ofList text)).toList with
  | .error e => some e
  | .ok .target => none
  | .ok .afterSpan => none
  | .ok (.level first) => if isLevel (dropBytes first text) then none else some .level
  | .ok _ => some .directive

/-- Why a filter is refused, if it is. Empty directives are skipped. -/
def error? (filter : String) : Option FilterError :=
  ((filter.toList.splitOn ',').filter (!·.isEmpty)).findSome? directiveError?

end FieldPredicate.LogFilter
