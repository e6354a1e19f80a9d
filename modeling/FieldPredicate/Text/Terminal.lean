/-!
# Text for terminals

Text for a terminal holds control sequences, which begin with an escape character. `plain` is what
is left of it on its way to anything else: the printable characters outside control sequences,
spaces and line breaks. A sequence that is not complete takes the text after it as its own.
-/

namespace FieldPredicate.Text.Terminal

inductive Style where
  /-- What the user wrote. -/
  | given
  /-- What the user may write. -/
  | literal

def Style.opening : Style → String
  | .given => "\x1b[33m"
  | .literal => "\x1b[1m"

def Style.apply (style : Style) (text : String) : String :=
  style.opening ++ text ++ "\x1b[0m"

/-- How far a control sequence has been read. -/
inductive Mode where
  | ground
  | escape
  /-- After the escape character and characters that qualify the final one. -/
  | intermediate
  /-- In a sequence of parameters, which a letter ends. -/
  | parameters
  | deviceStart
  | deviceParameters
  | deviceIntermediate
  /-- In a string for a device or an application, which an escape character or the byte 0x9c
  ends. -/
  | string
  /-- In a command to the operating system, which a bell also ends. -/
  | command
  deriving DecidableEq

/-- A character between two others, ends included. -/
def isWithin (first last c : Char) : Bool :=
  first ≤ c && c ≤ last

/-- The controls that lay out text. -/
def isLayout (c : Char) : Bool :=
  c = '\t' || c = '\n' || c = '\x0c' || c = '\r'

def isShown (c : Char) : Bool :=
  isLayout c || (' ' ≤ c && c ≠ '\x7f')

namespace Mode

def next (mode : Mode) (c : Char) : Mode :=
  if c = '\x1b' then .escape
  else if c = '\x18' || c = '\x1a' then .ground
  else
    match mode with
    | .ground => .ground
    | .escape =>
        if c = '[' then .parameters
        else if c = ']' then .command
        else if c = 'P' then .deviceStart
        else if c = 'X' || c = '^' || c = '_' then .string
        else if isWithin ' ' '/' c then .intermediate
        else if isWithin '0' '~' c then .ground
        else .escape
    | .intermediate => if isWithin '0' '~' c then .ground else .intermediate
    | .parameters => if isWithin '@' '~' c then .ground else .parameters
    | .deviceStart =>
        if isWithin ' ' '/' c then .deviceIntermediate
        else if isWithin '0' '?' c then .deviceParameters
        else if isWithin '@' '~' c then .string
        else .deviceStart
    | .deviceParameters =>
        if isWithin ' ' '/' c then .deviceIntermediate
        else if isWithin '<' '~' c then .string
        else .deviceParameters
    | .deviceIntermediate => if isWithin '0' '~' c then .string else .deviceIntermediate
    | .string => if 0x9c ∈ String.utf8EncodeChar c then .ground else .string
    | .command => if c = '\x07' then .ground else .command

/-- A character that is shown in a mode. Line breaks are shown within sequences, but not within
strings. -/
def shows (mode : Mode) (c : Char) : Bool :=
  match mode with
  | .ground => isShown c
  | .escape | .intermediate | .parameters => isLayout c
  | _ => false

end Mode

/-- The characters that are shown, from a mode on. Once one is shown, those after it are too, up to
the next control character, and only there does the sequence go on that the first one stood in. -/
def shown : Mode → Bool → List Char → List Char
  | _, _, [] => []
  | mode, showing, c :: rest =>
      if showing && isShown c then
        c :: shown (if c.toNat < 128 then mode else .ground) true rest
      else if mode.shows c then c :: shown (mode.next c) true rest
      else shown (mode.next c) false rest

end Terminal

def plain (text : String) : String :=
  String.ofList (Terminal.shown .ground false text.toList)

end FieldPredicate.Text
