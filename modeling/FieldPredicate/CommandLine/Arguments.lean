import FieldPredicate.CommandLine.Request
import FieldPredicate.Text.Terminal

/-!
# Command-line arguments

One argument is the predicate. Options have a long name, some a short one too, and take their
value from the rest of their own argument or from the next one, unless that looks like an option.
After `--` every argument is the predicate. The value of an option is stored when the next part of
the command line begins, so an unknown option after it is reported first.
-/

namespace FieldPredicate.CommandLine

inductive Flag where
  | name
  | set
  | value
  | logLevel
  | help
  | version
  deriving DecidableEq

namespace Flag

def ofLong? : String → Option Flag
  | "name" => some .name
  | "set" => some .set
  | "value" => some .value
  | "log-level" => some .logLevel
  | "help" => some .help
  | "version" => some .version
  | _ => none

def ofShort? : Char → Option Flag
  | 'n' => some .name
  | 's' => some .set
  | 'h' => some .help
  | 'V' => some .version
  | _ => none

def usage : Flag → String
  | .name => "--name <NAME>"
  | .set => "--set <NAME=EXPR>"
  | .value => "--value <EXPR>"
  | .logLevel => "--log-level <LOG_LEVEL>"
  | .help => "--help"
  | .version => "--version"

end Flag

inductive UsageError where
  | unexpectedArgument (text : String)
  | unexpectedValue (value : String) (flag : Flag)
  | missingValue (flag : Flag)
  | repeated (flag : Flag)
  | invalidBinding (text : String)
  | missingPredicate
  deriving DecidableEq

def quoted (style : Text.Terminal.Style) (text : String) : String :=
  "'" ++ style.apply text ++ "'"

/-- The wording of a usage error for a terminal. What was given and what may be given stand out,
save in the reason why a binding is none. -/
def UsageError.message : UsageError → String
  | .unexpectedArgument text => "unexpected argument " ++ quoted .given text ++ " found"
  | .unexpectedValue value flag =>
      "unexpected value " ++ quoted .given value ++ " for " ++ quoted .literal flag.usage ++
        " found; no more were expected"
  | .missingValue flag =>
      "a value is required for " ++ quoted .literal flag.usage ++ " but none was supplied"
  | .repeated flag =>
      "the argument " ++ quoted .given flag.usage ++ " cannot be used multiple times"
  | .invalidBinding text =>
      "invalid value " ++ quoted .given text ++ " for " ++ quoted .literal Flag.set.usage ++
        ": binding '" ++ text ++ "' is not of the form name=expression"
  | .missingPredicate => "the following required arguments were not provided:"

/-- Why a command line asks for no evaluation. -/
inductive Stop where
  | usage (error : UsageError)
  | help
  | version
  deriving DecidableEq

structure Stored where
  predicate : Option String
  name : Option String
  bindings : List (String × String)
  value : Option String
  logLevel : Option String

/-- What was read but not stored yet. -/
inductive Pending where
  | option (flag : Flag) (value : Option String)
  | predicate (text : String)

/-- How far a command line has been read. After `--`, nothing is an option. -/
structure Progress where
  stored : Stored
  pending : Option Pending
  verbatim : Bool

/-- The name and the expression of a binding, which the first `=` separates. -/
def splitBinding? (text : String) : Option (String × String) :=
  match text.toList.dropWhile (· ≠ '=') with
  | [] => none
  | _ :: expression =>
      let name := Text.trim (String.ofList (text.toList.takeWhile (· ≠ '=')))
      if name = "" then none else some (name, String.ofList expression)

namespace Stored

/-- Stores a value that must not be there yet. -/
def once (flag : Flag) (old : Option String) (value : String) :
    Except UsageError (Option String) :=
  if old.isSome then .error (.repeated flag) else .ok (some value)

def add (stored : Stored) (flag : Flag) (value : String) : Except UsageError Stored :=
  match flag with
  | .name => (once flag stored.name value).map fun v => { stored with name := v }
  | .value => (once flag stored.value value).map fun v => { stored with value := v }
  | .logLevel => (once flag stored.logLevel value).map fun v => { stored with logLevel := v }
  | .set =>
      match splitBinding? value with
      | some binding => .ok { stored with bindings := stored.bindings ++ [binding] }
      | none => .error (.invalidBinding value)
  | .help | .version => .ok stored

end Stored

namespace Progress

def settle (progress : Progress) : Except UsageError Progress :=
  match progress.pending with
  | none => .ok progress
  | some (.predicate text) =>
      .ok { progress with pending := none, stored := { progress.stored with predicate := text } }
  | some (.option flag none) => .error (.missingValue flag)
  | some (.option flag (some value)) =>
      (progress.stored.add flag value).map fun stored =>
        { progress with pending := none, stored := stored }

/-- Ends the reading, after storing what is pending. -/
def stop (progress : Progress) (reason : Stop) : Except Stop Progress :=
  match progress.settle with
  | .ok _ => .error reason
  | .error e => .error (.usage e)

def readPredicate (progress : Progress) (text : String) : Except UsageError Progress :=
  match progress.stored.predicate, progress.pending with
  | some _, _ => .error (.unexpectedArgument text)
  | _, some (.predicate _) => .error (.unexpectedArgument text)
  | _, _ => progress.settle.map fun p => { p with pending := some (.predicate text) }

/-- Reads an option that takes a value, with the value if it is attached. -/
def readOption (progress : Progress) (flag : Flag) (attached : Option String) :
    Except UsageError Progress :=
  match progress.settle with
  | .error e => .error e
  | .ok progress =>
      match attached with
      | none => .ok { progress with pending := some (.option flag none) }
      | some value =>
          (progress.stored.add flag value).map fun stored => { progress with stored := stored }

def readFlag (progress : Progress) (flag : Flag) (attached : Option String) :
    Except Stop Progress :=
  match flag with
  | .help => progress.stop .help
  | .version => progress.stop .version
  | flag => (progress.readOption flag attached).mapError .usage

/-- Reads an argument `--name` or `--name=value`, without its dashes. -/
def readLong (progress : Progress) (text : List Char) : Except Stop Progress :=
  let name := String.ofList (text.takeWhile (· ≠ '='))
  let attached := (text.dropWhile (· ≠ '=')).tail?.map String.ofList
  match Flag.ofLong? name, attached with
  | none, _ => .error (.usage (.unexpectedArgument ("--" ++ name)))
  | some .help, some value => .error (.usage (.unexpectedValue value .help))
  | some .version, some value => .error (.usage (.unexpectedValue value .version))
  | some flag, attached => progress.readFlag flag attached

def readShort (progress : Progress) (c : Char) (rest : List Char) : Except Stop Progress :=
  match Flag.ofShort? c with
  | none => .error (.usage (.unexpectedArgument (String.ofList ['-', c])))
  | some flag =>
      let attached :=
        match rest with
        | [] => none
        | '=' :: value => some (String.ofList value)
        | value => some (String.ofList value)
      progress.readFlag flag attached

/-- Reads an argument that is no option: the value of the option before it, or the predicate. -/
def readPlain (progress : Progress) (text : String) : Except UsageError Progress :=
  match progress.pending, progress.verbatim with
  | some (.option flag none), false =>
      .ok { progress with pending := some (.option flag (some text)) }
  | _, _ => progress.readPredicate text

def read (progress : Progress) (argument : String) : Except Stop Progress :=
  if progress.verbatim then (progress.readPlain argument).mapError .usage
  else
    match argument.toList with
    | ['-', '-'] => .ok { progress with verbatim := true }
    | '-' :: '-' :: text => progress.readLong text
    | '-' :: c :: rest => progress.readShort c rest
    | _ => (progress.readPlain argument).mapError .usage

def readAll : Progress → List String → Except Stop Progress
  | progress, [] => .ok progress
  | progress, argument :: rest =>
      match progress.read argument with
      | .ok progress => progress.readAll rest
      | .error e => .error e

end Progress

def Request.ofArguments (arguments : List String) : Except Stop Request :=
  match Progress.readAll ⟨⟨none, none, [], none, none⟩, none, false⟩ arguments with
  | .error e => .error e
  | .ok progress =>
      match progress.settle with
      | .error e => .error (.usage e)
      | .ok ⟨stored, _, _⟩ =>
          match stored.predicate with
          | none => .error (.usage .missingPredicate)
          | some predicate =>
              .ok ⟨predicate, stored.name.getD "predicate", stored.bindings, stored.value,
                stored.logLevel.getD "warn"⟩

end FieldPredicate.CommandLine
