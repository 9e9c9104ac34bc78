import MustUse.Config.Basic
import MustUse.Spec
import MustUse.Text.Csv
import MustUse.Text.Numeral

/-!
# Flags of the command line

A flag has a long name and may have a letter. A long flag takes its value after an equals sign or
from the next argument; letters can be grouped behind one dash. Flags and other arguments may be
mixed, and a double dash ends the flags.

Main definitions:

- `Flag`, `FlagError`, `FlagError.message`;
- `Options`: everything that a command line says;
- `readArgument`: what a single argument means;
- `Options.ofArguments`: the options of a command line.
-/

namespace MustUse
namespace Command

open Config

/-- The flags. -/
inductive Flag where
  | color
  | config
  | dir
  | format
  | funcs
  | help
  | jobs
  | tests
  | verbose
deriving DecidableEq, Repr

namespace Flag

/-- Every flag in the order of their names. -/
def all : List Flag :=
  [.color, .config, .dir, .format, .funcs, .help, .jobs, .tests, .verbose]

/-- The long name of a flag. -/
def name : Flag → String
  | .color => "color"
  | .config => "config"
  | .dir => "dir"
  | .format => "format"
  | .funcs => "funcs"
  | .help => "help"
  | .jobs => "jobs"
  | .tests => "tests"
  | .verbose => "verbose"

/-- The letter of a flag. -/
def letter? : Flag → Option Char
  | .dir => some 'C'
  | .help => some 'h'
  | .verbose => some 'v'
  | _ => none

/-- Whether a flag is a switch, which may stand without a value. -/
def isSwitch : Flag → Bool
  | .help => true
  | .tests => true
  | .verbose => true
  | _ => false

/-- The flag with the given long name. -/
def ofName? (name : String) : Option Flag :=
  all.find? (·.name = name)

/-- The flag with the given letter. -/
def ofLetter? (c : Char) : Option Flag :=
  all.find? (·.letter? = some c)

/-- A flag as it is shown to readers. -/
def text (f : Flag) : String :=
  match f.letter? with
  | some c => "-" ++ String.singleton c ++ ", --" ++ f.name
  | none => "--" ++ f.name

end Flag

/-- Why a value does not fit its flag. -/
inductive ValueFault where
  | boolean (value : String)
  | integer (value : String) (error : Text.NumeralError)
  | fields (fault : Text.Csv.Fault)
deriving DecidableEq, Repr

/-- The description of a fault. -/
def ValueFault.message : ValueFault → String
  | .boolean value => "strconv.ParseBool: parsing " ++ Text.quote value ++ ": invalid syntax"
  | .integer value error =>
    "strconv.ParseInt: parsing " ++ Text.quote value ++
      match error with
      | .malformed => ": invalid syntax"
      | .outOfRange => ": value out of range"
  | .fields fault => fault.message

/-- Why a command line cannot be read. -/
inductive FlagError where
  | badSyntax (arg : String)
  | unknownName (name : String)
  /-- A group of letters starts with one that belongs to no flag. -/
  | unknownLetter (letter : Char) (letters : String)
  | nameNeedsValue (flag : Flag)
  | letterNeedsValue (letter : Char)
  | badValue (flag : Flag) (value : String) (fault : ValueFault)
deriving DecidableEq, Repr

/-- The description of an error. A letter is shown by the first octet of its written form. -/
def FlagError.message : FlagError → String
  | .badSyntax arg => "bad flag syntax: " ++ arg
  | .unknownName name => "unknown flag: --" ++ name
  | .unknownLetter letter letters =>
    "unknown shorthand flag: " ++ Text.quoteSingle (Char.ofNat (Spec.leadOctet letter)) ++
      " in -" ++ letters
  | .nameNeedsValue flag => "flag needs an argument: --" ++ flag.name
  | .letterNeedsValue letter =>
    "flag needs an argument: " ++ Text.quoteSingle letter ++ " in -" ++ String.singleton letter
  | .badValue flag value fault =>
    "invalid argument " ++ Text.quote value ++ " for " ++ Text.quote flag.text ++ " flag: " ++
      fault.message

/-- Everything that a command line says. -/
structure Options where
  overrides : Overrides := {}
  /-- The configuration file, empty if it is to be searched. -/
  config : String := ""
  /-- The directory to work in, empty for the current one. -/
  dir : String := ""
  verbose : Bool := false
  help : Bool := false
  /-- The arguments that are no flags. -/
  patterns : List String := []
deriving DecidableEq, Repr

/-- The value of a switch. -/
def readSwitch (value : String) : Except ValueFault Bool :=
  if ["1", "t", "T", "true", "TRUE", "True"].contains value then .ok true
  else if ["0", "f", "F", "false", "FALSE", "False"].contains value then .ok false
  else .error (.boolean value)

/-- The value of a number. -/
def readNumber (value : String) : Except ValueFault Int :=
  (Text.readInt .marked value.toList).mapError (.integer value)

/-- The values of a list. -/
def readFields (value : String) : Except ValueFault (List String) :=
  (Text.Csv.record value).mapError .fields

namespace Options

/-- The options after a flag with a value. A later value of a flag replaces an earlier one, but
lists grow. -/
def set (o : Options) (flag : Flag) (value : String) : Except ValueFault Options :=
  let given := o.overrides
  match flag with
  | .color => .ok { o with overrides := { given with color := some value } }
  | .config => .ok { o with config := value }
  | .dir => .ok { o with dir := value }
  | .format => .ok { o with overrides := { given with format := some value } }
  | .funcs => (readFields value).map fun fs =>
    { o with overrides := { given with funcs := some (given.funcs.getD [] ++ fs) } }
  | .help => (readSwitch value).map fun b => { o with help := b }
  | .jobs => (readNumber value).map fun n =>
    { o with overrides := { given with jobs := some n } }
  | .tests => (readSwitch value).map fun b =>
    { o with overrides := { given with tests := some b } }
  | .verbose => (readSwitch value).map fun b => { o with verbose := b }

/-- The options after several flags with values. -/
def setAll (o : Options) : List (Flag × String) → Except FlagError Options
  | [] => .ok o
  | (flag, value) :: rest =>
    match o.set flag value with
    | .error fault => .error (.badValue flag value fault)
    | .ok next => next.setAll rest

end Options

/-- What a single argument means. -/
inductive Argument where
  /-- It is no flag. -/
  | pattern (text : String)
  /-- No flags follow. -/
  | endOfFlags
  /-- Flags with their values. -/
  | flags (given : List (Flag × String))
  /-- Flags with their values, and a last flag that takes the next argument; `missing` is the
  error if there is none. -/
  | pending (given : List (Flag × String)) (last : Flag) (missing : FlagError)
deriving Repr

/-- The meaning of an argument behind two dashes. -/
def readLong (body : List Char) : Except FlagError Argument :=
  match body with
  | [] => .ok .endOfFlags
  | c :: _ =>
    if c = '-' || c = '=' then
      .error (.badSyntax (String.ofList ('-' :: '-' :: body)))
    else
      let (name, value?) :=
        match Text.cut '=' body with
        | some (name, value) => (String.ofList name, some (String.ofList value))
        | none => (String.ofList body, none)
      match Flag.ofName? name, value? with
      | none, _ => .error (.unknownName name)
      | some flag, some value => .ok (.flags [(flag, value)])
      | some flag, none =>
        if flag.isSwitch then .ok (.flags [(flag, "true")])
        else .ok (.pending [] flag (.nameNeedsValue flag))

/-- The meaning of a group of letters. Letters that start a group reserved for the tests of a
program are passed over. -/
def readLetters (given : List (Flag × String)) : List Char → Except FlagError Argument
  | [] => .ok (.flags given)
  | c :: rest =>
    if "test.".toList.isPrefixOf (c :: rest) then
      .ok (.flags given)
    else
      match Flag.ofLetter? c with
      | none => .error (.unknownLetter c (String.ofList (c :: rest)))
      | some flag =>
        match rest with
        | '=' :: d :: value => .ok (.flags (given ++ [(flag, String.ofList (d :: value))]))
        | _ =>
          if flag.isSwitch then readLetters (given ++ [(flag, "true")]) rest
          else if rest.isEmpty then .ok (.pending given flag (.letterNeedsValue c))
          else .ok (.flags (given ++ [(flag, String.ofList rest)]))

/-- The meaning of an argument. The empty text and a single dash are no flags. -/
def readArgument (arg : String) : Except FlagError Argument :=
  match arg.toList with
  | '-' :: '-' :: body => readLong body
  | '-' :: c :: letters => readLetters [] (c :: letters)
  | _ => .ok (.pattern arg)

namespace Options

/-- The options after more arguments. -/
def read (o : Options) : List String → Except FlagError Options
  | [] => .ok o
  | arg :: rest =>
    match readArgument arg with
    | .error e => .error e
    | .ok (.pattern text) => read { o with patterns := o.patterns ++ [text] } rest
    | .ok .endOfFlags => .ok { o with patterns := o.patterns ++ rest }
    | .ok (.flags given) =>
      match o.setAll given with
      | .error e => .error e
      | .ok next => next.read rest
    | .ok (.pending given last missing) =>
      match rest with
      | [] => .error missing
      | value :: rest =>
        match o.setAll (given ++ [(last, value)]) with
        | .error e => .error e
        | .ok next => next.read rest

/-- The options of a command line. -/
def ofArguments (args : List String) : Except FlagError Options :=
  read {} args

end Options
end Command
end MustUse
