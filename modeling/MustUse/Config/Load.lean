import MustUse.Config.Basic
import MustUse.Toml.Document

/-!
# Reading a configuration file

A configuration file is a TOML document with one key for each setting. Keys are matched without
regard to case. Settings that the file does not mention keep their defaults.

Main definitions:

- `LoadError`, `LoadError.message`;
- `Decoder`, `decode`: the settings that a document gives and the keys that are none;
- `loadWith`, `load`: the settings of a file.
-/

namespace MustUse
namespace Config

open Toml

/-- Why a configuration file cannot be used. -/
inductive LoadError where
  /-- The file cannot be read. -/
  | unreadable
  /-- The file is not a TOML document, or a setting has a value of the wrong type. -/
  | undecodable
  /-- The file has keys that are no settings. -/
  | unknownKeys (path : String) (keys : List String)
  /-- A setting is invalid. -/
  | invalid (path : String) (error : SettingError)
deriving DecidableEq, Repr

/-- The description of an error. -/
def LoadError.message : LoadError → String
  | .unreadable => "parsing config file: the file cannot be read"
  | .undecodable => "parsing config file: the file is not valid"
  | .unknownKeys path keys =>
    "unknown configuration key in " ++ path ++ ": " ++ Text.joinWith ", " keys
  | .invalid path error => path ++ ": " ++ error.message

/-- A letter without regard to case; the long s is an s. -/
def foldCase (c : Char) : Char :=
  if 'A' ≤ c && c ≤ 'Z' then Char.ofNat (c.toNat + 32)
  else if c.toNat = 0x17F then 's'
  else if c.toNat = 0x212A then 'k'
  else c

/-- Whether two words differ at most in the case of their letters. -/
def sameWord (a b : String) : Bool :=
  a.toList.map foldCase = b.toList.map foldCase

/-- The text of an item. -/
def asText? : Item → Option String
  | .value (.text s) => some s
  | _ => none

/-- The texts of an array. -/
def asTexts? : Item → Option (List String)
  | .value (.array items) => items.mapM fun
    | .text s => some s
    | _ => none
  | _ => none

/-- The integer of an item. -/
def asInteger? : Item → Option Int
  | .value (.integer n) => some n
  | _ => none

/-- The boolean of an item. -/
def asBool? : Item → Option Bool
  | .value (.bool b) => some b
  | _ => none

/-- The given settings after one more key, if the key is a setting and the item has its type. The
outer option tells apart a wrong type, the inner one a key that is no setting. -/
def applyEntry (o : Overrides) (key : String) (item : Item) : Option (Option Overrides) :=
  if sameWord key "format" then
    (asText? item).map fun v => some { o with format := some v }
  else if sameWord key "color" then
    (asText? item).map fun v => some { o with color := some v }
  else if sameWord key "funcs" then
    (asTexts? item).map fun v => some { o with funcs := some v }
  else if sameWord key "jobs" then
    (asInteger? item).map fun v => some { o with jobs := some v }
  else if sameWord key "tests" then
    (asBool? item).map fun v => some { o with tests := some v }
  else
    some none

/-- The given settings after all entries of a document, and the keys that are settings. -/
def applyEntries (o : Overrides) : Entries → Option (Overrides × List Key)
  | [] => some (o, [])
  | (key, item) :: rest =>
    match applyEntry o key item with
    | none => none
    | some none => applyEntries o rest
    | some (some changed) =>
      (applyEntries changed rest).map fun (final, known) => (final, [key] :: known)

/-- What reads the text of a configuration file: the settings that the text gives, and its keys that
are no settings. Nothing if the text is malformed or a value has the wrong type. -/
abbrev Decoder := String → Option (Overrides × List String)

/-- The settings that a document gives, and its keys that are no settings, written in the order of
the document. -/
def decode : Decoder := fun text => do
  let document ← Document.parse? text
  let (given, known) ← applyEntries {} document.root
  let unknown := document.keys.filter (!known.contains ·)
  return (given, unknown.map keyText)

/-- The settings of the file at `path` with the given content over the defaults; nothing is given
for a file that cannot be read. -/
def loadWith (decode : Decoder) (path : String) (content : Option String) :
    Except LoadError Settings :=
  match content with
  | none => .error .unreadable
  | some text =>
    match decode text with
    | none => .error .undecodable
    | some (given, []) =>
      let settings := given.apply .defaults
      match settings.validate with
      | .error e => .error (.invalid path e)
      | .ok () => .ok settings
    | some (_, unknown) => .error (.unknownKeys path unknown)

/-- The settings of a file that is a document. -/
def load (path : String) (content : Option String) : Except LoadError Settings :=
  loadWith decode path content

end Config
end MustUse
