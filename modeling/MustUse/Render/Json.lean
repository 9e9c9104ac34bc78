import MustUse.Render.Record
import MustUse.Text.Cut
import MustUse.Text.Quoted

/-!
# JSON output

A JSON array with one object for each diagnostic, indented by two spaces. Besides what JSON
requires, characters that have a meaning in HTML and the line separators U+2028 and U+2029 are
escaped.

Main definitions: `Json.string` and `json`.
-/

namespace MustUse
namespace Render

open Report

namespace Json

/-- The letter that stands for a character after a backslash. -/
def letter? (c : Char) : Option Char :=
  match c.toNat with
  | 0x22 => some '"'
  | 0x5C => some '\\'
  | 0x08 => some 'b'
  | 0x0C => some 'f'
  | 0x0A => some 'n'
  | 0x0D => some 'r'
  | 0x09 => some 't'
  | _ => none

/-- Whether a character is written by its code. -/
def needsCode (c : Char) : Bool :=
  c.toNat < 0x20 || c = '<' || c = '>' || c = '&' || c.toNat = 0x2028 || c.toNat = 0x2029

/-- One character inside a JSON string. -/
def stringChar (c : Char) : List Char :=
  match letter? c with
  | some l => ['\\', l]
  | none => if needsCode c then '\\' :: 'u' :: Text.hexDigits 4 c.toNat else [c]

/-- A JSON string. -/
def string (s : String) : String :=
  String.ofList ('"' :: s.toList.flatMap stringChar ++ ['"'])

/-- The value of a field. -/
def value : Value → String
  | .text s => string s
  | .number n => Text.decimal n

/-- One object, its fields on lines of their own. -/
def object (d : Diagnostic) : String :=
  let lines := (fields d).map fun (key, v) => "    \"" ++ key ++ "\": " ++ value v
  "  \x7b\n" ++ Text.joinWith ",\n" lines ++ "\n  \x7d"

end Json

/-- The diagnostics as a JSON array and a line end. -/
def json (ds : List Diagnostic) : String :=
  if ds.isEmpty then
    "[]\n"
  else
    "[\n" ++ Text.joinWith ",\n" (ds.map Json.object) ++ "\n]\n"

end Render
end MustUse
