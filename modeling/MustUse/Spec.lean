import MustUse.Syntax.Func
import MustUse.Text.Blank
import MustUse.Text.Cut

/-!
# Function specifications

A function is named by the path of its package, for a method also by its receiver type, and by its
own name, with dots between them. Paths may contain dots, so a segment before the function's name is
taken for a receiver type only when it is in the last path element and its spelling starts with an
upper-case octet.

Main definitions:

- `Spec.parse`, `Spec.text`: reading and writing one specification;
- `Spec.parseList`: a comma-separated list;
- `Spec.isMatch`, `Spec.anyMatch`: whether a function is the one specified.
-/

namespace MustUse

open Syntax

/-- A specified function; the type name is empty for a function without receiver. -/
structure Spec where
  package : String
  type : String
  func : String
deriving DecidableEq, Repr

namespace Spec

/-- The first octet of a character's UTF-8 form. -/
def leadOctet (c : Char) : Nat :=
  let n := c.toNat
  if n < 0x80 then n
  else if n < 0x800 then 0xC0 + n / 0x40
  else if n < 0x10000 then 0xE0 + n / 0x1000
  else 0xF0 + n / 0x40000

/-- Whether an octet, read as a code point, is an upper-case letter. -/
def isUpperOctet (b : Nat) : Bool :=
  (0x41 ≤ b && b ≤ 0x5A) || (0xC0 ≤ b && b ≤ 0xDE && b ≠ 0xD7)

/-- Whether a path segment is read as a receiver type: it is in the last path element, and its
first octet is upper-case. -/
def isTypeSegment (segment : List Char) : Bool :=
  match segment with
  | [] => false
  | c :: _ => !segment.contains '/' && isUpperOctet (leadOctet c)

/-- The specification read from the characters of a text. -/
def parseChars (text : List Char) : Spec :=
  match Text.cutLast '.' text with
  | none => { package := "", type := "", func := String.ofList text }
  | some (front, func) =>
    match Text.cutLast '.' front with
    | none => { package := String.ofList front, type := "", func := String.ofList func }
    | some (package, segment) =>
      if isTypeSegment segment then
        { package := String.ofList package
          type := String.ofList segment
          func := String.ofList func }
      else
        { package := String.ofList front, type := "", func := String.ofList func }

/-- The specification read from a text. Every text is read as one. -/
def parse (s : String) : Spec :=
  parseChars s.toList

/-- The specifications of a comma-separated list; white space around an element does not count,
and blank elements are skipped. -/
def parseList (s : String) : List Spec :=
  (((s.toList.splitOn ',').map Text.trim).filter (!·.isEmpty)).map parseChars

/-- The written form. Empty parts are left out together with their dot. -/
def text (s : Spec) : String :=
  (if s.package = "" then "" else s.package ++ ".") ++
    (if s.type = "" then "" else s.type ++ ".") ++ s.func

/-- Whether `f` is the specified function: the same name, the same package path, and a receiver
exactly if a type is specified, with that name. -/
def isMatch (s : Spec) (f : Func) : Bool :=
  f.name = s.func &&
    match f.package, f.signature with
    | some package, some signature =>
      package.path = s.package &&
        match signature.receiver with
        | none => s.type = ""
        | some receiver => s.type ≠ "" && receiver.specName = s.type
    | _, _ => false

/-- Whether `f` is one of the specified functions. -/
def anyMatch (specs : List Spec) (f : Func) : Bool :=
  specs.any (·.isMatch f)

end Spec
end MustUse
