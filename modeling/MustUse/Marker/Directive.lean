import MustUse.Marker.Name
import MustUse.Text.Blank

/-!
# Directives

A directive is a line comment that starts with a marker name. What follows the name after a space
are its arguments, up to a further comment on the same line.

Main definitions: `Directive` and `Directive.parse?`.
-/

namespace MustUse
namespace Marker

/-- A directive: the marker it names and its arguments, empty when it has none. -/
structure Directive where
  name : Name
  args : String
deriving DecidableEq, Repr

namespace Directive

/-- The first word of a text and what follows the space after it. -/
def headAndRest (text : List Char) : List Char × List Char :=
  match Text.cut ' ' text with
  | none => (text, [])
  | some parts => parts

/-- The directive in the body of a line comment, the text after the slashes. -/
def parseBody? (body : List Char) : Option Directive :=
  let (head, rest) := headAndRest (Text.before " //".toList (Text.trim body))
  match Name.parseChars? head with
  | none => none
  | some name => some { name := name, args := String.ofList (Text.trim rest) }

/-- The directive that a comment is, if it is one. -/
def parse? (comment : String) : Option Directive :=
  match Text.after? "//".toList comment.toList with
  | none => none
  | some body => parseBody? body

/-- Whether the directive asks that results be used. -/
def isMustUse (d : Directive) : Bool :=
  d.name = Name.mustUse

end Directive
end Marker
end MustUse
