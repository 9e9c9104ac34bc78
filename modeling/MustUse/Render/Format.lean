import MustUse.Config.Setting
import MustUse.Render.Json
import MustUse.Render.Text
import MustUse.Render.Yaml

/-!
# Output formats

The choice of an output format by name, and writing to a sink of limited capacity.

Main definitions:

- `Format`, `Format.ofName`;
- `Format.writes`: the single writes of a rendering, and `Format.render`, all of them together;
- `useColor`: whether text is colored;
- `writeWithin`: what arrives at a sink that refuses to hold more than a number of bytes.
-/

namespace MustUse
namespace Render

open Report Config

/-- An output format. Only text can be colored. -/
inductive Format where
  | text (color : Bool)
  | json
  | yaml
deriving DecidableEq, Repr

namespace Format

/-- The format with the given name. -/
def ofName (name : String) (color : Bool) : Except SettingError Format :=
  if name = "text" then .ok (.text color)
  else if name = "json" then .ok .json
  else if name = "yaml" then .ok .yaml
  else .error (.unknownFormat name)

/-- The single writes of a rendering: one for each line of text, one for a structured document. -/
def writes : Format → List Diagnostic → List String
  | .text color, ds => ds.map (line color)
  | .json, ds => [Render.json ds]
  | .yaml, ds => [Render.yaml ds]

/-- The rendering of diagnostics. -/
def render (f : Format) (ds : List Diagnostic) : String :=
  String.join (f.writes ds)

end Format

/-- Whether text is colored in a color mode; in automatic mode only on a terminal. -/
def useColor (mode : String) (isTerminal : Bool) : Except SettingError Bool :=
  if mode = "on" then .ok true
  else if mode = "off" then .ok false
  else if mode = "auto" then .ok isTerminal
  else .error (.unknownColor mode)

/-- What a sink with room for `room` bytes receives: the writes up to the first that does not fit,
and whether there was one. -/
def writeWithin (room : Nat) : List String → Bool × String
  | [] => (false, "")
  | s :: rest =>
    if room < s.utf8ByteSize then
      (true, "")
    else
      let (failed, written) := writeWithin (room - s.utf8ByteSize) rest
      (failed, s ++ written)

end Render
end MustUse
