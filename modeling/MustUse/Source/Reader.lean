import MustUse.Source.Token
import MustUse.Syntax.Node

/-!
# Reading tokens

The means with which trees are read from tokens: looking at the next token, taking it, and
repeating a reading.

Main definitions:

- `SyntaxFault`, `SyntaxFault.message`;
- `Reader`: a reading of a tree from a row of tokens;
- `accept`, `expect`, `attempt`, `separated`, `untilMark`: the basic readings;
- `build`: a node from its parts by slots.
-/

namespace MustUse
namespace Source

open Syntax

/-- A place where the tokens do not follow the grammar. -/
structure SyntaxFault where
  offset : Nat
  expected : String
  found : String
deriving DecidableEq, Repr

/-- The description of a fault. -/
def SyntaxFault.message (f : SyntaxFault) : String :=
  "expected " ++ f.expected ++ ", found " ++ f.found

/-- A reading of a row of tokens, which gives a value and the rest of the row. -/
abbrev Reader := StateT (List Token) (Except SyntaxFault)

/-- The token behind the end of a row. -/
def Token.absent : Token :=
  { kind := .done, text := "EOF", start := 0, line := 0 }

/-- Whether a token is the given mark or keyword. -/
def Token.is (t : Token) (text : String) : Bool :=
  (t.kind = .mark || t.kind = .keyword) && t.text = text

/-- Whether a token can start a type. -/
def Token.startsType (t : Token) : Bool :=
  t.kind = .word ||
    ["*", "(", "[", "<-", "func", "struct", "interface", "map", "chan"].any t.is

/-- The next token. -/
def peek : Reader Token := do
  return (← get).headD .absent

/-- The token after the next one. -/
def peekSecond : Reader Token := do
  return (← get).tail.headD .absent

/-- The next token, which is passed over. -/
def advance : Reader Token := do
  let t ← peek
  modify (·.tail)
  return t

/-- A fault at the next token. -/
def fault {α : Type} (expected : String) : Reader α := do
  let t ← peek
  let found :=
    match t.kind with
    | .mark => "\x27" ++ t.text ++ "\x27"
    | .keyword => "\x27" ++ t.text ++ "\x27"
    | _ => t.text
  throw { offset := t.start, expected := expected, found := found }

/-- Whether the next token is the given mark or keyword. -/
def sees (text : String) : Reader Bool := do
  return (← peek).is text

/-- Passes over the given mark or keyword if it is next, and tells whether it was. -/
def accept (text : String) : Reader Bool := do
  if ← sees text then
    let _ ← advance
    return true
  else
    return false

/-- Passes over the given mark or keyword, which must be next. -/
def expect (text : String) : Reader Token := do
  if ← sees text then advance else fault ("\x27" ++ text ++ "\x27")

/-- A reading that is undone if it fails. -/
def attempt {α : Type} (r : Reader α) : Reader (Option α) := fun tokens =>
  match r tokens with
  | .ok (a, rest) => .ok (some a, rest)
  | .error _ => .ok (none, tokens)

/-- How often something can be read from the tokens that are left. -/
def remaining : Reader Nat := do
  return (← get).length + 1

/-- At most `bound` readings, until one gives nothing. -/
def repeated {α : Type} (r : Reader (Option α)) : Nat → Reader (List α)
  | 0 => return []
  | bound + 1 => do
    match ← r with
    | none => return []
    | some a => return a :: (← repeated r bound)

/-- Further readings, each after a comma. -/
def further {α : Type} (r : Reader α) : Reader (List α) := do
  repeated (do if ← accept "," then return some (← r) else return none) (← remaining)

/-- Readings with commas between them. -/
def separated {α : Type} (r : Reader α) : Reader (List α) := do
  let first ← r
  return first :: (← further r)

/-- Readings with separators between them up to a closing mark, which is passed over. A separator
may stand before the closing mark. -/
def untilMark {α : Type} (separator closing : String) (r : Reader α) : Reader (List α) := do
  let items ← repeated
    (do
      if ← sees closing then
        return none
      else
        let a ← r
        if !(← accept separator) then
          if !(← sees closing) then fault ("\x27" ++ closing ++ "\x27")
        return some a)
    (← remaining)
  let _ ← expect closing
  return items

/-- A value that is changed by readings as long as one applies. -/
def extended {α : Type} (r : α → Reader (Option α)) : Nat → α → Reader α
  | 0, a => return a
  | bound + 1, a => do
    match ← r a with
    | none => return a
    | some b => extended r bound b

/-- A node with the given children in their slots. -/
def build (kind : Kind) (attrs : Attrs) (parts : List (Slot × List Node)) : Node :=
  .mk kind .x attrs (parts.flatMap fun (slot, nodes) => nodes.map (·.inSlot slot))

/-- The node of a token that stands for itself. -/
def leaf (kind : Kind) (t : Token) : Node :=
  build kind { start := some t.start, name := t.text } []

/-- A word as an identifier. -/
def identifier : Reader Node := do
  if (← peek).kind = .word then return leaf .ident (← advance) else fault "'IDENT'"

end Source
end MustUse
