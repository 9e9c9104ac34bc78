import MustUse.Source.Lexeme
import MustUse.Syntax.File

/-!
# Tokens and comment groups

The tokens of a source text with their places. A line break ends a statement when the token before
it can stand at the end of one; a semicolon is put in its place. Comments are collected into groups:
a group holds comments on neighbouring lines with no token between them. A group that ends on the
line above a token is the lead of that token.

Main definitions:

- `Token`, `Scan`;
- `remarks`: tokens and comments in order, with the semicolons put in;
- `scan`: the tokens of a text, each with its lead, and the comment groups.
-/

namespace MustUse
namespace Source

open Syntax

/-- The classes of tokens. -/
inductive TokenClass where
  | word
  | keyword
  | literal
  | mark
  | stray
  /-- The end of the text. -/
  | done
deriving DecidableEq, Repr

/-- A token with its start, its line and the number of the comment group that leads it. -/
structure Token where
  kind : TokenClass
  text : String
  start : Nat
  line : Nat
  lead : Option Nat := none
deriving DecidableEq, Repr

/-- A comment with the lines it starts and ends on. -/
structure PlacedComment where
  comment : Comment
  line : Nat
  lastLine : Nat
deriving DecidableEq, Repr

/-- A token or a comment. -/
inductive Remark where
  | token (t : Token)
  | comment (c : PlacedComment)
deriving Repr

/-- The keywords. -/
def keywords : List String :=
  ["break", "case", "chan", "const", "continue", "default", "defer", "else", "fallthrough", "for",
   "func", "go", "goto", "if", "import", "interface", "map", "package", "range", "return",
   "select", "struct", "switch", "type", "var"]

/-- How many bytes a text takes. -/
def byteLength (text : List Char) : Nat :=
  text.foldl (fun size c => size + c.utf8Size) 0

/-- How many line feeds a text has. -/
def lineFeeds (text : List Char) : Nat :=
  text.count '\n'

/-- The token class of a lexeme that is a token. -/
def tokenClass (l : Lexeme) : TokenClass :=
  match l.kind with
  | .word => if keywords.contains (String.ofList l.text) then .keyword else .word
  | .literal => .literal
  | .mark => .mark
  | _ => .stray

/-- Whether a line break after a token ends a statement. -/
def endsStatement (t : Token) : Bool :=
  match t.kind with
  | .word => true
  | .literal => true
  | .keyword => ["break", "continue", "fallthrough", "return"].contains t.text
  | .mark => ["++", "--", ")", "]", "\x7d"].contains t.text
  | _ => false

/-- Whether only blanks and comments stand before the next line break or the end of the text. -/
def isLineEnd : List Lexeme → Bool
  | [] => true
  | l :: rest =>
    match l.kind with
    | .lineFeed => true
    | .blank => isLineEnd rest
    | .comment => l.text[1]? = some '/' || l.text.contains '\n' || isLineEnd rest
    | _ => false

/-- A semicolon. -/
def semicolon (start line : Nat) : Remark :=
  .token { kind := .mark, text := ";", start := start, line := line }

/-- The tokens and comments of a row of lexemes; `isOpen` tells whether a line break ends a
statement. Carriage returns do not belong to the text of a comment. -/
def remarks (start line : Nat) (isOpen : Bool) : List Lexeme → List Remark
  | [] =>
    let done : Remark := .token { kind := .done, text := "EOF", start := start, line := line }
    if isOpen then [semicolon start line, done] else [done]
  | l :: rest =>
    let next := start + byteLength l.text
    let nextLine := line + lineFeeds l.text
    match l.kind with
    | .blank => remarks next nextLine isOpen rest
    | .lineFeed =>
      if isOpen then semicolon start line :: remarks next nextLine false rest
      else remarks next nextLine false rest
    | .comment =>
      let text := String.ofList (l.text.filter (· ≠ '\r'))
      let comment : Remark :=
        .comment
          { comment := { offset := start, text := text }, line := line, lastLine := nextLine }
      if isOpen && isLineEnd (l :: rest) then
        semicolon start line :: comment :: remarks next nextLine false rest
      else
        comment :: remarks next nextLine isOpen rest
    | _ =>
      let token : Token :=
        { kind := tokenClass l, text := String.ofList l.text, start := start, line := line }
      .token token :: remarks next nextLine (endsStatement token) rest

/-- The comments in groups: neighbours belong together if at most `gap` lines lie between the end
of the one and the start of the other. -/
def groups (gap : Nat) : List PlacedComment → List (List PlacedComment)
  | [] => []
  | c :: rest =>
    match groups gap rest with
    | (next :: more) :: others =>
      if next.line ≤ c.lastLine + gap then (c :: next :: more) :: others
      else [c] :: (next :: more) :: others
    | others => [c] :: others

/-- The groups of the comments before a token. Comments on the line of the token before them make a
group of their own, which leads nothing; the second list holds the groups that may lead. -/
def groupsAfter (lineBefore : Nat) (comments : List PlacedComment) :
    List (List PlacedComment) × List (List PlacedComment) :=
  match comments with
  | [] => ([], [])
  | c :: _ =>
    if c.line = lineBefore then
      match groups 0 comments with
      | trailing :: rest => ([trailing], groups 1 rest.flatten)
      | [] => ([], [])
    else
      ([], groups 1 comments)

/-- The tokens of a text and its comment groups. -/
structure Scan where
  tokens : List Token
  groups : List (List Comment)
deriving Repr

/-- The tokens of a row of remarks with their leads; `lineBefore` is the line of the token before,
`comments` are the comments since then, and `found` the groups before them. -/
def attachLeads (lineBefore : Nat) (comments : List PlacedComment) (found : List (List Comment)) :
    List Remark → Scan
  | [] => { tokens := [], groups := found }
  | .comment c :: rest => attachLeads lineBefore (comments ++ [c]) found rest
  | .token t :: rest =>
    let (trailing, leading) := groupsAfter lineBefore comments
    let all := found ++ (trailing ++ leading).map fun g => g.map (·.comment)
    let isLead : Bool :=
      match leading.getLast?.bind (·.getLast?) with
      | some last => last.lastLine + 1 = t.line
      | none => false
    let token := { t with lead := if isLead then some (all.length - 1) else none }
    let later := attachLeads t.line [] all rest
    { later with tokens := token :: later.tokens }

/-- The characters of a text behind a byte order mark, and how many bytes it takes. -/
def skipMark (text : String) : Nat × List Char :=
  match text.toList with
  | c :: rest => if c.toNat = 0xFEFF then (c.utf8Size, rest) else (0, c :: rest)
  | [] => (0, [])

/-- The tokens and the comment groups of a text. -/
def scan (text : String) : Scan :=
  let (start, rest) := skipMark text
  attachLeads 0 [] [] (remarks start 1 false (lexemes rest))

/-- The offsets at which the lines of a text start. -/
def lineStarts (start : Nat) : List Char → List Nat
  | [] => []
  | c :: rest =>
    let next := start + c.utf8Size
    if c = '\n' then next :: lineStarts next rest else lineStarts next rest

end Source
end MustUse
