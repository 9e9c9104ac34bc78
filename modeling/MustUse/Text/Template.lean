import MustUse.Text.Cut
import MustUse.Text.Decimal
import MustUse.Text.Quoted

/-!
# Templates

A template is a text with verbs that are replaced by texts. A verb is a percent sign, flags, a
width, a precision and a letter; an argument may be chosen by its number in brackets. A verb that
cannot be filled leaves a remark in the output, and so do arguments that no verb takes.

Main definitions:

- `Verb`, `Verb.fill`: one verb and its replacement;
- `fill`: the template with all verbs replaced.
-/

namespace MustUse
namespace Text

/-- The flags of a verb. -/
structure VerbFlags where
  sharp : Bool := false
  zero : Bool := false
  plus : Bool := false
  minus : Bool := false
  space : Bool := false

/-- How a text is inserted: flags, width and precision. -/
structure Verb where
  flags : VerbFlags := {}
  width : Option Nat := none
  precision : Option Nat := none

namespace Verb

/-- The padding that brings a text of the given length to the width. -/
def padding (v : Verb) (length : Nat) : List Char :=
  let mark := if v.flags.zero && !v.flags.minus then '0' else ' '
  List.replicate (v.width.getD 0 - length) mark

/-- A text padded to the width. -/
def pad (v : Verb) (text : List Char) : List Char :=
  if v.flags.minus then text ++ v.padding text.length else v.padding text.length ++ text

/-- A text cut to the precision. -/
def truncate (v : Verb) (text : List Char) : List Char :=
  match v.precision with
  | none => text
  | some n => text.take n

/-- Whether a text can stand between back quotes. -/
def canBackquote (text : List Char) : Bool :=
  text.all fun c =>
    !((c.toNat < 0x20 && c ≠ '\t') || c = '\x60' || c.toNat = 0x7F || c.toNat = 0xFEFF)

/-- A quoted text. -/
def quoted (v : Verb) (text : List Char) : List Char :=
  let cutText := v.truncate text
  if v.flags.sharp && canBackquote cutText then v.pad ('\x60' :: cutText ++ ['\x60'])
  else
    let s := String.ofList cutText
    v.pad (if v.flags.plus then quoteAscii s else quote s).toList

/-- The bytes of a text in hexadecimal. -/
def hex (v : Verb) (upper : Bool) (text : List Char) : List Char :=
  let bytes := (String.ofList text).toUTF8.toList.map (·.toNat)
  let taken :=
    match v.precision with
    | none => bytes
    | some n => bytes.take n
  let case (c : Char) : Char := if upper then c.toUpper else c
  let mark := if v.flags.sharp then ['0', case 'x'] else []
  let codes := taken.map fun b => (hexDigits 2 b).map case
  match codes with
  | [] => v.padding 0
  | first :: rest =>
    let others := rest.flatMap fun code =>
      if v.flags.space then ' ' :: mark ++ code else code
    v.pad (mark ++ first ++ others)

/-- The remark about a verb that does not suit texts. -/
def unsuited (v : Verb) (letter : Char) (text : List Char) : List Char :=
  '%' :: '!' :: letter :: "(string=".toList ++ v.pad (v.truncate text) ++ [')']

/-- The replacement of a verb with the given letter. -/
def fill (v : Verb) (letter : Char) (text : List Char) : List Char :=
  match letter with
  | 'v' =>
    if v.flags.sharp then
      quoted { v with flags := { v.flags with sharp := false, plus := false } } text
    else v.pad (v.truncate text)
  | 's' => v.pad (v.truncate text)
  | 'q' => v.quoted text
  | 'x' => v.hex false text
  | 'X' => v.hex true text
  | 'T' => v.pad (v.truncate "string".toList)
  | _ => v.unsuited letter text

end Verb

/-- The flags at the start of a text and the rest. -/
def takeFlags (f : VerbFlags) : List Char → VerbFlags × List Char
  | '#' :: rest => takeFlags { f with sharp := true } rest
  | '0' :: rest => takeFlags { f with zero := true } rest
  | '+' :: rest => takeFlags { f with plus := true } rest
  | '-' :: rest => takeFlags { f with minus := true } rest
  | ' ' :: rest => takeFlags { f with space := true } rest
  | rest => (f, rest)

/-- The number at the start of a text and the rest. A number beyond a million counts as none and
takes the whole text. -/
def takeNumber (text : List Char) : Option Nat × List Char :=
  let isDigit (c : Char) : Bool := '0' ≤ c && c ≤ '9'
  let digits := text.takeWhile isDigit
  let rest := text.dropWhile isDigit
  if digits.isEmpty then (none, text)
  else
    let value := digits.foldl (fun n d => n * 10 + (d.toNat - 48)) 0
    if Nat.pow 10 7 + 9 < value then (none, []) else (some value, rest)

/-- Where the filling of a template stands: the next argument, whether arguments were chosen by
number, whether the chosen number is valid and was read last, and the rest of the template. -/
structure Cursor where
  arg : Nat
  reordered : Bool
  valid : Bool
  afterIndex : Bool
  rest : List Char

/-- Reads the number of an argument in brackets, if there is one. -/
def Cursor.takeIndex (c : Cursor) (count : Nat) : Cursor :=
  match c.rest with
  | '[' :: inside =>
    match cut ']' inside with
    | none =>
      { c with reordered := true, valid := false, afterIndex := false, rest := inside }
    | some (number, after) =>
      match takeNumber number with
      | (some n, []) =>
        if 1 ≤ n && n ≤ count then
          { c with arg := n - 1, reordered := true, afterIndex := true, rest := after }
        else
          { c with reordered := true, valid := false, afterIndex := true, rest := after }
      | _ => { c with reordered := true, valid := false, afterIndex := false, rest := after }
  | _ => { c with afterIndex := false }

/-- Reads a width or a precision: a star takes an argument, which is a text and so no number. -/
def Cursor.takeSize (c : Cursor) (remark : String) : Option Nat × List Char × Cursor :=
  match c.rest with
  | '*' :: rest =>
    (none, remark.toList, { c with arg := c.arg + 1, afterIndex := false, rest := rest })
  | rest =>
    let (size, after) := takeNumber rest
    (size, [],
      { c with valid := c.valid && !(c.afterIndex && size.isSome), rest := after })

/-- The remark about arguments that no verb takes. -/
def extraArgs (args : List String) : List Char :=
  if args.isEmpty then []
  else
    "%!(EXTRA ".toList ++
      (joinWith ", " (args.map ("string=" ++ ·))).toList ++ [')']

/-- The template with its verbs replaced, from argument number `arg` on. The number bounds how many
verbs are replaced. -/
def fillFrom (args : List String) : Nat → Nat → Bool → List Char → List Char
  | 0, _, _, _ => []
  | n + 1, arg, reordered, text =>
    let plain := text.takeWhile (· ≠ '%')
    match text.dropWhile (· ≠ '%') with
    | [] => plain ++ (if reordered then [] else extraArgs (args.drop arg))
    | _ :: afterSign =>
      let (flags, rest) := takeFlags {} afterSign
      let c : Cursor :=
        { arg := arg, reordered := reordered, valid := true, afterIndex := false, rest := rest }
      let c := c.takeIndex args.length
      let (width, widthRemark, c) := c.takeSize "%!(BADWIDTH)"
      let (precision, precisionRemark, c) :=
        match c.rest with
        | '.' :: after =>
          let c := { c with valid := c.valid && !c.afterIndex, rest := after }
          let (size, remark, c) := (c.takeIndex args.length).takeSize "%!(BADPREC)"
          ((if remark.isEmpty then some (size.getD 0) else none), remark, c)
        | _ => (none, [], c)
      let c := if c.afterIndex then c else c.takeIndex args.length
      let before := plain ++ widthRemark ++ precisionRemark
      match c.rest with
      | [] =>
        before ++ "%!(NOVERB)".toList ++
          (if c.reordered then [] else extraArgs (args.drop c.arg))
      | letter :: after =>
        let verb : Verb := { flags := flags, width := width, precision := precision }
        if letter = '%' then
          before ++ '%' :: fillFrom args n c.arg c.reordered after
        else if !c.valid then
          before ++ '%' :: '!' :: letter :: "(BADINDEX)".toList ++
            fillFrom args n c.arg c.reordered after
        else
          match args[c.arg]? with
          | none =>
            before ++ '%' :: '!' :: letter :: "(MISSING)".toList ++
              fillFrom args n c.arg c.reordered after
          | some value =>
            before ++ verb.fill letter value.toList ++
              fillFrom args n (c.arg + 1) c.reordered after

/-- The template with its verbs replaced by the arguments in order. -/
def fill (template : String) (args : List String) : String :=
  String.ofList (fillFrom args (template.length + 1) 0 false template.toList)

end Text
end MustUse
