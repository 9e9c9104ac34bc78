import MustUse.Text.Cut
import MustUse.Toml.Value

/-!
# Documents of TOML

What a document defines. Statements are carried out in order; a statement that defines a key a
second time is an error, with these exceptions: a table that was only implied may be defined, a
dotted key may add to a table, and a key that holds an array may be defined again.

Main definitions:

- `Item`, `Document`;
- `Document.ofStatements?`, `Document.parse?`;
- `Document.keys`: every key in the order of the document.
-/

namespace MustUse
namespace Toml

/-- What a key stands for. -/
inductive Item where
  /-- A value other than a table. -/
  | value (v : Value)
  | table (entries : List (String × Item))
  /-- An array of tables made by headers; the last one is the one being filled. -/
  | tables (elements : List (List (String × Item)))
deriving Repr

/-- Entries of a table. -/
abbrev Entries := List (String × Item)

/-- Entries with the item of a key replaced, or added at the end. -/
def putEntry (key : String) (item : Item) : Entries → Entries
  | [] => [(key, item)]
  | (k, i) :: rest => if k = key then (k, item) :: rest else (k, i) :: putEntry key item rest

/-- A document while its statements are carried out. -/
structure Document where
  root : Entries
  /-- The table that assignments go to. -/
  context : Key
  /-- Keys that were only implied by longer ones. -/
  implied : List Key
  /-- Keys that hold arrays. -/
  arrays : List Key
  /-- Every key in the order of the document. -/
  keys : List Key
deriving Repr

namespace Document

/-- The document without statements. -/
def empty : Document :=
  { root := [], context := [], implied := [], arrays := [], keys := [] }

/-- The entries of the table at a key, drilling into the last element of arrays of tables. Nothing
if there is no table. -/
def entriesAt? : Key → Entries → Option Entries
  | [], entries => some entries
  | k :: rest, entries =>
    match entries.lookup k with
    | some (.table inner) => entriesAt? rest inner
    | some (.tables elements) => elements.getLast?.bind (entriesAt? rest)
    | _ => none

/-- The entries with the table at a key changed. -/
def updateAt (f : Entries → Entries) : Key → Entries → Entries
  | [], entries => f entries
  | k :: rest, entries =>
    match entries.lookup k with
    | some (.table inner) => putEntry k (.table (updateAt f rest inner)) entries
    | some (.tables elements) =>
      match elements.getLast? with
      | some last => putEntry k (.tables (elements.dropLast ++ [updateAt f rest last])) entries
      | none => entries
    | _ => entries

/-- The key is implied. -/
def imply (d : Document) (key : Key) : Document :=
  { d with implied := key :: d.implied.filter (· ≠ key) }

/-- The key is not implied any more. -/
def define (d : Document) (key : Key) : Document :=
  { d with implied := d.implied.filter (· ≠ key) }

/-- The key whose kind is recorded for `key` in the current table. The empty key stands for the
table itself, except at the top. -/
def kindKey (d : Document) (key : String) : Key :=
  if key = "" then (if d.context = [] then [""] else d.context) else d.context ++ [key]

/-- Records whether `key` in the current table holds an array. -/
def setKind (d : Document) (key : String) (isArray : Bool) : Document :=
  let k := d.kindKey key
  let others := d.arrays.filter (· ≠ k)
  { d with arrays := if isArray then k :: others else others }

/-- Defines `key` in the current table. -/
def put? (d : Document) (key : String) (item : Item) : Option Document := do
  let entries ← entriesAt? d.context d.root
  let full := d.context ++ [key]
  let stored := { d with root := updateAt (putEntry key item) d.context d.root }
  match entries.lookup key with
  | none => some stored
  | some _ =>
    if d.arrays.contains full then some (stored.define full)
    else if d.implied.contains full then some (d.define full)
    else none

/-- Makes the tables that a key runs through, implied where they are missing. -/
def reach? (d : Document) (path : Key) : Key → Option Document
  | [] => some { d with context := path }
  | k :: rest => do
    let entries ← entriesAt? path d.root
    let d :=
      if (entries.lookup k).isSome then d
      else
        { (d.imply (path ++ [k])) with
          root := updateAt (putEntry k (.table [])) path d.root }
    match (← entriesAt? path d.root).lookup k with
    | some (.value _) => none
    | _ => reach? d (path ++ [k]) rest

/-- Enters the table at a key, which is made for it; for an array, a new last element is made. -/
def enter? (d : Document) (key : Key) (isArray : Bool) : Option Document :=
  match key.getLast? with
  | none => none
  | some last => do
    let d ← d.reach? [] key.dropLast
    let entries ← entriesAt? d.context d.root
    let d ←
      if isArray then
        match entries.lookup last with
        | none =>
          some { d with root := updateAt (putEntry last (.tables [[]])) d.context d.root }
        | some (.tables elements) =>
          some { d with
            root := updateAt (putEntry last (.tables (elements ++ [[]]))) d.context d.root }
        | some _ => none
      else d.put? last (.table [])
    return { d with context := key }

/-- Enters the tables of a dotted key one after the other. -/
def enterImplied? (d : Document) : Key → Option Document
  | [] => some d
  | k :: rest => do
    let key := d.context ++ [k]
    let d ← (d.imply key).enter? key false
    enterImplied? d rest

mutual

/-- Defines the tables inside a value that is assigned to `key` in the current table. -/
def open? (d : Document) (key : String) (inArray : Bool) : Value → Option Document
  | .array items => openAll? (d.setKind key true) key items
  | .table keys values => do
    let outer := d.context
    let inside := d.context ++ [key]
    let d ← (d.imply inside).enter? inside inArray
    let d ← assignAll? d inside keys values
    return { d with context := outer }
  | _ => some d

/-- Defines the tables inside the items of an array. -/
def openAll? (d : Document) (key : String) : List Value → Option Document
  | [] => some d
  | item :: rest => do
    let d ← open? d key true item
    openAll? d key rest

/-- Carries out the assignments of an inline table at `inside`. -/
def assignAll? (d : Document) (inside : Key) (keys : List Key) :
    List Value → Option Document
  | [] => some d
  | value :: rest =>
    match keys with
    | [] => some d
    | key :: more => do
      let last ← key.getLast?
      let d ← d.enterImplied? key.dropLast
      let d := { d with keys := d.keys ++ [d.context ++ [last]] }
      let d ← open? d last false value
      let d ← d.put? last (.value value)
      let d := d.setKind last (match value with
        | .array _ => true
        | _ => false)
      assignAll? { d with context := inside } inside more rest

end

/-- Carries out one statement. -/
def step? (d : Document) : Statement → Option Document
  | .header isArray key => do
    let d ← d.enter? key isArray
    let d := d.setKind "" false
    return { d with keys := d.keys ++ [key] }
  | .assign key value => d.assignAll? d.context [key] [value]

/-- The document that statements make. -/
def ofStatements? (statements : List Statement) : Option Document :=
  statements.foldlM step? empty

/-- The document that a text is; nothing if it is malformed or defines a key twice. -/
def parse? (text : String) : Option Document :=
  (statements? text).bind ofStatements?

end Document

/-! ## Writing keys -/

/-- A character inside a quoted part of a key. -/
def quotedKeyChar (c : Char) : String :=
  match c.toNat with
  | 0x22 => "\\\""
  | 0x5C => "\\\\"
  | 0x08 => "\\b"
  | 0x09 => "\\t"
  | 0x0A => "\\n"
  | 0x0C => "\\f"
  | 0x0D => "\\r"
  | n =>
    if n < 0x20 || n = 0x7F then
      "\\u00" ++ String.ofList
        [Char.ofNat (48 + n / 16),
          if n % 16 < 10 then Char.ofNat (48 + n % 16) else Char.ofNat (87 + n % 16)]
    else String.ofList [c]

/-- One part of a key, quoted unless it is a bare word. -/
def partText (part : String) : String :=
  if part ≠ "" && part.toList.all isBare then part
  else "\"" ++ String.join (part.toList.map quotedKeyChar) ++ "\""

/-- The written form of a key. -/
def keyText (key : Key) : String :=
  Text.joinWith "." (key.map partText)

end Toml
end MustUse
