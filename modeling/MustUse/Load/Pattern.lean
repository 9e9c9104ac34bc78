import MustUse.Load.Module

/-!
# Package patterns

A pattern names packages by directory or by import path. Three dots stand for any text, so that a
pattern with dots at its end names all packages at and below a directory. Directories whose names
start with a dot or an underscore, directories of test data and other modules are passed over by
such patterns, but not when they are named exactly.

Main definitions:

- `isImportPath`: the form of import paths;
- `Wildcard`, `Wildcard.isMatch`: a text with dots;
- `Pattern`, `Pattern.ofText`;
- `Pattern.directories`: the directories that a pattern names.
-/

namespace MustUse
namespace Load

open FileTree

/-- The characters of import paths. -/
def isImportChar (c : Char) : Bool :=
  ('a' ≤ c && c ≤ 'z') || ('A' ≤ c && c ≤ 'Z') || ('0' ≤ c && c ≤ '9') ||
    ['-', '.', '_', '~', '+'].contains c

/-- Names that are reserved for devices. -/
def deviceNames : List String :=
  ["con", "prn", "aux", "nul", "com1", "com2", "com3", "com4", "com5", "com6", "com7", "com8",
   "com9", "lpt1", "lpt2", "lpt3", "lpt4", "lpt5", "lpt6", "lpt7", "lpt8", "lpt9"]

/-- Whether a text has the form of a short name: digits behind a tilde. -/
def isShortName (text : List Char) : Bool :=
  match Text.cutLast '~' text with
  | some (_, digits) => !digits.isEmpty && digits.all fun c => '0' ≤ c && c ≤ '9'
  | none => false

/-- Whether a text can be an element of an import path. -/
def isImportElement (element : List Char) : Bool :=
  let short := Text.before ['.'] element
  !element.isEmpty && element.getLast? ≠ some '.' && element.all isImportChar &&
    !deviceNames.contains (String.ofList (short.map Char.toLower)) && !isShortName short

/-- Whether a text can be an import path. -/
def isImportPath (path : String) : Bool :=
  (path.toList.splitOn '/').all isImportElement

/-- A text with dots for any text: the parts between the dots. -/
abbrev Wildcard := List (List Char)

namespace Wildcard

/-- The parts of a text between each three dots; `part` is the part that has been read. -/
def ofChars (part : List Char) : List Char → Wildcard
  | [] => [part]
  | '.' :: '.' :: '.' :: rest => part :: ofChars [] rest
  | c :: rest => ofChars (part ++ [c]) rest

/-- Whether a text ends with the given parts, each after any text. -/
def matchesAfter : Wildcard → List Char → Bool
  | [], _ => true
  | [last], text => last.isSuffixOf text
  | part :: rest, text =>
    (List.range (text.length + 1)).any fun i =>
      part.isPrefixOf (text.drop i) && matchesAfter rest (text.drop (i + part.length))

/-- Whether a text has the given parts, with any text between them. -/
def hasParts (w : Wildcard) (text : List Char) : Bool :=
  match w with
  | [] => text.isEmpty
  | [only] => text = only
  | part :: rest => part.isPrefixOf text && matchesAfter rest (text.drop part.length)

/-- Whether a text matches a pattern. A slash with dots at the end of the pattern also matches
nothing. -/
def isMatch (pattern text : List Char) : Bool :=
  hasParts (ofChars [] pattern) text ||
    ("/...".toList.isSuffixOf pattern &&
      hasParts (ofChars [] (pattern.take (pattern.length - 4))) text)

end Wildcard

/-- Whether a directory is passed over by patterns with dots. -/
def isHidden (element : String) : Bool :=
  element.toList.head? = some '.' || element.toList.head? = some '_' || element = "testdata"

/-- Whether a way leads through a directory of vendored packages. -/
def isVendored (way : List String) : Bool :=
  way.dropLast.contains "vendor"

/-- What a pattern names. -/
inductive Pattern where
  /-- A single directory. -/
  | directory (dir : Path)
  /-- Directories at and below `base` whose way from there matches; `isHidden` tells whether the
  written form of the base is a directory that is passed over. -/
  | below (base : Path) (isHidden : Bool) (way : List Char)
  /-- A single import path. -/
  | package (path : String)
  /-- Import paths that match. -/
  | packages (pattern : List Char)
deriving Repr

/-- Whether a pattern is written as a directory. -/
def isLocal (text : String) : Bool :=
  match Path.elements text with
  | first :: _ => first = "" || first = "." || first = ".."
  | [] => true

/-- The parts of a pattern before and after the last slash that stands before the dots. -/
def splitAtDots (text : List Char) : List Char × List Char :=
  let fixed := Text.before "...".toList text
  match Text.cutLast '/' fixed with
  | some (dir, start) => (dir, start ++ text.drop fixed.length)
  | none => ([], text)

/-- The elements of a path without those that lead nowhere. -/
def cleanElements (text : List Char) : List String :=
  (Path.elements (String.ofList text)).filter fun e => e ≠ "" && e ≠ "."

/-- What a pattern names, seen from a directory. -/
def Pattern.ofText (cwd : Path) (text : String) : Pattern :=
  let hasDots := Text.occurs "...".toList text.toList
  if isLocal text then
    if hasDots then
      let (dir, way) := splitAtDots text.toList
      let start := if Path.isAbsolute text then Path.resolve [] else Path.resolve cwd
      let isHiddenBase :=
        match (cleanElements dir).getLast? with
        | some ".." => false
        | some last => isHidden last
        | none => false
      .below (start (String.ofList dir)) isHiddenBase way
    else
      .directory (Path.resolve cwd text)
  else
    let clean := Text.joinWith "/" (cleanElements text.toList)
    if hasDots then .packages clean.toList else .package clean

/-- Whether one row of path elements comes before another in a walk over directories. -/
def wayLe : List String → List String → Bool
  | [], _ => true
  | _ :: _, [] => false
  | a :: as, b :: bs => a < b || (a = b && wayLe as bs)

/-- The directories with packages at and below `base` that are not passed over, in the order of a
walk, each with the way that leads to it. -/
def walk (tree : Tree) (base : Path) : List (Path × List String) :=
  let found := (tree.directoriesWithin base).filterMap fun dir =>
    let way := Module.wayFrom base dir
    let above := (List.range way.length).map dir.drop
    let isOther := above.any fun p => (tree.read? (moduleFileName :: p)).isSome
    if way.any isHidden || isOther || !isPackage tree dir then none else some (dir, way)
  found.mergeSort fun a b => wayLe a.2 b.2

/-- Whether a directory is one that a single pattern may name: it holds a package of the
module. -/
def isNameable (m : Module) (tree : Tree) (dir : Path) : Bool :=
  m.contains tree dir && isPackage tree dir

/-- The directories that a pattern names; nothing if it names something that is not there. -/
def Pattern.directories (m : Module) (tree : Tree) : Pattern → Option (List Path)
  | .directory dir => if isNameable m tree dir then some [dir] else none
  | .below base isHiddenBase way =>
    if !tree.isDirectory base || !(m.root.isWithin base || base.isWithin m.root) then
      none
    else if isHiddenBase then
      some []
    else
      let found := (walk tree base).filter fun (_, rest) =>
        !isVendored rest && Wildcard.isMatch way (Text.joinWith "/" rest).toList
      if found.all fun (dir, _) => m.contains tree dir then some (found.map (·.1)) else none
  | .package path =>
    match m.directory? path with
    | some dir => if isNameable m tree dir then some [dir] else none
    | none => none
  | .packages pattern =>
    some (((walk tree m.root).filter fun (dir, rest) =>
      !isVendored rest && Wildcard.isMatch pattern (m.importPath dir).toList).map (·.1))

end Load
end MustUse
