import MustUse.Source.Reader

/-!
# The grammar

Trees from tokens. Each rule of the grammar is a reading that is given the readings for what is
nested inside of it; the recursion is tied together by depth, which no text can exceed that has
fewer tokens.

Main definitions:

- `Nested`: the readings for nested types, expressions, statements and blocks;
- `typeExpr`, `expression`, `statement`, `declaration`: the rules;
- `nested`: the readings up to a depth;
- `ParsedFile`, `parse`: the tree of a whole text.
-/

namespace MustUse
namespace Source

open Syntax

/-- The readings for what is nested. The argument of `expr` tells whether a literal between braces
may follow a type name; it may not in the head of a statement. -/
structure Nested where
  type : Reader Node
  expr : Bool → Reader Node
  elements : Reader (List Node)
  stmt : Reader (Option Node)
  block : Reader Node

/-! ## Types -/

section Types

variable (g : Nested)

/-- A name, which may be qualified by a package. -/
def typeName : Reader Node := do
  let name ← identifier
  if ← accept "." then
    let sel ← identifier
    return build .selector {} [(.x, [name]), (.sel, [sel])]
  else
    return name

/-- Something with arguments in brackets. -/
def instantiation (x : Node) (args : List Node) : Node :=
  match args with
  | [arg] => build .index {} [(.x, [x]), (.index, [arg])]
  | _ => build .indexList {} [(.x, [x]), (.indices, args)]

/-- A name with type arguments, if brackets with something in them follow. -/
def namedType : Reader Node := do
  let name ← typeName
  if (← sees "[") && !((← peekSecond).is "]") then
    let _ ← advance
    return instantiation name (← untilMark "," "]" g.type)
  else
    return name

/-- A term of a constraint. -/
def constraintTerm : Reader Node := do
  if ← sees "~" then
    let t ← advance
    return build .unary { start := some t.start, name := t.text } [(.x, [← g.type])]
  else
    g.type

/-- A constraint: terms with bars between them. -/
def constraint : Reader Node := do
  extended
    (fun x => do
      if ← accept "|" then
        return some (build .binary { name := "|" } [(.x, [x]), (.y, [← constraintTerm g])])
      else
        return none)
    (← remaining) (← constraintTerm g)

/-- A field with its names. -/
def fieldNode (names : List Node) (type : List Node) (doc : Option Nat) (tag : List Node) : Node :=
  build .field { doc := doc } [(.names, names), (.type, type), (.tag, tag)]

/-- A list of fields. -/
def fieldList (fields : List Node) : Node :=
  build .fieldList {} [(.list, fields)]

/-- The type of a parameter, which may stand for any number of values. -/
def parameterType : Reader Node := do
  if ← sees "..." then
    let t ← advance
    return build .ellipsis { start := some t.start } [(.elt, [← g.type])]
  else
    g.type

/-- An entry of a parameter list: a name with a type, or a single type, which may turn out to be a
name. -/
def parameterEntry : Reader (Option Node × Node) := do
  let isName := (← peek).kind = .word && !([",", ")", "."].any (← peekSecond).is)
  let named ←
    if isName then
      attempt do
        let name ← identifier
        let type ← parameterType g
        if (← sees ",") || (← sees ")") then return (some name, type) else fault "')'"
    else
      pure none
  match named with
  | some entry => return entry
  | none => return (none, ← parameterType g)

/-- The fields of the entries of a parameter list. If an entry has a name, those without one are
names for the type that follows. -/
def parameterFields (names : List Node) : List (Option Node × Node) → List Node
  | [] => names.map fun n => fieldNode [] [n] none []
  | (some name, type) :: rest =>
    fieldNode (names ++ [name]) [type] none [] :: parameterFields [] rest
  | (none, n) :: rest => parameterFields (names ++ [n]) rest

/-- A list of parameters in parentheses. -/
def parameters : Reader Node := do
  let _ ← expect "("
  let entries ← untilMark "," ")" (parameterEntry g)
  return fieldList (parameterFields [] entries)

/-- The results of a function: nothing, a single type, or a list in parentheses. -/
def results : Reader (List Node) := do
  if ← sees "(" then
    return [← parameters g]
  else if (← peek).startsType then
    return [fieldList [fieldNode [] [← g.type] none []]]
  else
    return []

/-- Parameters and results of a function. -/
def signature (start : Option Nat) (typeParams : List Node) : Reader Node := do
  let params ← parameters g
  let results ← results g
  return build .funcType { start := start }
    [(.typeParams, typeParams), (.params, [params]), (.results, results)]

/-- A list of type parameters after its opening bracket. -/
def typeParameters : Reader Node := do
  let entry : Reader Node := do
    let names ← separated identifier
    return fieldNode names [← constraint g] none []
  return fieldList (← untilMark "," "]" entry)

/-- A field of a structure: names with a type, or an embedded type. -/
def structField : Reader Node := do
  let doc := (← peek).lead
  let named ←
    if (← peek).kind = .word then
      attempt do
        let names ← separated identifier
        return (names, ← g.type)
    else
      pure none
  let (names, type) ←
    match named with
    | some entry => pure entry
    | none => pure ([], ← g.type)
  let tag ←
    if (← peek).kind = .literal then pure [leaf .basicLit (← advance)] else pure []
  return fieldNode names [type] doc tag

/-- An element of an interface: a method or a constraint. -/
def interfaceElement : Reader Node := do
  let doc := (← peek).lead
  if (← peek).kind = .word && (← peekSecond).is "(" then
    let name ← identifier
    return fieldNode [name] [← signature g none []] doc []
  else
    return fieldNode [] [← constraint g] doc []

/-- A type. -/
def typeExpr : Reader Node := do
  let t ← peek
  let own : Attrs := { start := some t.start }
  if t.kind = .word then
    namedType g
  else if ← accept "*" then
    return build .star own [(.x, [← g.type])]
  else if ← accept "(" then
    let inner ← g.type
    let _ ← expect ")"
    return build .paren own [(.x, [inner])]
  else if ← accept "[" then
    if ← accept "]" then
      return build .arrayType own [(.elt, [← g.type])]
    else
      let len ←
        if ← sees "..." then
          let dots ← advance
          pure (build .ellipsis { start := some dots.start } [])
        else
          g.expr true
      let _ ← expect "]"
      return build .arrayType own [(.len, [len]), (.elt, [← g.type])]
  else if ← accept "map" then
    let _ ← expect "["
    let key ← g.type
    let _ ← expect "]"
    return build .mapType own [(.key, [key]), (.value, [← g.type])]
  else if ← accept "chan" then
    let _ ← accept "<-"
    return build .chanType own [(.value, [← g.type])]
  else if ← accept "<-" then
    let _ ← expect "chan"
    return build .chanType own [(.value, [← g.type])]
  else if ← accept "func" then
    signature g (some t.start) []
  else if ← accept "struct" then
    let _ ← expect "\x7b"
    let fields ← untilMark ";" "\x7d" (structField g)
    return build .structType own [(.fields, [fieldList fields])]
  else if ← accept "interface" then
    let _ ← expect "\x7b"
    let methods ← untilMark ";" "\x7d" (interfaceElement g)
    return build .interfaceType own [(.methods, [fieldList methods])]
  else
    fault "type"

end Types

/-! ## Expressions -/

section Expressions

variable (g : Nested)

/-- The precedence of an operator between two operands, zero if it is none. -/
def precedence (op : String) : Nat :=
  if op = "||" then 1
  else if op = "&&" then 2
  else if ["==", "!=", "<", "<=", ">", ">="].contains op then 3
  else if ["+", "-", "|", "^"].contains op then 4
  else if ["*", "/", "%", "<<", ">>", "&", "&^"].contains op then 5
  else 0

/-- Operands joined by the operators of one precedence, from left to right. -/
def joinLevel (level : Nat) (x : Node) : List (String × Node) → Node × List (String × Node)
  | [] => (x, [])
  | (op, y) :: rest =>
    if precedence op = level then
      joinLevel level (build .binary { name := op } [(.x, [x]), (.y, [y])]) rest
    else
      let (y', rest') := joinLevel level y rest
      (x, (op, y') :: rest')

/-- Operands joined by their operators, those of higher precedence first. -/
def joinOperands (x : Node) (rest : List (String × Node)) : Node :=
  ([5, 4, 3, 2, 1].foldl (fun (x, rest) level => joinLevel level x rest) (x, rest)).1

/-- An element of a literal between braces, or one side of it. -/
def elementValue : Reader Node := do
  if ← sees "\x7b" then
    let t ← peek
    return build .compositeLit { start := some t.start } [(.elts, ← g.elements)]
  else
    g.expr true

/-- The elements of a literal with their braces. -/
def literalElements : Reader (List Node) := do
  let _ ← expect "\x7b"
  let element : Reader Node := do
    let x ← elementValue g
    if ← accept ":" then
      return build .keyValue {} [(.key, [x]), (.value, [← elementValue g])]
    else
      return x
  untilMark "," "\x7d" element

/-- An operand without selectors and calls. -/
def operand : Reader Node := do
  let t ← peek
  if t.kind = .literal then
    return leaf .basicLit (← advance)
  else if t.kind = .word then
    identifier
  else if ← accept "(" then
    let inner ← g.expr true
    let _ ← expect ")"
    return build .paren { start := some t.start } [(.x, [inner])]
  else if ← accept "func" then
    let type ← signature g (some t.start) []
    if ← sees "\x7b" then
      return build .funcLit {} [(.type, [type]), (.body, [← g.block])]
    else
      return type
  else if ["[", "struct", "map", "chan", "interface"].any t.is then
    typeExpr g
  else
    fault "operand"

/-- Whether a literal between braces may follow an operand. -/
def takesElements (literals : Bool) (x : Node) : Bool :=
  match x.kind with
  | .arrayType => true
  | .structType => true
  | .mapType => true
  | .ident => literals
  | .selector => literals
  | .index => literals
  | .indexList => literals
  | _ => false

/-- What stands between brackets after an operand: arguments or bounds. -/
def brackets (x : Node) : Reader Node := do
  let bound : Reader (List Node) := do
    if (← sees ":") || (← sees "]") then return [] else return [← g.expr true]
  let low ← bound
  if ← accept ":" then
    let high ← bound
    let max ← if ← accept ":" then bound else pure []
    let _ ← expect "]"
    return build .slice {} [(.x, [x]), (.low, low), (.high, high), (.max, max)]
  else if ← accept "," then
    return instantiation x (low ++ (← untilMark "," "]" (g.expr true)))
  else
    let _ ← expect "]"
    return instantiation x low

/-- An argument of a call, which may be spread. -/
def argument : Reader Node := do
  let x ← g.expr true
  let _ ← accept "..."
  return x

/-- One more selector, call, index, assertion or literal after an operand. -/
def suffix (literals : Bool) (x : Node) : Reader (Option Node) := do
  if ← accept "." then
    if ← accept "(" then
      let type ← if ← accept "type" then pure [] else pure [← g.type]
      let _ ← expect ")"
      return some (build .typeAssert {} [(.x, [x]), (.type, type)])
    else
      return some (build .selector {} [(.x, [x]), (.sel, [← identifier])])
  else if ← accept "(" then
    return some (build .call {} [(.fn, [x]), (.args, ← untilMark "," ")" (argument g))])
  else if ← accept "[" then
    return some (← brackets g x)
  else if (← sees "\x7b") && takesElements literals x then
    return some (build .compositeLit {} [(.type, [x]), (.elts, ← g.elements)])
  else
    return none

/-- An operand with everything that follows it. -/
def primary (literals : Bool) : Reader Node := do
  extended (suffix g literals) (← remaining) (← operand g)

/-- The operators that stand before an operand. -/
def prefixOperators : List String :=
  ["+", "-", "!", "^", "*", "&", "~", "<-"]

/-- An operand with the operators before it. -/
def unaryExpr (literals : Bool) : Reader Node := do
  let op : Reader (Option Token) := do
    if prefixOperators.any (← peek).is then return some (← advance) else return none
  let ops ← repeated op (← remaining)
  let x ← primary g literals
  return ops.foldr
    (fun t x =>
      build (if t.text = "*" then .star else .unary) { start := some t.start, name := t.text }
        [(.x, [x])])
    x

/-- An expression. -/
def expression (literals : Bool) : Reader Node := do
  let x ← unaryExpr g literals
  let more : Reader (Option (String × Node)) := do
    let t ← peek
    if t.kind = .mark && 0 < precedence t.text then
      let _ ← advance
      return some (t.text, ← unaryExpr g literals)
    else
      return none
  return joinOperands x (← repeated more (← remaining))

end Expressions

/-! ## Declarations -/

section Declarations

variable (g : Nested)

/-- An import. -/
def importSpec : Reader Node := do
  let name ←
    if (← peek).kind = .word || (← sees ".") then
      pure [leaf .ident (← advance)]
    else
      pure []
  if (← peek).kind = .literal then
    return build .importSpec {} [(.name, name), (.path, [leaf .basicLit (← advance)])]
  else
    fault "import path"

/-- Names with a type, values or both. -/
def valueSpec : Reader Node := do
  let names ← separated identifier
  let type ← if (← peek).startsType then pure [← g.type] else pure []
  let values ← if ← accept "=" then separated (g.expr true) else pure []
  return build .valueSpec {} [(.names, names), (.type, type), (.values, values)]

/-- A type with its name. A bracket after the name opens type parameters if a name with a
constraint follows. -/
def typeSpec : Reader Node := do
  let name ← identifier
  let params ←
    if ← sees "[" then
      attempt do
        let _ ← advance
        typeParameters g
    else
      pure none
  let _ ← accept "="
  let type ← g.type
  return build .typeSpec {}
    [(.name, [name]), (.typeParams, params.toList), (.type, [type])]

/-- A declaration after its keyword: one specification, or several in parentheses. -/
def genericDeclaration (keyword : Token) : Reader Node := do
  let spec : Reader Node :=
    if keyword.is "import" then importSpec
    else if keyword.is "type" then typeSpec g
    else valueSpec g
  let specs ← if ← accept "(" then untilMark ";" ")" spec else pure [← spec]
  return build .genDecl { start := some keyword.start, name := keyword.text } [(.specs, specs)]

/-- A function after its keyword. -/
def function (keyword : Token) : Reader Node := do
  let recv ← if ← sees "(" then pure [← parameters g] else pure []
  let name ← identifier
  let typeParams ← if ← accept "[" then pure [← typeParameters g] else pure []
  let type ← signature g (some keyword.start) typeParams
  let body ← if ← sees "\x7b" then pure [← g.block] else pure []
  return build .funcDecl { doc := keyword.lead }
    [(.recv, recv), (.name, [name]), (.type, [type]), (.body, body)]

/-- Whether a token starts a declaration of names. -/
def startsDeclaration (t : Token) : Bool :=
  ["import", "var", "const", "type"].any t.is

/-- A declaration of a file. -/
def declaration : Reader Node := do
  let t ← peek
  if startsDeclaration t then
    genericDeclaration g (← advance)
  else if ← sees "func" then
    function g (← advance)
  else
    fault "declaration"

end Declarations

/-! ## Statements -/

section Statements

variable (g : Nested)

/-- A simple statement, or the head of a loop over a range. -/
inductive Simple where
  | stmt (n : Node)
  | range (lhs : List Node) (op : String) (x : Node)

/-- The marks of assignments. -/
def assignMarks : List String :=
  [":=", "=", "+=", "-=", "*=", "/=", "%=", "&=", "|=", "^=", "<<=", ">>=", "&^="]

/-- A simple statement. -/
def simple (literals : Bool) : Reader Simple := do
  let lhs ← separated (g.expr literals)
  let t ← peek
  if assignMarks.any t.is then
    let _ ← advance
    if ← accept "range" then
      return .range lhs t.text (← g.expr literals)
    else
      let rhs ← separated (g.expr literals)
      return .stmt (build .assignStmt { name := t.text } [(.lhs, lhs), (.rhs, rhs)])
  else if t.is "++" || t.is "--" then
    let _ ← advance
    return .stmt (build .incDecStmt { name := t.text } [(.x, lhs)])
  else if ← accept "<-" then
    let value ← g.expr literals
    return .stmt (build .sendStmt {} [(.chan, lhs), (.value, [value])])
  else
    match lhs with
    | [x] => return .stmt (build .exprStmt {} [(.x, [x])])
    | _ => fault "1 expression"

/-- A simple statement that is no range. -/
def simpleStmt (literals : Bool) : Reader Node := do
  match ← simple g literals with
  | .stmt n => return n
  | .range .. => fault "statement"

/-- The expression of an expression statement. -/
def condition (n : Node) : Reader Node := do
  match n.kind, n.child? .x with
  | .exprStmt, some x => return x
  | _, _ => fault "boolean expression"

/-- The head of a conditional or a switch up to its opening brace: an optional statement before a
semicolon, and what follows it. -/
def head : Reader (List Node × List Node) := do
  if ← sees "\x7b" then
    return ([], [])
  else
    let first ← if ← sees ";" then pure [] else pure [← simpleStmt g false]
    if ← accept ";" then
      if ← sees "\x7b" then return (first, []) else return (first, [← simpleStmt g false])
    else
      return ([], first)

/-- A conditional after its keyword. -/
def ifStmt : Reader Node := do
  let (init, rest) ← head g
  let cond ← rest.mapM condition
  let body ← g.block
  let els ←
    if ← accept "else" then
      match ← g.stmt with
      | some n => pure [n]
      | none => fault "if statement or block"
    else
      pure []
  return build .ifStmt {} [(.init, init), (.cond, cond), (.body, [body]), (.els, els)]

/-- The parts of a loop with semicolons after its first one. -/
def loopParts (init : List Node) : Reader Node := do
  let cond ←
    if ← sees ";" then pure [] else pure [← condition (← simpleStmt g false)]
  let _ ← expect ";"
  let post ← if ← sees "\x7b" then pure [] else pure [← simpleStmt g false]
  return build .forStmt {}
    [(.init, init), (.cond, cond), (.post, post), (.body, [← g.block])]

/-- A loop over a range. -/
def rangeLoop (lhs : List Node) (op : String) (x : Node) : Reader Node := do
  return build .rangeStmt { name := op }
    [(.key, lhs.take 1), (.value, lhs.drop 1), (.x, [x]), (.body, [← g.block])]

/-- A loop after its keyword. -/
def forStmt : Reader Node := do
  if ← sees "\x7b" then
    return build .forStmt {} [(.body, [← g.block])]
  else if ← accept ";" then
    loopParts g []
  else if ← accept "range" then
    rangeLoop g [] "" (← g.expr false)
  else
    match ← simple g false with
    | .range lhs op x => rangeLoop g lhs op x
    | .stmt n =>
      if ← accept ";" then
        loopParts g [n]
      else
        let cond ← condition n
        return build .forStmt {} [(.cond, [cond]), (.body, [← g.block])]

/-- Statements up to the end of a block or of a clause. -/
def stmtList : Reader (List Node) := do
  let item : Reader (Option (Option Node)) := do
    let t ← peek
    if t.kind = .done || ["\x7d", "case", "default"].any t.is then
      return none
    else
      let n ← g.stmt
      if !(← accept ";") then
        if !(["\x7d", "case", "default"].any (← peek).is) then fault "';'"
      return some n
  return (← repeated item (← remaining)).filterMap id

/-- Statements between braces. -/
def blockStmt : Reader Node := do
  let _ ← expect "\x7b"
  let list ← stmtList g
  let _ ← expect "\x7d"
  return build .blockStmt {} [(.list, list)]

/-- The clauses of a switch or a selection with their braces. -/
def clauses (kind : Kind) (guards : Reader (List (Slot × List Node))) : Reader Node := do
  let _ ← expect "\x7b"
  let clause : Reader (Option Node) := do
    if ← sees "\x7d" then
      return none
    else
      let parts ← if ← accept "default" then pure [] else do
        let _ ← expect "case"
        guards
      let _ ← expect ":"
      return some (build kind {} (parts ++ [(.body, ← stmtList g)]))
  let list ← repeated clause (← remaining)
  let _ ← expect "\x7d"
  return build .blockStmt {} [(.list, list)]

/-- Whether a statement asks for the type of a value. -/
def isTypeGuard (n : Node) : Bool :=
  let x :=
    match n.kind with
    | .exprStmt => n.child? .x
    | .assignStmt => n.child? .rhs
    | _ => none
  x.any fun x => x.kind = .typeAssert && (x.child? .type).isNone

/-- A switch after its keyword. -/
def switchStmt : Reader Node := do
  let (init, rest) ← head g
  let guards : Reader (List (Slot × List Node)) := do
    return [(.list, ← separated (g.expr true))]
  let body ← clauses g .caseClause guards
  if rest.any isTypeGuard then
    return build .typeSwitchStmt {} [(.init, init), (.assign, rest), (.body, [body])]
  else
    let tag ← rest.mapM condition
    return build .switchStmt {} [(.init, init), (.tag, tag), (.body, [body])]

/-- A selection after its keyword. -/
def selectStmt : Reader Node := do
  let guards : Reader (List (Slot × List Node)) := do
    return [(.comm, [← simpleStmt g true])]
  return build .selectStmt {} [(.body, [← clauses g .commClause guards])]

/-- A statement; nothing stands for an empty one. -/
def statement : Reader (Option Node) := do
  let t ← peek
  if t.is ";" then
    return none
  else if t.is "\x7b" then
    return some (← g.block)
  else if startsDeclaration t then
    return some (build .declStmt {} [(.decl, [← genericDeclaration g (← advance)])])
  else if ← accept "if" then
    return some (← ifStmt g)
  else if ← accept "for" then
    return some (← forStmt g)
  else if ← accept "switch" then
    return some (← switchStmt g)
  else if ← accept "select" then
    return some (← selectStmt g)
  else if ← accept "go" then
    return some (build .goStmt {} [(.call, [← g.expr true])])
  else if ← accept "defer" then
    return some (build .deferStmt {} [(.call, [← g.expr true])])
  else if ← accept "return" then
    let results ←
      if (← sees ";") || (← sees "\x7d") then pure [] else separated (g.expr true)
    return some (build .returnStmt {} [(.results, results)])
  else if ["break", "continue", "goto", "fallthrough"].any t.is then
    let _ ← advance
    let label ← if (← peek).kind = .word then pure [← identifier] else pure []
    return some (build .branchStmt { name := t.text } [(.label, label)])
  else if t.kind = .word && (← peekSecond).is ":" then
    let label ← identifier
    let _ ← expect ":"
    let inner ← if ← sees "\x7d" then pure none else g.stmt
    return some
      (build .labeledStmt {}
        [(.label, [label]), (.stmt, [inner.getD (build .emptyStmt {} [])])])
  else
    return some (← simpleStmt g true)

end Statements

/-! ## Files -/

/-- The readings up to a depth; at depth zero nothing can be read. -/
def nested : Nat → Nested
  | 0 =>
    { type := fault "type"
      expr := fun _ => fault "expression"
      elements := fault "literal"
      stmt := fault "statement"
      block := fault "block" }
  | depth + 1 =>
    let g := nested depth
    { type := typeExpr g
      expr := expression g
      elements := literalElements g
      stmt := statement g
      block := blockStmt g }

/-- A text with its tree: the start of its package clause, the name of the package, the
declarations that could be read, the comment groups, and the first place where the text does not
follow the grammar. -/
structure ParsedFile where
  packageStart : Nat
  packageName : String
  decls : List Node
  comments : List (List Comment)
  fault : Option SyntaxFault
  /-- Whether the package clause and the imports were read. -/
  hasHead : Bool
deriving Repr

/-- A declaration that does not follow the grammar. -/
structure BrokenDeclaration where
  isImport : Bool
  fault : SyntaxFault
deriving Repr

/-- At most `bound` declarations from a row of tokens, up to the first that is broken. -/
def declarations (g : Nested) : Nat → List Token → List Node × Option BrokenDeclaration
  | 0, _ => ([], none)
  | bound + 1, tokens =>
    let first := tokens.headD .absent
    if first.kind = .done then
      ([], none)
    else
      let one : Reader Node := do
        let n ← declaration g
        if (← peek).kind ≠ .done then
          let _ ← expect ";"
        return n
      match one tokens with
      | .error e => ([], some { isImport := first.is "import", fault := e })
      | .ok (n, rest) =>
        let (more, broken) := declarations g bound rest
        (n.inSlot .decls :: more, broken)

/-- The tree of a text. -/
def parse (text : String) : ParsedFile :=
  let scanned := scan text
  let bound := scanned.tokens.length + 1
  let clause : Reader (Token × Node) := do
    let keyword ← expect "package"
    let name ← identifier
    let _ ← expect ";"
    return (keyword, name)
  match clause scanned.tokens with
  | .error e =>
    { packageStart := e.offset
      packageName := ""
      decls := []
      comments := scanned.groups
      fault := some e
      hasHead := false }
  | .ok ((keyword, name), rest) =>
    let (decls, broken) := declarations (nested bound) bound rest
    { packageStart := keyword.start
      packageName := name.attrs.name
      decls := decls
      comments := scanned.groups
      fault := broken.map (·.fault)
      hasHead := !broken.any (·.isImport) }

end Source
end MustUse
