/-!
# Node kinds and slots

The kinds of nodes in a syntax tree of Go, and the slots in which a node holds its children.

Main definitions:

- `Kind` with its conventional `Kind.name`;
- `Slot` with its conventional `Slot.fieldName`;
- `Kind.slots`: the slots of a kind in the order in which a tree is traversed.
-/

namespace MustUse
namespace Syntax

/-- The kinds of nodes: expressions, types, fields, statements, specifications, declarations, and
the nodes that hold comments and whole files. -/
inductive Kind where
  | ident
  | basicLit
  | badExpr
  | ellipsis
  | funcLit
  | compositeLit
  | paren
  | star
  | unary
  | selector
  | index
  | indexList
  | slice
  | typeAssert
  | call
  | binary
  | keyValue
  | arrayType
  | structType
  | funcType
  | interfaceType
  | mapType
  | chanType
  | fieldList
  | field
  | badStmt
  | emptyStmt
  | declStmt
  | labeledStmt
  | exprStmt
  | incDecStmt
  | sendStmt
  | assignStmt
  | goStmt
  | deferStmt
  | returnStmt
  | branchStmt
  | blockStmt
  | ifStmt
  | caseClause
  | switchStmt
  | typeSwitchStmt
  | commClause
  | selectStmt
  | forStmt
  | rangeStmt
  | importSpec
  | valueSpec
  | typeSpec
  | badDecl
  | genDecl
  | funcDecl
  | comment
  | commentGroup
  | file
  | package
deriving DecidableEq, Repr

/-- The slots that children stand in. -/
inductive Slot where
  | elt
  | type
  | body
  | elts
  | x
  | sel
  | index
  | indices
  | low
  | high
  | max
  | fn
  | args
  | y
  | key
  | value
  | len
  | fields
  | typeParams
  | params
  | results
  | methods
  | list
  | names
  | tag
  | decl
  | label
  | stmt
  | chan
  | lhs
  | rhs
  | call
  | init
  | cond
  | els
  | assign
  | comm
  | post
  | name
  | path
  | values
  | specs
  | recv
  | decls
deriving DecidableEq, Repr

namespace Kind

/-- Every kind. -/
def all : List Kind :=
  [.ident, .basicLit, .badExpr, .ellipsis, .funcLit, .compositeLit, .paren, .star, .unary,
   .selector, .index, .indexList, .slice, .typeAssert, .call, .binary, .keyValue, .arrayType,
   .structType, .funcType, .interfaceType, .mapType, .chanType, .fieldList, .field, .badStmt,
   .emptyStmt, .declStmt, .labeledStmt, .exprStmt, .incDecStmt, .sendStmt, .assignStmt, .goStmt,
   .deferStmt, .returnStmt, .branchStmt, .blockStmt, .ifStmt, .caseClause, .switchStmt,
   .typeSwitchStmt, .commClause, .selectStmt, .forStmt, .rangeStmt, .importSpec, .valueSpec,
   .typeSpec, .badDecl, .genDecl, .funcDecl, .comment, .commentGroup, .file, .package]

theorem mem_all
    (k : Kind) :
    k ∈ all := by
  cases k <;> decide

/-- The conventional name of a kind. -/
def name : Kind → String
  | .ident => "Ident"
  | .basicLit => "BasicLit"
  | .badExpr => "BadExpr"
  | .ellipsis => "Ellipsis"
  | .funcLit => "FuncLit"
  | .compositeLit => "CompositeLit"
  | .paren => "ParenExpr"
  | .star => "StarExpr"
  | .unary => "UnaryExpr"
  | .selector => "SelectorExpr"
  | .index => "IndexExpr"
  | .indexList => "IndexListExpr"
  | .slice => "SliceExpr"
  | .typeAssert => "TypeAssertExpr"
  | .call => "CallExpr"
  | .binary => "BinaryExpr"
  | .keyValue => "KeyValueExpr"
  | .arrayType => "ArrayType"
  | .structType => "StructType"
  | .funcType => "FuncType"
  | .interfaceType => "InterfaceType"
  | .mapType => "MapType"
  | .chanType => "ChanType"
  | .fieldList => "FieldList"
  | .field => "Field"
  | .badStmt => "BadStmt"
  | .emptyStmt => "EmptyStmt"
  | .declStmt => "DeclStmt"
  | .labeledStmt => "LabeledStmt"
  | .exprStmt => "ExprStmt"
  | .incDecStmt => "IncDecStmt"
  | .sendStmt => "SendStmt"
  | .assignStmt => "AssignStmt"
  | .goStmt => "GoStmt"
  | .deferStmt => "DeferStmt"
  | .returnStmt => "ReturnStmt"
  | .branchStmt => "BranchStmt"
  | .blockStmt => "BlockStmt"
  | .ifStmt => "IfStmt"
  | .caseClause => "CaseClause"
  | .switchStmt => "SwitchStmt"
  | .typeSwitchStmt => "TypeSwitchStmt"
  | .commClause => "CommClause"
  | .selectStmt => "SelectStmt"
  | .forStmt => "ForStmt"
  | .rangeStmt => "RangeStmt"
  | .importSpec => "ImportSpec"
  | .valueSpec => "ValueSpec"
  | .typeSpec => "TypeSpec"
  | .badDecl => "BadDecl"
  | .genDecl => "GenDecl"
  | .funcDecl => "FuncDecl"
  | .comment => "Comment"
  | .commentGroup => "CommentGroup"
  | .file => "File"
  | .package => "Package"

/-- The kind with the given name. -/
def ofName? (s : String) : Option Kind :=
  all.find? (·.name = s)

/-- The slots of a kind in traversal order. -/
def slots : Kind → List Slot
  | .ellipsis => [.elt]
  | .funcLit => [.type, .body]
  | .compositeLit => [.type, .elts]
  | .paren => [.x]
  | .star => [.x]
  | .unary => [.x]
  | .selector => [.x, .sel]
  | .index => [.x, .index]
  | .indexList => [.x, .indices]
  | .slice => [.x, .low, .high, .max]
  | .typeAssert => [.x, .type]
  | .call => [.fn, .args]
  | .binary => [.x, .y]
  | .keyValue => [.key, .value]
  | .arrayType => [.len, .elt]
  | .structType => [.fields]
  | .funcType => [.typeParams, .params, .results]
  | .interfaceType => [.methods]
  | .mapType => [.key, .value]
  | .chanType => [.value]
  | .fieldList => [.list]
  | .field => [.names, .type, .tag]
  | .declStmt => [.decl]
  | .labeledStmt => [.label, .stmt]
  | .exprStmt => [.x]
  | .incDecStmt => [.x]
  | .sendStmt => [.chan, .value]
  | .assignStmt => [.lhs, .rhs]
  | .goStmt => [.call]
  | .deferStmt => [.call]
  | .returnStmt => [.results]
  | .branchStmt => [.label]
  | .blockStmt => [.list]
  | .ifStmt => [.init, .cond, .body, .els]
  | .caseClause => [.list, .body]
  | .switchStmt => [.init, .tag, .body]
  | .typeSwitchStmt => [.init, .assign, .body]
  | .commClause => [.comm, .body]
  | .selectStmt => [.body]
  | .forStmt => [.init, .cond, .post, .body]
  | .rangeStmt => [.key, .value, .x, .body]
  | .importSpec => [.name, .path]
  | .valueSpec => [.names, .type, .values]
  | .typeSpec => [.name, .typeParams, .type]
  | .genDecl => [.specs]
  | .funcDecl => [.recv, .name, .type, .body]
  | .file => [.decls]
  | _ => []

end Kind

/-- The conventional name of a slot. -/
def Slot.fieldName : Slot → String
  | .elt => "Elt"
  | .type => "Type"
  | .body => "Body"
  | .elts => "Elts"
  | .x => "X"
  | .sel => "Sel"
  | .index => "Index"
  | .indices => "Indices"
  | .low => "Low"
  | .high => "High"
  | .max => "Max"
  | .fn => "Fun"
  | .args => "Args"
  | .y => "Y"
  | .key => "Key"
  | .value => "Value"
  | .len => "Len"
  | .fields => "Fields"
  | .typeParams => "TypeParams"
  | .params => "Params"
  | .results => "Results"
  | .methods => "Methods"
  | .list => "List"
  | .names => "Names"
  | .tag => "Tag"
  | .decl => "Decl"
  | .label => "Label"
  | .stmt => "Stmt"
  | .chan => "Chan"
  | .lhs => "Lhs"
  | .rhs => "Rhs"
  | .call => "Call"
  | .init => "Init"
  | .cond => "Cond"
  | .els => "Else"
  | .assign => "Assign"
  | .comm => "Comm"
  | .post => "Post"
  | .name => "Name"
  | .path => "Path"
  | .values => "Values"
  | .specs => "Specs"
  | .recv => "Recv"
  | .decls => "Decls"

end Syntax
end MustUse
