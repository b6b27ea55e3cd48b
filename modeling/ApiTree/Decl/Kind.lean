namespace ApiTree.Decl

/-!
# Kinds of declarations

The kinds with the numbers and labels under which they are written.
-/

/-- What a declaration is. -/
inductive Kind where
  | project
  | enumeration
  | enumMember
  | classDecl
  | constructor
  | property
  | method
  | callSignature
  | parameter
  deriving Repr, DecidableEq, Inhabited

namespace Kind

/-- Every kind. -/
def all : List Kind :=
  [ .project, .enumeration, .enumMember, .classDecl, .constructor, .property,
    .method, .callSignature, .parameter ]

/-- The number of a kind: one bit each. -/
def code : Kind → Nat
  | .project => 1
  | .enumeration => 8
  | .enumMember => 16
  | .classDecl => 128
  | .constructor => 512
  | .property => 1024
  | .method => 2048
  | .callSignature => 4096
  | .parameter => 32768

/-- The label of a kind. -/
def label : Kind → String
  | .project => "Project"
  | .enumeration => "Enumeration"
  | .enumMember => "Enumeration Member"
  | .classDecl => "Class"
  | .constructor => "Constructor"
  | .property => "Property"
  | .method => "Method"
  | .callSignature => "Call signature"
  | .parameter => "Parameter"

/-- Whether declarations of a kind carry call signatures. -/
def isCallable : Kind → Bool
  | .method | .constructor => true
  | _ => false

end Kind

end ApiTree.Decl
