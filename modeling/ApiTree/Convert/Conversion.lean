import ApiTree.Convert.Assembly
import ApiTree.Convert.Failure

namespace ApiTree.Convert

open ApiTree.Decl
open ApiTree.Dump (ApiObject)
open ApiTree.Interp (TypeParser)
open ApiTree.Resolve (Resolved)

/-!
# Conversion

A conversion assembles the declarations of a dump and then finishes them in
four passes, each run once: members are inherited, types are resolved in one
batch, references by name are pointed at declarations, and the groups of the
project are ordered.
-/

/-- Why a dump was not converted. -/
inductive ConversionError where
  | dump (error : Dump.DumpError)
  | hierarchy (error : HierarchyError)
  | types (error : Interp.ParserError)
  deriving Repr

namespace ConversionError

/-- The message of the error. -/
def message : ConversionError → String
  | .dump error => error.message
  | .hierarchy error => error.message
  | .types error => error.message

/-- The failure of a run that ends with the error. -/
def failure : ConversionError → Failure
  | .dump error => .ofDump error
  | .hierarchy error => .ofHierarchy error
  | .types error => .ofParser error

end ConversionError

/-- The counts of a conversion and its warnings. -/
structure Stats where
  modules : Nat
  declarations : Nat
  inheritedMembers : Nat
  resolvedTypes : Nat
  linkedReferences : Nat
  warnings : List String
  deriving Repr, DecidableEq

/-- A converted project with the counts of the conversion. -/
structure Conversion where
  project : Project
  stats : Stats
  /-- The type expressions that were sent to the type parser. -/
  batch : List String
  deriving Repr

/-- Gives every copy the symbol of what it is a copy of. -/
def recordCopies
    (copies : Renumbering)
    (symbols : SymbolTable) :
    SymbolTable :=
  copies.foldl
    (fun symbols copy =>
      match symbols.lookup copy.1 with
      | some symbol => symbols.record copy.2 symbol
      | none => symbols)
    symbols

/-- The newest declaration of a name that is still in the tree. -/
def newestDeclared?
    (declared : List (String × DeclId))
    (present : List DeclId)
    (name : String) :
    Option DeclId :=
  (declared.find? fun entry => entry.1 == name && present.contains entry.2).map
    (·.2)

/-- How many references in a tree have a name that a table knows. -/
def countKnown
    (lookup : String → Option DeclId)
    (root : Declaration) :
    Nat :=
  (root.references.filter fun reference => (lookup reference.1).isSome).length

/-- Finishes a tree whose types are resolved. -/
def link
    (assembly : Assembly)
    (copies : Renumbering)
    (root : Declaration) :
    Project × Nat :=
  let present := root.ids
  let lookup := newestDeclared? assembly.declared present
  ( { root := (root.retarget lookup).sortMembers
      symbols := (recordCopies copies assembly.symbols).filter fun entry =>
        present.contains entry.1 },
    countKnown lookup root )

/-- Converts modules. -/
def convertModules
    (options : Options)
    (parser : TypeParser)
    (modules : List ApiObject) :
    Except ConversionError Conversion :=
  let (assembled, assembly) := assemble options modules
  let inheriting := assembly.hierarchy.resolve assembled assembly.supply
  match inheriting.failure with
  | some error => .error (.hierarchy error)
  | none =>
      match parser assembly.pending.batch with
      | .error error => .error (.types error)
      | .ok answers =>
          let (typed, resolvedTypes) :=
            (assembly.pending.resolve answers).apply inheriting.root
          let (project, linkedReferences) :=
            link assembly inheriting.copies typed
          .ok
            { project := project
              stats :=
                { modules := modules.length
                  declarations := project.nodeCount
                  inheritedMembers := inheriting.members
                  resolvedTypes := resolvedTypes
                  linkedReferences := linkedReferences
                  warnings := assembly.warnings }
              batch := assembly.pending.batch }

/-- The batch that the conversion of a dump sends, if it comes that far. -/
def sentBatch?
    (options : Options)
    (input : String) :
    Option (List String) :=
  match Dump.read input with
  | .error _ => none
  | .ok modules =>
      let (assembled, assembly) := assemble options modules
      match (assembly.hierarchy.resolve assembled assembly.supply).failure with
      | some _ => none
      | none => some assembly.pending.batch

/-- Reads a dump and converts its modules. -/
def convert
    (options : Options)
    (parser : TypeParser)
    (input : String) :
    Except ConversionError Conversion :=
  match Dump.read input with
  | .error error => .error (.dump error)
  | .ok modules => convertModules options parser modules

end ApiTree.Convert
