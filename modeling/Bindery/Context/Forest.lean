/-
The forest of contexts.

A context stands for a declared type, for a module, or for the share that one
type contributes to a module. Contexts are numbered in the order of insertion.
Each may have a parent, which is set once, and a context without a parent may be
registered as a root. `ContextForest.addRoot` and `ContextForest.addChild`
refuse whatever would make the contexts anything but a forest, and say why
(`Conflict`). The views are

* `ContextForest.ancestors`, from the parent upwards;
* `ContextForest.preOrder`, the roots in order, each followed by what is below
  it.
-/

import Bindery.Declaration.Basic

namespace Bindery

/-- The number of a context. -/
abbrev ContextId := Nat

/-- What a context stands for. -/
inductive ContextKind where
  /-- A declared type, with the namespace that it is mapped to, if any. -/
  | type (decl : Decl) (mappedNamespace : Option String)
  /-- A module. -/
  | module (name : String)
  /-- The methods that the type at `origin` contributes to a module. -/
  | share (origin : ContextId) (methods : List Method)

/-- A context with its place in the forest. -/
structure Context where
  kind : ContextKind
  parent : Option ContextId := none
  children : List ContextId := []

/-- The declaration of a context that stands for a type. -/
def Context.decl? (context : Context) : Option Decl :=
  match context.kind with
  | .type decl _ => some decl
  | _ => none

/-- The namespace that a context that stands for a type is mapped to. -/
def Context.mappedNamespace? (context : Context) : Option String :=
  match context.kind with
  | .type _ mapped => mapped
  | _ => none

/-- Why a context cannot be put where it was asked to be put. -/
inductive Conflict where
  /-- It would become its own ancestor. -/
  | selfParent (context : String)
  /-- It has a parent already. -/
  | alreadyParented (context parent : String)
  /-- It is a root already. -/
  | alreadyRegistered (context : String)
  /-- There is no context of that number. -/
  | unknownContext (id : ContextId)
  /-- There is a module of that name already. -/
  | duplicateModule (name : String)
  deriving DecidableEq, Repr

/-- The text of a conflict. -/
def Conflict.message : Conflict → String
  | selfParent context => "context `" ++ context ++ "` cannot be its own parent"
  | alreadyParented context parent =>
    "context `" ++ context ++ "` already has parent `" ++ parent ++ "`"
  | alreadyRegistered context => "context `" ++ context ++ "` is already registered as a root"
  | unknownContext id => "context #" ++ toString id ++ " does not belong to this tree"
  | duplicateModule name => "module `" ++ name ++ "` is already registered"

/-- Contexts and the roots among them, in the order of registration. -/
structure ContextForest where
  contexts : Array Context := #[]
  roots : List ContextId := []

namespace ContextForest

/-! ### Views -/

/-- The number of contexts. -/
def size (forest : ContextForest) : Nat :=
  forest.contexts.size

/-- The context of a number. -/
def get? (forest : ContextForest) (id : ContextId) : Option Context :=
  forest.contexts[id]?

/-- The parent of a context. -/
def parent? (forest : ContextForest) (id : ContextId) : Option ContextId :=
  (forest.get? id).bind (·.parent)

/-- The children of a context, in the order in which they were added. -/
def children (forest : ContextForest) (id : ContextId) : List ContextId :=
  match forest.get? id with
  | some context => context.children
  | none => []

/-- The chain of parents that starts at `current`, at most `fuel` of them. -/
def chain (forest : ContextForest) : Nat → Option ContextId → List ContextId
  | _, none => []
  | 0, some _ => []
  | fuel + 1, some current => current :: forest.chain fuel (forest.parent? current)

/-- The ancestors of a context, nearest first. No chain is longer than there
are contexts. -/
def ancestors (forest : ContextForest) (id : ContextId) : List ContextId :=
  forest.chain forest.size (forest.parent? id)

/-- The display name of a context, where the share of a module is called like
its parent; `fuel` bounds the number of steps to parents. -/
def nameWithin (forest : ContextForest) : Nat → ContextId → String
  | fuel, id =>
    match forest.get? id with
    | none => ""
    | some context =>
      match context.kind with
      | .type decl _ => decl.identifier
      | .module name => name
      | .share _ _ =>
        match fuel, context.parent with
        | fuel + 1, some parent => forest.nameWithin fuel parent
        | _, _ => ""

/-- The display name of a context. -/
def name (forest : ContextForest) (id : ContextId) : String :=
  forest.nameWithin forest.size id

/-- The display name of a context, if there is one of that number. -/
def name? (forest : ContextForest) (id : ContextId) : Option String :=
  if id < forest.size then some (forest.name id) else none

/-- What a context is called in conflicts. -/
def label (forest : ContextForest) (id : ContextId) : String :=
  match forest.get? id with
  | none => ""
  | some context =>
    match context.kind with
    | .type decl _ => decl.qualifiedName
    | .module name => "module " ++ name
    | .share _ _ => "module " ++ forest.name id

/-- The contexts on the stack, each followed by what is below it, at most
`fuel` of them. -/
def walk (forest : ContextForest) : Nat → List ContextId → List ContextId
  | _, [] => []
  | 0, _ :: _ => []
  | fuel + 1, id :: stack => id :: forest.walk fuel (forest.children id ++ stack)

/-- The roots in the order of registration, each followed by what is below it.
No context is met twice. -/
def preOrder (forest : ContextForest) : List ContextId :=
  forest.walk forest.size forest.roots

/-- The methods that the shares below a context contribute, in order. -/
def moduleMethods (forest : ContextForest) (id : ContextId) : List Method :=
  (forest.children id).flatMap fun child =>
    match forest.get? child with
    | some ⟨.share _ methods, _, _⟩ => methods
    | _ => []

/-! ### Changes -/

/-- Adds a context without a place, and gives its number. -/
def insert (forest : ContextForest) (kind : ContextKind) : ContextId × ContextForest :=
  (forest.size, { forest with contexts := forest.contexts.push { kind } })

/-- Registers a context as a root. -/
def addRoot (forest : ContextForest) (id : ContextId) : Except Conflict ContextForest :=
  match forest.get? id with
  | none => .error (.unknownContext id)
  | some context =>
    match context.parent with
    | some parent => .error (.alreadyParented (forest.label id) (forest.label parent))
    | none =>
      if id ∈ forest.roots then .error (.alreadyRegistered (forest.label id))
      else .ok { forest with roots := forest.roots ++ [id] }

/-- The forest with `child` below `parent`. -/
def link (forest : ContextForest) (parent child : ContextId) : ContextForest :=
  { forest with
    contexts :=
      (forest.contexts.modify child fun context => { context with parent := some parent }).modify
        parent fun context => { context with children := context.children ++ [child] } }

/-- Puts a context below another one. -/
def addChild (forest : ContextForest) (parent child : ContextId) :
    Except Conflict ContextForest :=
  if forest.size ≤ parent then .error (.unknownContext parent)
  else
    match forest.get? child with
    | none => .error (.unknownContext child)
    | some context =>
      if parent = child ∨ child ∈ forest.ancestors parent then
        .error (.selfParent (forest.label child))
      else
        match context.parent with
        | some existing => .error (.alreadyParented (forest.label child) (forest.label existing))
        | none =>
          if child ∈ forest.roots then .error (.alreadyRegistered (forest.label child))
          else .ok (forest.link parent child)

end ContextForest

end Bindery
