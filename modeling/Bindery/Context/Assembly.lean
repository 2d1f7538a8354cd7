/-
The contexts of a library together with its modules.

A module collects the native methods of all types that name it. The first time
a name is met, a context for the module becomes a root of the forest; every
type that names the module then adds its share below that root. The modules are
kept in the order in which they were first met.

Adding a share can be traced, and then the name of its origin is read. A survey adds
shares of contexts that are there, and is the same with a trace and without
(`Survey.attachTraced_withType`).
-/

import Bindery.Context.Forest

namespace Bindery

/-- A forest of contexts and the modules in it, by name and in the order in
which they were registered. -/
structure Assembly where
  forest : ContextForest := {}
  modules : List (String × ContextId) := []

namespace Assembly

/-- The context of a module. -/
def module? (assembly : Assembly) (name : String) : Option ContextId :=
  assembly.modules.lookup name

/-- The contexts of the modules, in the order in which they were registered. -/
def moduleIds (assembly : Assembly) : List ContextId :=
  assembly.modules.map Prod.snd

/-- The methods of a module, in the order in which they were contributed. -/
def methodsOf? (assembly : Assembly) (name : String) : Option (List Method) :=
  (assembly.module? name).map assembly.forest.moduleMethods

/-- Adds a context without a place. -/
def insert (assembly : Assembly) (kind : ContextKind) : ContextId × Assembly :=
  let (id, forest) := assembly.forest.insert kind
  (id, { assembly with forest })

/-- Registers a context as a root. -/
def addRoot (assembly : Assembly) (id : ContextId) : Except Conflict Assembly := do
  return { assembly with forest := ← assembly.forest.addRoot id }

/-- Puts a context below another one. -/
def addChild (assembly : Assembly) (parent child : ContextId) : Except Conflict Assembly := do
  return { assembly with forest := ← assembly.forest.addChild parent child }

/-- Registers a module under a new name. -/
def register (assembly : Assembly) (name : String) : Except Conflict (ContextId × Assembly) := do
  if (assembly.module? name).isSome then throw (.duplicateModule name)
  let (id, inserted) := assembly.insert (.module name)
  let rooted ← inserted.addRoot id
  return (id, { rooted with modules := rooted.modules ++ [(name, id)] })

/-- The context of a module, which is registered if need be. -/
def obtain (assembly : Assembly) (name : String) : Except Conflict (ContextId × Assembly) :=
  match assembly.module? name with
  | some id => .ok (id, assembly)
  | none => assembly.register name

/-- Adds a share below a module, and gives the number of its context. -/
def addShare (assembly : Assembly) (parent origin : ContextId) (methods : List Method) :
    Except Conflict (ContextId × Assembly) := do
  let (id, inserted) := assembly.insert (.share origin methods)
  let linked ← inserted.addChild parent id
  return (id, linked)

/-- Adds the share that the type at `origin` contributes to a module, and gives
the number of its context. Nothing is traced. -/
def attach (assembly : Assembly) (name : String) (origin : ContextId) (methods : List Method) :
    Except Conflict (ContextId × Assembly) := do
  let (parent, found) ← assembly.obtain name
  found.addShare parent origin methods

/-- How adding a share ends that is not refused. -/
inductive Attachment where
  /-- The share has a context of this number. -/
  | attached (id : ContextId) (after : Assembly)
  /-- The trace asks for the name of an origin that there is not. -/
  | aborted (after : Assembly)

/-- The assembly behind an attempt to add a share. -/
def Attachment.assembly : Attachment → Assembly
  | attached _ after | aborted after => after

/-- Adds a share as `attach` does, and traces it if `traced` says so. The trace comes
before the share and has the name of the origin in it, so that an origin without a
context aborts; the module is registered by then. -/
def attachTraced (assembly : Assembly) (traced : Bool) (name : String) (origin : ContextId)
    (methods : List Method) : Except Conflict Attachment := do
  let (parent, found) ← assembly.obtain name
  if traced && (found.forest.name? origin).isNone then return .aborted found
  let (id, after) ← found.addShare parent origin methods
  return .attached id after

end Assembly

end Bindery
