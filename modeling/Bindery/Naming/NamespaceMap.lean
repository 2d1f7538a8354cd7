/-
Mapping of namespaces.

A `NamespaceMap` is a tree whose edges are the segments of dotted paths. A
mapping sits at the node that its source path leads to. Looking a path up goes
down as far as its segments lead, and takes the mapping of the node reached;
the segments that are left over are kept.

* `NamespaceMap.push` adds a mapping, in place of an earlier one for the same
  path;
* `NamespaceMap.resolve` gives the target and what is left over;
* `NamespaceMap.mapped?` puts the two together.
-/

import Bindery.Text.Segments
import Bindery.Unicode.Case

namespace Bindery

/-- A tree of mappings: the target that sits at the root, and the children by
their segment. -/
inductive NamespaceMap where
  | node (target : Option String) (children : List (String × NamespaceMap))

/-- What becomes of the segments that are left over. -/
inductive Normalization where
  | keep
  | lowerCase
  deriving DecidableEq, Repr

/-- What is left over, as it is written. -/
def Normalization.apply : Normalization → String → String
  | .keep, text => text
  | .lowerCase, text => String.ofList (Unicode.lowerCase text.toList)

namespace NamespaceMap

/-- The map without mappings. -/
def empty : NamespaceMap :=
  node none []

/-- The target that sits at the root. -/
def target : NamespaceMap → Option String
  | node target _ => target

/-- The children by their segment. -/
def children : NamespaceMap → List (String × NamespaceMap)
  | node _ children => children

/-- Whether no mapping was ever added. -/
def isEmpty (map : NamespaceMap) : Bool :=
  map.children.isEmpty

/-- The child at a segment. -/
def child? (map : NamespaceMap) (segment : String) : Option NamespaceMap :=
  map.children.lookup segment

/-- Puts a child at a segment, in place of the one that is there. -/
def putChild (segment : String) (child : NamespaceMap) :
    List (String × NamespaceMap) → List (String × NamespaceMap)
  | [] => [(segment, child)]
  | (other, old) :: rest =>
    if other = segment then (segment, child) :: rest
    else (other, old) :: putChild segment child rest

/-- Lets a path of segments lead to the target. -/
def pushPath : List String → String → NamespaceMap → NamespaceMap
  | [], target, node _ children => node (some target) children
  | segment :: path, target, node old children =>
    node old
      (putChild segment (pushPath path target ((children.lookup segment).getD empty)) children)

/-- Maps the namespace `source`, and through what is left over everything below
it, to `target`. -/
def push (map : NamespaceMap) (source target : String) : NamespaceMap :=
  pushPath (Text.segments '.' source) target map

/-- The map of a list of mappings, each a source and a target, added in
order. -/
def ofList (mappings : List (String × String)) : NamespaceMap :=
  mappings.foldl (fun map mapping => map.push mapping.1 mapping.2) empty

/-- The node to which the segments of a path lead, and the segments left over
where they lead no further. -/
def descend : NamespaceMap → List String → NamespaceMap × List String
  | map, [] => (map, [])
  | map, segment :: path =>
    match map.child? segment with
    | some child => child.descend path
    | none => (map, segment :: path)

/-- The target of a namespace, and what is left over of it. Without a target,
all of it is left over. -/
def resolve (map : NamespaceMap) (source : String) : Option String × Option String :=
  let path := Text.segments '.' source
  let (reached, rest) := map.descend path
  if rest.length = path.length then (none, some source)
  else
    match reached.target, rest with
    | none, _ => (none, some source)
    | some target, [] => (some target, none)
    | some target, _ => (some target, some (Text.joinWith "." rest))

/-- The namespace that `source` is mapped to: the target, and behind a dot what
is left over. -/
def mapped? (map : NamespaceMap) (source : String) (normalization : Normalization) :
    Option String :=
  match map.resolve source with
  | (none, _) => none
  | (some target, none) => some target
  | (some target, some rest) => some (target ++ "." ++ normalization.apply rest)

end NamespaceMap

end Bindery
