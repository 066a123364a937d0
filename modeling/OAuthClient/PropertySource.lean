import OAuthClient.Text.Segments
import OAuthClient.Value

/-!
# Property sources

A property source is a tree of maps whose leaves are read by dotted path. It is given as such a
tree or built from flat properties, each a dotted name and its value.

A value may be a map itself, and later properties can add to it. Such a map has a parent, which the
key `__proto__` stands for unless the map has an entry under that key: what is put there is no
entry and cannot be read. Maps that are made on the way to a leaf have no parent.

## Main declarations

* `PropertySource`: the tree.
* `PropertySource.get?`: the value at a dotted path.
* `PropertySource.put`: sets the leaf at a path, making the maps on the way.
* `PropertySource.Draft`: a tree while it is built, with the maps that have a parent.
* `PropertySource.ofFlat`: builds a tree from flat properties; `FlatError` says why it cannot.
-/

namespace OAuthClient

/-- A tree of properties. -/
structure PropertySource where
  root : Entries Value := []
  deriving DecidableEq, Repr, Inhabited

namespace PropertySource

/-- The value at a dotted path, if every segment leads through a map that has it. -/
def get? (source : PropertySource) (path : String) : Option Value :=
  (Value.map source.root).at? (Text.segments '.' path)

/-! ### Flat properties -/

/-- Why a leaf cannot be set at a path. -/
inductive Conflict where
  /-- A segment on the way holds a value that is no map. -/
  | valueAt (segment : String)
  /-- The last segment holds a map. -/
  | nested
  deriving DecidableEq, Repr

/-- Why no tree can be built from flat properties. -/
inductive FlatError where
  /-- The last segment of a name is empty. -/
  | invalidName (name : String)
  /-- The value of a name cannot be set beside those before it. -/
  | conflict (name : String) (cause : Conflict)
  deriving DecidableEq, Repr

/-- The report of an error. -/
def FlatError.message : FlatError → String
  | invalidName name => s!"Invalid property name: '{name}'"
  | conflict name (.valueAt segment) =>
    s!"Property '{name}' conflicts with a value at '{segment}'"
  | conflict name .nested => s!"Property '{name}' conflicts with nested properties"

/-- Sets the value under `leaf` in the map that the segments lead to, making the maps that are not
there. A value that is no map may be replaced, a map may not. -/
def put (es : Entries Value) : List String → String → Value → Except Conflict (Entries Value)
  | [], leaf, value =>
    match es.get? leaf with
    | some (.map _) => .error .nested
    | _ => .ok (es.set leaf value)
  | segment :: segments, leaf, value =>
    match es.get? segment with
    | none => (put [] segments leaf value).map fun inner => es.set segment (.map inner)
    | some (.map inner) =>
      (put inner segments leaf value).map fun inner => es.set segment (.map inner)
    | some _ => .error (.valueAt segment)

/-! ### Maps with a parent -/

/-- The key for the parent of a map. -/
def parentKey : String := "__proto__"

mutual

/-- The paths to the maps within a value, itself included. -/
def mapPaths : Value → List (List String)
  | .map es => [] :: mapPathsIn es
  | _ => []

/-- The paths to the maps within entries. -/
def mapPathsIn : List (String × Value) → List (List String)
  | [] => []
  | (key, value) :: es => (mapPaths value).map (key :: ·) ++ mapPathsIn es

end

/-- Whether a map with some value as its parent still has a parent: not if that is nothing or a map
with an entry under the key for the parent. -/
def keepsParent : Value → Bool
  | .null => false
  | .map es => (Entries.get? es parentKey).isNone
  | _ => true

/-- A tree while it is built, and the paths to the maps in it that have a parent. -/
structure Draft where
  root : Entries Value := []
  parented : List (List String) := []

namespace Draft

/-- Whether the key for the parent stands for the parent of the map at a path. -/
def hasParentAt (draft : Draft) (path : List String) : Bool :=
  path ∈ draft.parented &&
    (((Value.map draft.root).at? path).bind Value.entries?).any fun es =>
      (Entries.get? es parentKey).isNone

/-- The path to the first map on a path whose parent the path leads to, and what is left of the path
then. -/
def parentOn? (draft : Draft) (path : List String) : Option (List String × List String) :=
  (List.range path.length).findSome? fun n =>
    let before := path.take n
    match path.drop n with
    | key :: rest =>
      if key = parentKey && draft.hasParentAt before then some (before, rest) else none
    | [] => none

/-- Gives a map another parent: a map that is made on the way to a leaf, or a value. -/
def setParent (draft : Draft) (path rest : List String) (value : Value) : Draft :=
  if rest = [] && keepsParent value then draft
  else { draft with parented := draft.parented.filter (· ≠ path) }

/-- Sets the leaf at a path that leads to no parent. -/
def setLeaf (draft : Draft) (path : List String) (leaf : String) (value : Value) :
    Except Conflict Draft :=
  (put draft.root path leaf value).map fun root =>
    { root, parented := (mapPaths value).map (path ++ leaf :: ·) ++ draft.parented }

/-- Adds one flat property to a tree. -/
def add (draft : Draft) (name : String) (value : Value) : Except FlatError Draft :=
  let path := Text.segments '.' name
  match path.getLast? with
  | none | some "" => .error (.invalidName name)
  | some leaf =>
    match draft.parentOn? path with
    | some (before, rest) => .ok (draft.setParent before rest value)
    | none => (draft.setLeaf path.dropLast leaf value).mapError (.conflict name)

end Draft

/-- Builds a tree from flat properties, one after the other. -/
def ofFlat (properties : Entries Value) : Except FlatError PropertySource :=
  (properties.foldlM (fun (draft : Draft) p => draft.add p.1 p.2) {}).map fun draft => ⟨draft.root⟩

example : ((ofFlat [("a.b", .null), ("a.c", .bool true)]).toOption.bind (·.get? "a.c")) =
    some (.bool true) := by decide +kernel
example : (ofFlat [("a.b", .null), ("a.b.c", .null)]) matches
    .error (.conflict "a.b.c" (.valueAt "b")) := by decide +kernel
example : ((ofFlat [("a", .map []), ("a.__proto__.b", .null)]).toOption.bind (·.get? "a")) =
    some (.map []) := by decide +kernel

end PropertySource

end OAuthClient
