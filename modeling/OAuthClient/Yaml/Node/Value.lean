import OAuthClient.Yaml.Node.Text

/-!
# Values of nodes

The value of a node is found in one pass over the document. An alias stands for the value of the
last node before it with its anchor; how often aliases multiply is limited, so that a short text
cannot stand for a huge value. A key is text: that of its value, or of the node if that is a
collection.

## Main declarations

* `Yaml.Error`: what can be wrong with a text.
* `Yaml.Anchor`, `Yaml.Resolver`: an anchored node before an alias, and a step that resolves
  aliases.
* `Yaml.Node.resolve`: the value of a node.
-/

namespace OAuthClient

namespace Yaml

/-- What can be wrong with a text. -/
inductive Error where
  /-- It is not one document. -/
  | malformed
  /-- An alias names no anchor before it. -/
  | unresolvedAlias (name : String)
  /-- Aliases of aliases stand for too many nodes. -/
  | excessiveAliases
  deriving DecidableEq, Repr

/-- What an error says. -/
def Error.message : Error → String
  | malformed => "The text is not a YAML document"
  | unresolvedAlias name =>
    s!"Unresolved alias (the anchor must be set before the alias): {name}"
  | excessiveAliases => "Excessive alias count indicates a resource exhaustion attack"

/-- The nodes without items that a node holds: whether there are any but aliases, and the anchors of
the aliases, by their number. -/
structure Leaves where
  plain : Bool := false
  aliases : List Nat := []

/-- The leaves of two nodes. -/
def Leaves.union (a b : Leaves) : Leaves := ⟨a.plain || b.plain, a.aliases ++ b.aliases⟩

/-- An anchored node before an alias. -/
structure Anchor where
  name : String
  /-- The number of anchored nodes before. -/
  number : Nat
  /-- The value of the node, or an empty collection as long as that is being found. -/
  value : Value
  leaves : Leaves
  /-- How often the node is used: once where it stands, and once for each alias. -/
  uses : Nat := 1
  /-- How often an alias in the node stands for a node, or one if there is none; zero as long as it
  is not needed. -/
  weight : Nat := 0

/-- A step that knows the anchored nodes so far, the last one first. -/
abbrev Resolver := StateT (List Anchor) (Except Error)

/-- The greatest product of uses and weight. -/
def aliasLimit : Nat := 100

/-- How often one of the leaves stands for a node. -/
def Leaves.weight (anchors : List Anchor) (leaves : Leaves) : Nat :=
  let count (number : Nat) : Nat :=
    match anchors.find? (·.number = number) with
    | some anchor => anchor.uses * anchor.weight
    | none => 0
  leaves.aliases.foldl (fun n number => max n (count number)) (if leaves.plain then 1 else 0)

/-- Puts an anchored node in the place of the one with its number. -/
def Anchor.update (anchor : Anchor) (anchors : List Anchor) : List Anchor :=
  anchors.map fun other => if other.number = anchor.number then anchor else other

/-- The value of an alias. -/
def resolveAlias (name : String) : Resolver (Value × Leaves) := do
  let anchors ← get
  match anchors.find? (·.name = name) with
  | none => throw (.unresolvedAlias name)
  | some anchor =>
    let anchor := { anchor with uses := anchor.uses + 1 }
    let weight :=
      if anchor.weight = 0 then anchor.leaves.weight (anchor.update anchors) else anchor.weight
    let anchor := { anchor with weight }
    set (anchor.update anchors)
    if aliasLimit < anchor.uses * anchor.weight then throw .excessiveAliases
    return (anchor.value, { aliases := [anchor.number] })

namespace Node

/-- What stands for the value of a node within that node. -/
def placeholder : Node → Value
  | noted _ node => node.placeholder
  | seq _ => .list []
  | map _ => .map []
  | _ => .null

/-- The text of a key with some value. -/
def keyText (node : Node) : Value → String
  | .null => ""
  | .bool value => if value then "true" else "false"
  | .num n => n.toText
  | .text s => s
  | _ => String.ofList (node.bare.flowText {})

mutual

/-- The value of a node, and its leaves. -/
def resolve : Node → Resolver (Value × Leaves)
  | aliasTo name => resolveAlias name
  | scalar style text => return (scalarValue style text, { plain := true })
  | absent => return (.null, { plain := true })
  | seq items => do
    let (values, leaves) ← resolveItems items
    return (.list values, leaves)
  | map pairs => do
    let (entries, leaves) ← resolvePairs [] pairs
    return (.map entries, leaves)
  | noted notes node =>
    match notes.anchor with
    | none => resolve node
    | some name => do
      let number := (← get).length
      let anchor : Anchor :=
        { name, number, value := node.placeholder, leaves := { plain := true } }
      modify (anchor :: ·)
      let (value, leaves) ← resolve node
      modify fun anchors => anchors.map fun anchor =>
        if anchor.number = number then { anchor with value, leaves } else anchor
      return (value, leaves)

/-- The values of items, and their leaves. -/
def resolveItems : List Node → Resolver (List Value × Leaves)
  | [] => return ([], {})
  | node :: nodes => do
    let (value, leaves) ← resolve node
    let (values, others) ← resolveItems nodes
    return (value :: values, leaves.union others)

/-- The entries of pairs, after those before them, and their leaves. -/
def resolvePairs (entries : Entries Value) :
    List (Node × Node) → Resolver (Entries Value × Leaves)
  | [] => return (entries, {})
  | (key, value) :: pairs => do
    let (keyValue, keyLeaves) ← resolve key
    let (value, leaves) ← resolve value
    let (entries, others) ← resolvePairs (entries.set (key.keyText keyValue) value) pairs
    return (entries, (keyLeaves.union leaves).union others)

end

end Node

end Yaml

end OAuthClient
