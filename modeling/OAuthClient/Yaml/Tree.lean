import OAuthClient.Yaml.Token

/-!
# The layout of a document

The tokens of a document are grouped by indentation and brackets into a tree, before anything is
said about what they mean. A collection is a list of items; what an item is made of depends on the
collection, and much that a tree can hold is refused later.

## Main declarations

* `Yaml.Tree`, `Yaml.Tree.Item`: a tree of tokens, and an item of a collection.
* `Yaml.Tree.indent`, `Yaml.Tree.after?`: where a node stands and what follows it on its line.
* `Yaml.Tree.spansLines`: whether a node takes more than one line.
* `Yaml.Tree.Document`: a tree with what comes before it.
-/

namespace OAuthClient

namespace Yaml

/-- An item of a collection: tokens before it, a key, the tokens after the key, and a value. An item
of a sequence has a value only. -/
structure Tree.Item (τ : Type) where
  before : List Token := []
  /-- Whether a question mark starts the item. -/
  explicit : Bool := false
  key : Option τ := none
  /-- The tokens after the key, if there is a key or a colon. -/
  between : Option (List Token) := none
  value : Option τ := none
  deriving Repr

/-- A tree of tokens. -/
inductive Tree where
  /-- An alias or a scalar with the rest of its line. -/
  | leaf (token : Token) (after : List Token)
  /-- A block scalar in a collection with some indentation. -/
  | block (token : Token) (header : BlockHeader) (indent : Nat)
  /-- A block map. -/
  | map (start indent : Nat) (items : List (Tree.Item Tree))
  /-- A block sequence. -/
  | seq (start indent : Nat) (items : List (Tree.Item Tree))
  /-- A flow collection from its opening bracket, with its closing bracket, if there is one, and
  the rest of the line. -/
  | flow (opening : Token) (indent : Nat) (items : List (Tree.Item Tree)) (after : List Token)
  deriving Repr

namespace Tree

/-- The indentation of a node. -/
def indent : Tree → Nat
  | leaf token _ => token.indent
  | block _ _ indent | map _ indent _ | seq _ indent _ | flow _ indent _ _ => indent

/-- The tokens after a node on its line, if such tokens are kept with it. -/
def after? : Tree → Option (List Token)
  | leaf _ [] => none
  | leaf _ after | flow _ _ _ after => some after
  | _ => none

/-- Adds tokens after a node. -/
def addAfter (tokens : List Token) : Tree → Tree
  | leaf token after => leaf token (after ++ tokens)
  | flow opening indent items after => flow opening indent items (after ++ tokens)
  | tree => tree

/-- Whether a node is a block collection. -/
def isBlockCollection : Tree → Bool
  | map .. | seq .. => true
  | _ => false

/-- Whether a node is a block sequence. -/
def isSeq : Tree → Bool
  | seq .. => true
  | _ => false

/-- Whether a node is a block map. -/
def isMap : Tree → Bool
  | map .. => true
  | _ => false

/-- Whether a node stands within a line: it is no block collection and no block scalar. -/
def isInline : Tree → Bool
  | leaf .. | flow .. => true
  | _ => false

mutual

/-- Whether a node takes more than one line. For a flow collection the rest of its line does not
count. -/
def spansLines : Tree → Bool
  | leaf token after => token.text.any (· = '\n') || Token.hasKind after .newline
  | flow _ _ items _ => itemsSpanLines items
  | _ => true

/-- Whether one of the items of a flow collection takes more than one line. -/
def itemsSpanLines : List (Item Tree) → Bool
  | [] => false
  | ⟨before, _, key, between, value⟩ :: items =>
    Token.hasKind before .newline || Token.hasKind (between.getD []) .newline ||
      anySpansLines key || anySpansLines value || itemsSpanLines items

/-- Whether there is a node and it takes more than one line. -/
def anySpansLines : Option Tree → Bool
  | some tree => tree.spansLines
  | none => false

end

/-- A document: the tokens before its node, and its node. -/
structure Document where
  before : List Token := []
  root : Option Tree := none

end Tree

end Yaml

end OAuthClient
