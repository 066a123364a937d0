import OAuthClient.Yaml.Preamble

/-!
# Nodes

A node is an alias, a scalar or a collection, perhaps with an anchor and comments. This module says
which trees are nodes: keys are scalars or collections on the line of their colon, block collections
keep their column, flow collections separate their items, and no two scalar keys of a map are equal.

## Main declarations

* `Yaml.Node`, `Yaml.Notes`: a node, and what is noted of it.
* `Yaml.Node.scalar?`: the value of a scalar.
* `Yaml.Node.ofTree?`: the node that a tree is, and where it stops.
* `Yaml.Node.ofDocument?`: the node of a document.
-/

namespace OAuthClient

namespace Yaml

/-- How a scalar is written. -/
inductive Style where
  | plain | single | double | block
  deriving DecidableEq, Repr

/-- What is noted of a node: its anchor, and the comments and the empty line beside it. -/
structure Notes where
  anchor : Option String := none
  emptyLine : Bool := false
  /-- The comments before the node. -/
  before : Option (List Char) := none
  /-- The comments after the node. -/
  after : Option (List Char) := none
  deriving DecidableEq, Repr

/-- A node of a document. -/
inductive Node where
  | aliasTo (name : String)
  | scalar (style : Style) (text : List Char)
  | seq (items : List Node)
  | map (pairs : List (Node × Node))
  | noted (notes : Notes) (node : Node)
  /-- Stands for the value of a key without a colon. -/
  | absent
  deriving Repr, Inhabited

namespace Node

/-- The node without characters. -/
def empty : Node := scalar .plain []

/-- What is noted of a node. -/
def notes : Node → Notes
  | noted notes _ => notes
  | _ => {}

/-- A node without its notes. -/
def bare : Node → Node
  | noted _ node => node.bare
  | node => node

/-- A node with other notes. -/
def withNotes (node : Node) (notes : Notes) : Node :=
  if notes = {} then node.bare else noted notes node.bare

/-- Adds a comment after a node. -/
def addComment (text : List Char) (node : Node) : Node :=
  let after := match node.notes.after with
    | some before => before ++ '\n' :: text
    | none => text
  node.withNotes { node.notes with after }

/-- The value that a scalar stands for: only a plain one can be anything but its text. -/
def scalarValue (style : Style) (text : List Char) : Value :=
  if style = .plain then plainValue text else .text (String.ofList text)

/-- The value of a scalar. -/
def scalar? : Node → Option Value
  | scalar style text => some (scalarValue style text)
  | noted _ node => node.scalar?
  | _ => none

/-- Whether a node is a collection. -/
def isCollection : Node → Bool
  | seq _ | map _ => true
  | noted _ node => node.isCollection
  | _ => false

/-- Whether two keys are equal: both are scalars with equal values, where the zeros are equal and
not-a-number equals nothing. -/
def sameKey (a b : Node) : Bool :=
  match a.scalar?, b.scalar? with
  | some (.num m), some (.num n) => m.equal n
  | some x, some y => x = y
  | _, _ => false

/-! ### Nodes of trees -/

/-- A node with what its preamble notes, and the comments after it. -/
def withPreamble? (preamble : Preamble) (node : Node) (after : Option (List Char)) : Option Node :=
  preamble.name?.map fun anchor =>
    node.withNotes { anchor, emptyLine := preamble.emptyLine, before := preamble.comment, after }

/-- A node without characters with what its preamble notes. Its comments are taken for comments
after it. -/
def emptyNode? (preamble : Preamble) (after : Option (List Char)) : Option Node :=
  withPreamble? { preamble with comment := none } empty (preamble.comment <|> after)

/-- The node without characters that follows some tokens, and where it stops. -/
def empty? (preamble : Preamble) (tokens : List Token) : Option (Node × Nat) :=
  (emptyNode? preamble none).map fun node =>
    (node, if preamble.comment.isSome then preamble.stop else emptyStop preamble.stop tokens)

/-- The node of an alias or a flow scalar with the comments after it. An alias has no anchor. -/
def leaf? (preamble : Preamble) (token : Token) (after : Option (List Char)) : Option Node :=
  let scalarOf (style : Style) (text? : Option (List Char)) : Option Node :=
    text?.bind fun text => withPreamble? preamble (scalar style text) after
  match token.kind with
  | .alias =>
    let name := token.text.tail
    if name = [] || preamble.anchor.isSome then none
    else withPreamble? preamble (aliasTo (String.ofList name)) after
  | .plain =>
    if token.text = [] then emptyNode? preamble after else scalarOf .plain (plainText? token.text)
  | .single => scalarOf .single (singleText? token.text)
  | .double => scalarOf .double (doubleText? token.text)
  | _ => none

/-- The number of units from the start of a key up to its colon that an implicit key may take. -/
def keyLimit : Nat := 1024

/-- Whether the key of an item of a block map with some indentation may stand there without a
question mark: on one line, in the column of the map, and not as a block sequence. -/
def isImplicitKey (indent : Nat) (preamble : Preamble) : Option Tree → Bool
  | some key =>
    !key.isSeq && key.indent = indent && !preamble.newlineAfter && !key.spansLines
  | none => !preamble.newlineAfter

/-- Whether a colon after an implicit key of a block map may stand there. -/
def isImplicitColon (start : Nat) (colon : Token) (preamble : Preamble) (value : Option Tree) :
    Bool :=
  (preamble.newline || !value.any Tree.isMap) && colon.start ≤ start + keyLimit

/-- Whether a colon after an implicit key of a flow sequence may stand there: on the line of the
key. -/
def isFlowColon (start : Nat) (colon : Token) (between : List Token) : Bool :=
  !Token.hasKind (between.takeWhile (· ≠ colon)) .newline && colon.start ≤ start + keyLimit

/-- Whether the first token after a flow collection closes it. -/
def closes (opening : Token) (after : List Token) : Bool :=
  after.head?.any (·.kind = if opening.kind = .openSeq then .closeSeq else .closeMap)

/-- The comment right after the comma before an item: it belongs to the item before. -/
def commentOfPrevious? (before : List Token) : Option (List Char) :=
  match before.dropWhile fun token => token.kind = .comma || token.kind = .space with
  | token :: _ =>
    if token.kind = .comment && token.text.tail ≠ [] then some token.text.tail else none
  | [] => none

/-- A preamble without the comment that belongs to the item before. -/
def withoutComment (preamble : Preamble) (comment : List Char) : Preamble :=
  let rest := (preamble.comment.getD []).drop (comment.length + 1)
  { preamble with comment := if rest = [] then none else some rest }

/-- The items of a collection: their nodes, the comments at the end of the collection, and the
comment before them that belongs to the item before. -/
structure Items (α : Type) where
  nodes : List α := []
  comment : Option (List Char) := none
  previous : Option (List Char) := none

/-- Puts an item before the others. -/
def Items.cons {α : Type} (node : α) (items : Items α) : Items α :=
  { items with nodes := node :: items.nodes }

/-- Adds a comment of the next item to a node. -/
def withNext (previous : Option (List Char)) (node : Node) : Node :=
  match previous with
  | some comment => node.addComment comment
  | none => node

/-- Adds a comment of the next item to a pair: to its value, or to its key without a value. -/
def pairWithNext (previous : Option (List Char)) : Node × Node → Node × Node
  | (key, absent) => (withNext previous key, absent)
  | (key, value) => (key, withNext previous value)

mutual

/-- The node that a tree is, after its preamble, and where it stops. `atRoot` tells that it is the
node of the document. -/
def ofTree? (atRoot : Bool) (preamble : Preamble) : Tree → Option (Node × Nat)
  | .leaf token after => do
    let comment ← Ending.read? after
    let node ← leaf? preamble token comment
    return (node, (after.getLast?.getD token).stop)
  | .block token header indent => do
    let text ← blockText? header indent atRoot token.text
    let node ← withPreamble? preamble (scalar .block text) header.comment
    return (node, token.stop)
  | .map start indent items => do
    let (pairs, stop) ← pairs? indent start [] items
    let node ← withPreamble? preamble (map pairs.nodes) pairs.comment
    return (node, stop)
  | .seq start indent items =>
    if preamble.anchor.isSome && !preamble.newlineAfter then none
    else do
      let (items, stop) ← items? indent start items
      let node ← withPreamble? preamble (seq items.nodes) items.comment
      return (node, stop)
  | .flow opening indent items after =>
    if !closes opening after then none
    else do
      let (node, inner) ←
        if opening.kind = .openSeq then
          (flowItems? indent opening.stop true items).map fun items =>
            (seq items.nodes, items.comment)
        else
          (flowPairs? indent opening.stop true [] items).map fun items =>
            (map items.nodes, items.comment)
      let outer ← Ending.read? after.tail
      let node ← withPreamble? preamble node inner
      let node := match outer with
        | some text => node.addComment text
        | none => node
      return (node, (after.getLast?.getD opening).stop)

/-- The items of a block sequence with some indentation from `offset` on, and where they stop. At
its end blanks and comments may stand without a dash. -/
def items? (indent offset : Nat) : List (Tree.Item Tree) → Option (Items Node × Nat)
  | [] => some ({}, offset)
  | ⟨before, _, _, _, value⟩ :: items => do
    let place := { inFlow := false, indicator := .dash, next := .ofTree value }
    let preamble ← Preamble.read? place offset indent true before
    if preamble.found.isNone then
      if preamble.anchor.isSome || value.isSome then none
      else
        let (others, stop) ← items? indent offset items
        let comment := others.comment <|> preamble.comment
        return ({ others with comment }, if others.nodes.isEmpty then preamble.stop else stop)
    else
      let (node, offset) ← match value with
        | some tree => ofTree? false preamble tree
        | none => empty? preamble before
      let (others, stop) ← items? indent offset items
      return (others.cons node, stop)

/-- The pairs of a block map with some indentation from `offset` on, and where they stop; `keys` are
those before. At its end blanks and comments may stand without a key. -/
def pairs? (indent offset : Nat) (keys : List Node) :
    List (Tree.Item Tree) → Option (Items (Node × Node) × Nat)
  | [] => some ({}, offset)
  | ⟨before, _, key, between, value⟩ :: items => do
    let place := { inFlow := false, indicator := .question, next := .ofItem key between }
    let preamble ← Preamble.read? place offset indent true before
    let implicit := preamble.found.isNone
    if implicit && preamble.anchor.isNone && between.isNone then
      let (others, _) ← pairs? indent offset keys items
      if others.nodes.isEmpty then return ({ comment := preamble.comment }, preamble.stop)
      else none
    else if implicit && !isImplicitKey indent preamble key then none
    else if preamble.found.any (·.indent ≠ indent) then none
    else
      let (keyNode, offset) ← match key with
        | some tree => ofTree? false preamble tree
        | none => empty? preamble before
      if keys.any (sameKey keyNode) then none
      else
        let tokens := between.getD []
        let place := { inFlow := false, indicator := .colon, next := .ofTree value }
        let fresh := !key.any Tree.isInline && !key.any Tree.isBlockCollection
        let after ← Preamble.read? place offset indent fresh tokens
        match after.found with
        | some colon =>
          if implicit && !isImplicitColon preamble.start colon after value then none
          else
            let (node, offset) ← match value with
              | some tree => ofTree? false after tree
              | none => empty? after tokens
            let (others, stop) ← pairs? indent offset (keyNode :: keys) items
            return (others.cons (keyNode, node), stop)
        | none =>
          if implicit then none
          else
            let keyNode := withNext after.comment keyNode
            let (others, stop) ← pairs? indent after.stop (keyNode :: keys) items
            return (others.cons (keyNode, absent), stop)

/-- The items of a flow sequence from `offset` on; `first` tells that there is none before. A key
with its value is a map of its own. After the last comma nothing needs to stand. -/
def flowItems? (indent offset : Nat) (first : Bool) :
    List (Tree.Item Tree) → Option (Items Node)
  | [] => some {}
  | ⟨before, _, key, between, value⟩ :: items => do
    let place := { inFlow := true, indicator := .question, next := .ofItem key between }
    let preamble ← Preamble.read? place offset indent false before
    let implicit := preamble.found.isNone
    if implicit && preamble.anchor.isNone && between.isNone && value.isNone then
      if (first && preamble.comma) || !items.isEmpty then none
      else return { comment := preamble.comment }
    else if preamble.comma = first then none
    else if implicit && key.any Tree.spansLines then none
    else if key.any Tree.isBlockCollection || value.any Tree.isBlockCollection then none
    else
      let previous := if first then none else commentOfPrevious? before
      let preamble := previous.elim preamble (withoutComment preamble)
      if implicit && between.isNone then
        let (node, offset) ← match value with
          | some tree => ofTree? false preamble tree
          | none => empty? preamble []
        let others ← flowItems? indent offset false items
        return { others.cons (withNext others.previous node) with previous }
      else
        let (keyNode, offset) ← match key with
          | some tree => ofTree? false preamble tree
          | none => empty? preamble before
        let tokens := between.getD []
        let place := { inFlow := true, indicator := .colon, next := .ofTree value }
        let after ← Preamble.read? place offset indent false tokens
        match after.found with
        | some colon =>
          if implicit && !isFlowColon preamble.start colon tokens then none
          else
            let (node, offset) ← match value with
              | some tree => ofTree? false after tree
              | none => empty? after tokens
            let others ← flowItems? indent offset false items
            let node := withNext others.previous (map [(keyNode, node)])
            return { others.cons node with previous }
        | none =>
          if value.isSome then none
          else
            let keyNode := withNext after.comment keyNode
            let others ← flowItems? indent after.stop false items
            let node := withNext others.previous (map [(keyNode, absent)])
            return { others.cons node with previous }

/-- The pairs of a flow map from `offset` on; `first` tells that there is none before, `keys` are
those before. After the last comma nothing needs to stand. -/
def flowPairs? (indent offset : Nat) (first : Bool) (keys : List Node) :
    List (Tree.Item Tree) → Option (Items (Node × Node))
  | [] => some {}
  | ⟨before, _, key, between, value⟩ :: items => do
    let place := { inFlow := true, indicator := .question, next := .ofItem key between }
    let preamble ← Preamble.read? place offset indent false before
    let implicit := preamble.found.isNone
    if implicit && preamble.anchor.isNone && between.isNone && value.isNone then
      if (first && preamble.comma) || !items.isEmpty then none
      else return { comment := preamble.comment }
    else if preamble.comma = first then none
    else if key.any Tree.isBlockCollection || value.any Tree.isBlockCollection then none
    else
      let previous := if first then none else commentOfPrevious? before
      let preamble := previous.elim preamble (withoutComment preamble)
      let (keyNode, offset) ← match key with
        | some tree => ofTree? false preamble tree
        | none => empty? preamble before
      if keys.any (sameKey keyNode) then none
      else
        let tokens := between.getD []
        let place := { inFlow := true, indicator := .colon, next := .ofTree value }
        let after ← Preamble.read? place offset indent false tokens
        if after.found.isSome then
          let (node, offset) ← match value with
            | some tree => ofTree? false after tree
            | none => empty? after tokens
          let others ← flowPairs? indent offset false (keyNode :: keys) items
          let pair := pairWithNext others.previous (keyNode, node)
          return { others.cons pair with previous }
        else if value.isSome then none
        else
          let keyNode := withNext after.comment keyNode
          let others ← flowPairs? indent after.stop false (keyNode :: keys) items
          let pair := pairWithNext others.previous (keyNode, absent)
          return { others.cons pair with previous }

end

/-- The node of a document. On the line of the marker no block collection starts. -/
def ofDocument? (document : Tree.Document) : Option Node := do
  let place := { inFlow := false, indicator := .documentStart, next := .ofTree document.root }
  let preamble ← Preamble.read? place 0 0 true document.before
  let onLine := preamble.found.isSome && !preamble.newline
  if onLine && document.root.any Tree.isBlockCollection then none
  else
    let (node, _) ← match document.root with
      | some tree => ofTree? true preamble tree
      | none => empty? preamble document.before
    return node

end Node

end Yaml

end OAuthClient
