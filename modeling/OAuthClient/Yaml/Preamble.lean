import OAuthClient.Yaml.Tree

/-!
# What stands before a node

Blanks, comments, anchors and indicators stand before a node, or between a key and its value. Which
of them may follow each other depends little on the node: comments and nodes are separated from what
precedes them, tabs do not indent, and there is at most one anchor and one indicator.

## Main declarations

* `Yaml.Preamble`: what the tokens before a node say.
* `Yaml.Preamble.read?`: reads the tokens, if they may stand there.
* `Yaml.Ending.read?`: reads the tokens after a node, if they may stand there.
* `Yaml.emptyStop`: where a node without characters stands.
-/

namespace OAuthClient

namespace Yaml

/-- The characters of a comment; a comment without characters is taken for a blank. -/
def Token.commentText (token : Token) : List Char :=
  if token.text.tail = [] then [' '] else token.text.tail

/-- Comments that are read one after the other, with the line ends since the last of them. -/
structure Comments where
  text : Option (List Char) := none
  since : List Char := []

/-- Adds a comment. -/
def Comments.add (comments : Comments) (token : Token) : Comments :=
  match comments.text with
  | none => { text := some token.commentText }
  | some text => { text := some (text ++ comments.since ++ token.commentText) }

/-- What the tokens before a node say. -/
structure Preamble where
  /-- Whether there is a comma. -/
  comma : Bool := false
  /-- The indicator. -/
  found : Option Token := none
  /-- The comments. -/
  comment : Option (List Char) := none
  /-- Whether there is an empty line, other than after a comment. -/
  emptyLine : Bool := false
  /-- Whether there is a line end. -/
  newline : Bool := false
  anchor : Option Token := none
  /-- Whether a line ends after the anchor. -/
  newlineAfter : Bool := false
  /-- Where the anchor starts, or the node if there is none. -/
  start : Nat
  /-- Where the node starts. -/
  stop : Nat

/-- What follows the tokens before a node. -/
inductive Following where
  /-- Nothing. -/
  | nothing
  /-- A blank, a comma or a scalar without characters. -/
  | blank
  /-- A flow collection. -/
  | flow
  /-- A block collection. -/
  | block
  /-- Anything else. -/
  | word
  deriving DecidableEq, Repr

/-- What a node is as something that follows. -/
def Following.ofTree : Option Tree → Following
  | none => nothing
  | some (.leaf token _) => if token.kind = .plain ∧ token.text = [] then blank else word
  | some (.block ..) => word
  | some (.map ..) | some (.seq ..) => block
  | some (.flow ..) => flow

/-- What follows before an item: its key, or else the first token after the key. -/
def Following.ofItem (key : Option Tree) (between : Option (List Token)) : Following :=
  match key, between.bind List.head? with
  | none, some token => if token.isBlank || token.kind = .comma then blank else word
  | key, _ => ofTree key

namespace Preamble

/-- Where tokens stand: in a flow collection or not, and in front of what. `indicator` is the one
that may stand among them. -/
structure Place where
  inFlow : Bool
  indicator : Token.Kind
  next : Following

/-- The tokens before a node as far as they have been read. -/
structure Reading where
  preamble : Preamble
  comments : Comments := {}
  /-- Whether the line holds only blanks so far. -/
  atNewline : Bool
  /-- Whether there is a blank before, so that a comment may start. -/
  spaced : Bool
  /-- Whether there is an anchor before, so that a blank has to follow. -/
  tight : Bool := false
  /-- The last token, if it holds a tab that would indent. -/
  tab : Option Token := none

/-- Reads a token. -/
def Reading.next (place : Place) (reading : Reading) (token : Token) : Option Reading :=
  let p := reading.preamble
  let kind := token.kind
  if reading.tight && kind ∉ [.space, .newline, .comma] then none
  else if reading.tab.isSome && reading.atNewline && kind ∉ [.comment, .newline] then none
  else
    let reading := { reading with tight := false, tab := none }
    match kind with
    | .space =>
      let indents := !place.inFlow && (place.indicator ≠ .documentStart || place.next ≠ .flow)
      let tab := if indents && token.text.any (· = '\t') then some token else none
      some { reading with tab, spaced := true }
    | .comment =>
      if reading.spaced then
        some { reading with comments := reading.comments.add token, atNewline := false }
      else none
    | .newline =>
      let { text, since } := reading.comments
      let comments : Comments :=
        if reading.atNewline then { text := text.map (· ++ token.text), since }
        else { text, since := since ++ token.text }
      let emptyLine := p.emptyLine || (reading.atNewline && text.isNone &&
        !(p.found.isSome && place.indicator = .dash))
      let newlineAfter := p.newlineAfter || p.anchor.isSome
      let preamble := { p with newline := true, newlineAfter, emptyLine }
      some { reading with preamble, comments, atNewline := true, spaced := true }
    | .anchor =>
      if p.anchor.isSome then none
      else
        let preamble := { p with anchor := some token, start := token.start }
        some { reading with preamble, atNewline := false, spaced := false, tight := true }
    | _ =>
      if kind = place.indicator then
        if p.anchor.isSome || p.found.isSome then none
        else
          let atNewline := kind = .dash || kind = .question
          some { reading with
            preamble := { p with found := some token }, atNewline, spaced := false }
      else if kind = .comma && place.inFlow && !p.comma then
        some { reading with
          preamble := { p with comma := true }, atNewline := false, spaced := false }
      else none

/-- Reads the tokens before a node that starts at `offset` if there are none, in a collection with
some indentation. `atNewline` tells whether the tokens start a line. -/
def read? (place : Place) (offset indent : Nat) (atNewline : Bool) (tokens : List Token) :
    Option Preamble := do
  let stop := (tokens.getLast?.map (·.stop)).getD offset
  let reading : Reading :=
    { preamble := { start := stop, stop }, atNewline, spaced := atNewline }
  let reading ← tokens.foldlM (Reading.next place) reading
  let refused := reading.tab.any fun tab =>
    (reading.atNewline && tab.indent ≤ indent) || place.next = .block
  if refused || (reading.tight && place.next ∈ [.flow, .block, .word]) then none
  else some { reading.preamble with comment := reading.comments.text }

/-- The name of the anchor, which has at least one character. It is `none` if there is no anchor.
-/
def name? (preamble : Preamble) : Option (Option String) :=
  match preamble.anchor with
  | none => some none
  | some token => if token.text.tail = [] then none else some (some (String.ofList token.text.tail))

end Preamble

namespace Ending

/-- Reads the tokens after a node, which are blanks and comments, each comment after a blank. The
result is the comments. -/
def readFrom (comments : Comments) (spaced : Bool) : List Token → Option Comments
  | [] => some comments
  | token :: tokens =>
    match token.kind with
    | .space => readFrom comments true tokens
    | .newline =>
      let since := if comments.text.isSome then comments.since ++ token.text else []
      readFrom { comments with since } true tokens
    | .comment => if spaced then readFrom (comments.add token) true tokens else none
    | _ => none

/-- The comments after a node. -/
def read? (tokens : List Token) : Option (Option (List Char)) :=
  (readFrom {} false tokens).map (·.text)

end Ending

/-- Where a node without characters stands that comes after some tokens and before `offset`: after
the last of them that is no blank, and after the spaces that follow it. -/
def emptyStop (offset : Nat) (tokens : List Token) : Nat :=
  let width (tokens : List Token) : Nat := tokens.foldl (fun n t => n + (t.stop - t.start)) 0
  let blanks := (tokens.reverse.takeWhile (·.isBlank)).reverse
  let spaces := if blanks.length = tokens.length then [] else blanks.takeWhile (·.kind = .space)
  offset - width blanks + width spaces

end Yaml

end OAuthClient
