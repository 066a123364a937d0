import OAuthClient.Text.Units
import OAuthClient.Yaml.Scalar

/-!
# Tokens of YAML

A text is a sequence of tokens: blanks, line ends, comments, indicators, properties and scalars.
A token knows where it stands and how far its line is indented before it, since indentation carries
the structure.

## Main declarations

* `Yaml.Token`, `Yaml.Token.Kind`: a token and what it is.
* `Yaml.Token.isBlank`: whether a token carries no content.
* `Yaml.Scan`, `Yaml.Scanner`: a position in a text with the tokens before it, and a step over it.
* `Yaml.emit`: adds a token.
-/

namespace OAuthClient

namespace Yaml

/-- What a token is. A block scalar is one token with its header. -/
inductive Token.Kind where
  | byteOrderMark | directive | document | documentStart | documentEnd
  | newline | space | comment
  | dash | question | colon | comma
  | openMap | closeMap | openSeq | closeSeq
  | alias | anchor
  | plain | single | double
  | block (header : BlockHeader)
  deriving DecidableEq, Repr

/-- A token of a text. -/
structure Token where
  kind : Token.Kind
  /-- The characters that matter: all of them, but for a block scalar those after its header. -/
  text : List Char
  /-- The width of the spaces and indicators that its line starts with. -/
  indent : Nat
  /-- The number of units before its first character. -/
  start : Nat
  /-- The number of units before the first character after it. -/
  stop : Nat
  deriving DecidableEq, Repr

namespace Token

/-- Whether a token carries no content. -/
def isBlank (token : Token) : Bool :=
  token.kind = .newline || token.kind = .space || token.kind = .comment

/-- Whether there is a token of a kind. -/
def hasKind (tokens : List Token) (kind : Kind) : Bool := tokens.any (·.kind = kind)

end Token

/-! ### Characters that end tokens -/

/-- Blanks and the characters of line ends. -/
def isWhite (c : Char) : Bool := c = ' ' || c = '\t' || c = '\n' || c = '\x0d'

/-- The characters that delimit and separate in flow collections. -/
def isFlowIndicator (c : Char) : Bool := c ∈ [',', '[', ']', '\x7b', '\x7d']

/-- Whether a word ends before the characters. -/
def endsWord : List Char → Bool
  | [] => true
  | c :: _ => isWhite c

/-- The characters before the next line end, which is a line feed, perhaps after a carriage return.
-/
def lineOf : List Char → List Char
  | [] | '\n' :: _ | '\x0d' :: '\n' :: _ => []
  | c :: cs => c :: lineOf cs

/-- Whether a line starts with a marker between documents. -/
def isMarker : List Char → Bool
  | '-' :: '-' :: '-' :: cs => endsWord cs
  | '.' :: '.' :: '.' :: cs => endsWord cs
  | _ => false

/-- Whether a scalar goes on to a further line: the line is indented by at least `least` spaces or
is empty, or, for a scalar that needs no indentation, is no marker. -/
def continues (least : Nat) (cs : List Char) : Bool :=
  if least = 0 then !isMarker cs
  else
    let rest := cs.dropWhile (· = ' ')
    least ≤ (cs.takeWhile (· = ' ')).length || (rest ≠ [] && (lineOf rest).isEmpty)

/-! ### Positions -/

/-- A position in a text. -/
structure Scan where
  /-- The characters from here on. -/
  rest : List Char
  /-- The tokens before, the last one first. -/
  tokens : List Token := []
  /-- The number of units before. -/
  offset : Nat := 0
  /-- Whether the line has held only spaces and indicators so far. -/
  atStart : Bool := true
  /-- The width of the spaces and indicators that the line starts with. -/
  indent : Nat := 0
  /-- The column of the innermost block collection that the line may go on with. -/
  column : Nat := 0
  /-- The least indentation at which a scalar goes on to a further line. -/
  least : Nat := 0
  /-- The number of open flow collections. -/
  depth : Nat := 0
  /-- Whether a key of a flow collection may just have ended, so that a colon needs no blank. -/
  keyEnded : Bool := false

/-- A step over a text, which fails if the text is malformed. -/
abbrev Scanner := StateT Scan Option

/-- The indentation of a line after a token on it, and whether the line is still at its start. -/
def Token.Kind.layout (kind : Token.Kind) (text : List Char) (atStart : Bool) (indent : Nat) :
    Bool × Nat :=
  match kind with
  | .newline | .block _ => (true, 0)
  | .space =>
    (atStart, if atStart && text.head? = some ' ' then indent + text.length else indent)
  | .question | .colon | .dash => (atStart, if atStart then indent + text.length else indent)
  | .document => (atStart, indent)
  | _ => (false, indent)

/-- Adds a token that takes the characters `passed`, after which `rest` is left. -/
def emitFrom (kind : Token.Kind) (text passed rest : List Char) : Scanner Unit :=
  modify fun scan =>
    let stop := scan.offset + Text.unitCount passed
    let (atStart, indent) := kind.layout text scan.atStart scan.indent
    { scan with
      rest, atStart, indent
      tokens := { kind, text, indent := scan.indent, start := scan.offset, stop } :: scan.tokens
      offset := stop }

/-- Adds a token of the next `n` characters. -/
def emit (kind : Token.Kind) (n : Nat) : Scanner Unit := do
  let scan ← get
  emitFrom kind (scan.rest.take n) (scan.rest.take n) (scan.rest.drop n)

example : isMarker "--- a".toList ∧ !isMarker "---a".toList := by decide
example : continues 2 "  a".toList ∧ continues 2 "\x0d\n".toList ∧ !continues 2 " a".toList ∧
    continues 0 "a".toList ∧ !continues 0 "...".toList := by decide

end Yaml

end OAuthClient
