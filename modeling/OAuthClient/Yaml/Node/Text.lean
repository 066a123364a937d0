import OAuthClient.Yaml.Folding
import OAuthClient.Yaml.Node

/-!
# Collections as text

A collection that is a key is named by its text as a flow collection. Scalars keep the style in
which they are written as far as they can be read back from there; numbers are written anew. A
collection that does not fit into a line, or that holds comments, takes one line for each item.

## Main declarations

* `Yaml.quoted`: a double-quoted text.
* `Yaml.scalarText`: the text of a scalar.
* `Yaml.withComment`: a line and a comment after it.
* `Yaml.bracketed`: the text of a collection from those of its items.
* `Yaml.Node.flowText`: the text of a node.
-/

namespace OAuthClient

namespace Yaml

/-- Where a node is written. -/
structure Spot where
  /-- The indentation of the line. -/
  indent : Nat := 0
  /-- Whether a colon follows on the line. -/
  isKey : Bool := false
  /-- What stands before the node on its line, if that is known. -/
  first : Option Nat := none

/-- Folds a text unless it is a key. -/
def Spot.fold (spot : Spot) (cuts : Bool) (text : List Char) : List Char :=
  if spot.isKey then text
  else Folding.apply { indent := spot.indent, cuts, first := spot.first } text

/-! ### Double quotes -/

/-- The escape of a character that needs one. -/
def escape? (c : Char) : Option (List Char) :=
  if c = '"' then some ['\\', '"']
  else if c = '\\' then some ['\\', '\\']
  else if c = '\n' then some ['\\', 'n']
  else if c = '\t' then some ['\\', 't']
  else if c = '\x0d' then some ['\\', 'r']
  else if c = '\x08' then some ['\\', 'b']
  else if c = '\x0c' then some ['\\', 'f']
  else if c = '\x00' then some ['\\', '0']
  else if c = '\x07' then some ['\\', 'a']
  else if c = '\x0b' then some ['\\', 'v']
  else if c = '\x1b' then some ['\\', 'e']
  else if c < ' ' then
    some ['\\', 'x', if c < '\x10' then '0' else '1', Nat.digitChar (c.toNat % 16)]
  else none

/-- The number of units of a text between plain quotes with escapes of two units, or six for a
control character without a letter. -/
def quotedWidth (text : List Char) : Nat :=
  text.foldl (fun n c =>
    n + if c < ' ' && c ∉ ['\n', '\t', '\x0d', '\x08', '\x0c'] then 6
      else match escape? c with
        | some e => e.length
        | none => Text.unitCount [c]) 2

/-- Whether a further line feed follows that is not the last character. -/
def breaksAgain : List Char → Bool
  | '\n' :: _ :: _ => true
  | _ => false

/-- The characters between double quotes. A blank before a line feed is escaped. If `breaks` is set,
line feeds other than the last one are written as empty lines, of which folding takes one away;
`again` tells that the character before was written so. -/
def quotedChars (breaks : Bool) (indent : Nat) (again : Bool) : List Char → List Char
  | [] => []
  | c :: cs =>
    if c = '\n' then
      if again || (breaks && !cs.isEmpty) then
        let feeds := if again then ['\n'] else ['\n', '\n']
        if breaksAgain cs then feeds ++ quotedChars breaks indent true cs
        else
          let mark := if cs.head? = some ' ' then ['\\'] else []
          feeds ++ List.replicate indent ' ' ++ mark ++ quotedChars breaks indent false cs
      else '\\' :: 'n' :: quotedChars breaks indent false cs
    else if c = ' ' && cs.head? = some '\n' then '\\' :: ' ' :: quotedChars breaks indent false cs
    else (escape? c).getD [c] ++ quotedChars breaks indent false cs

/-- The width from which on line feeds are written as lines. -/
def breakWidth : Nat := 40

/-- A double-quoted text. -/
def quoted (spot : Spot) (text : List Char) : List Char :=
  let breaks := !spot.isKey && breakWidth ≤ quotedWidth text
  spot.fold true ('"' :: quotedChars breaks spot.indent false text ++ ['"'])

/-! ### Other styles -/

/-- Whether two neighbours satisfy a relation. -/
def anyNeighbours (p : Char → Char → Bool) : List Char → Bool
  | a :: b :: cs => p a b || anyNeighbours p (b :: cs)
  | _ => false

/-- Adds an empty line after line feeds, as folding takes one away. -/
def spreadBreaks (indent : Nat) : List Char → List Char
  | [] => []
  | c :: cs =>
    if c = '\n' && cs.head? ≠ some '\n' then
      '\n' :: '\n' :: List.replicate indent ' ' ++ spreadBreaks indent cs
    else c :: spreadBreaks indent cs

/-- A single-quoted text. Blanks beside line feeds need double quotes. -/
def singleQuoted (spot : Spot) (text : List Char) : List Char :=
  let beside (a b : Char) : Bool := (isInlineBlank a && b = '\n') || (a = '\n' && isInlineBlank b)
  if (spot.isKey && text.any (· = '\n')) || anyNeighbours beside text then quoted spot text
  else
    let doubled := text.flatMap fun c => if c = '\'' then ['\'', '\''] else [c]
    spot.fold false ('\'' :: spreadBreaks spot.indent doubled ++ ['\''])

/-- A text in quotes of which it holds none if it holds any of the others. -/
def quotedAny (spot : Spot) (text : List Char) : List Char :=
  if text.any (· = '"') && !text.any (· = '\'') then singleQuoted spot text else quoted spot text

/-- Whether a text in a flow collection cannot be written without quotes. -/
def needsQuotes (isKey : Bool) (text : List Char) : Bool :=
  let blankAfter (a b : Char) : Bool := (a = '\n' || a = ':') && isInlineBlank b
  let breakAfter (a b : Char) : Bool := isInlineBlank a && b = '\n'
  let comment (a b : Char) : Bool := (a = '\n' || isInlineBlank a) && b = '#'
  let indicator : Bool :=
    match text with
    | [] => false
    | [c] => c = '?' || c = '-'
    | c :: d :: _ => (c = '?' || c = '-') && isInlineBlank d
  text.any isFlowIndicator || (isKey && text.any (· = '\n')) || indicator ||
    text.head?.any (· ∈ "\n\t #&*!|>'\"%@\x60".toList) ||
    text.getLast?.any (· ∈ "\n\t :-".toList) ||
    anyNeighbours (fun a b => blankAfter a b || breakAfter a b || comment a b) text

/-- A text without quotes if that is possible. -/
def unquoted (spot : Spot) (text : List Char) : List Char :=
  if needsQuotes spot.isKey text then quotedAny spot text
  else spot.fold false (spreadBreaks spot.indent text)

/-- Whether a character is a control character that only an escape can write. -/
def isControl (c : Char) : Bool :=
  (c < ' ' && c ≠ '\t' && c ≠ '\n') || ('\x7f' ≤ c && c ≤ '\u009f')

/-- A text in a style. -/
def stringText (spot : Spot) (style : Style) (text : List Char) : List Char :=
  if text.any isControl then quoted spot text
  else match style with
    | .plain => unquoted spot text
    | .single => singleQuoted spot text
    | .double => quoted spot text
    | .block => quotedAny spot text

/-- A number that is written as `text`: in the same base, with an exponent if there is one, and
with the zeros at the end of its fraction if it is positive. -/
def numberText (text : List Char) (n : Number) : String :=
  let inBase (base : Nat) : String :=
    match n.toInt? with
    | some i => String.ofList (text.take 2 ++ Nat.toDigits base i.toNat)
    | none => ".inf"
  match text, n with
  | '0' :: 'o' :: _, _ => inBase 8
  | '0' :: 'x' :: _, _ => inBase 16
  | _, .nan => ".nan"
  | _, .infinite negative => if negative then "-.inf" else ".inf"
  | _, .finite .. =>
    if text.any fun c => c = 'e' || c = 'E' then n.write .exponential
    else if n.isNegativeZero then "-0"
    else
      let written := n.toText
      let places := (text.dropWhile (· ≠ '.')).length - 1
      if text.getLast? = some '0' && 0 < places && written.toList.head?.any Char.isDigit then
        let fraction := written.toList.dropWhile (· ≠ '.')
        let point := if fraction = [] then ['.'] else []
        String.ofList (written.toList ++ point ++
          List.replicate (places - (fraction.length - 1)) '0')
      else written

/-- The text of a scalar. -/
def scalarText (spot : Spot) (style : Style) (text : List Char) : List Char :=
  match Node.scalarValue style text with
  | .text _ => stringText spot style text
  | .num n => (numberText text n).toList
  | _ => text

/-! ### Comments -/

/-- Whether a character ends a line of a comment. -/
def endsCommentLine (c : Char) : Bool := c ∈ ['\n', '\x0d', '\u2028', '\u2029']

/-- Puts a mark before each line of a comment that is not empty. A line of a single space becomes
the mark alone. -/
def markComment (atStart : Bool) : List Char → List Char
  | [] => []
  | c :: cs =>
    if endsCommentLine c then c :: markComment true cs
    else if !atStart then c :: markComment false cs
    else if c = ' ' && cs.head?.all endsCommentLine then '#' :: markComment false cs
    else '#' :: c :: markComment false cs

/-- Indents the lines of a comment that are not empty. -/
def indentLines (indent : Nat) (atStart : Bool) : List Char → List Char
  | [] => []
  | c :: cs =>
    if endsCommentLine c then c :: indentLines indent true cs
    else (if atStart then List.replicate indent ' ' else []) ++ c :: indentLines indent false cs

/-- The indented lines of a comment. Of empty lines alone the first is left out. -/
def commentLines (indent : Nat) (comment : List Char) : List Char :=
  if comment.all (· = '\n') then comment.tail
  else indentLines indent true (markComment true comment)

/-- The lines that stand before a node. -/
def linesBefore (indent : Nat) (notes : Notes) : List (List Char) :=
  let comment := notes.before.map fun comment =>
    (commentLines indent comment).dropWhile fun c => c = ' ' || endsCommentLine c
  (if notes.emptyLine then [[]] else []) ++ comment.toList

/-- Adds a comment to a line. One of several lines starts on the next line. -/
def withComment (indent : Nat) (line : List Char) : Option (List Char) → List Char
  | none => line
  | some comment =>
    if comment.any (· = '\n') then line ++ '\n' :: commentLines indent comment
    else
      let gap := if line.getLast? = some ' ' then [] else [' ']
      line ++ gap ++ markComment true comment

/-! ### Collections -/

/-- What an item of a collection takes up. -/
structure Row where
  /-- The lines before it. -/
  before : List (List Char)
  text : List Char
  /-- The comment after it. -/
  after : Option (List Char)
  /-- Whether each item needs a line of its own. -/
  alone : Bool := false

/-- The lines of a row with some indentation. A comma follows the item unless it is the last one. -/
def Row.lines (indent : Nat) (isLast : Bool) (row : Row) : List (List Char) :=
  let item := if isLast then row.text else row.text ++ [',']
  row.before ++ [withComment indent item row.after]

/-- Puts items with some indentation between brackets, on one line if that is not too long and none
needs a line of its own. -/
def bracketed (indent itemIndent : Nat) (opening closing : Char) (rows : List Row) : List Char :=
  let lines := rows.zipIdx.flatMap fun (row, i) => row.lines itemIndent (i + 1 = rows.length)
  let width := lines.foldl (fun n line => n + Text.unitCount line + 2) 2
  let alone (row : Row) : Bool :=
    row.alone || row.after.isSome || !row.before.isEmpty || row.text.any (· = '\n')
  if lines = [] then [opening, closing]
  else if Folding.width < width || rows.any alone then
    let line (cs : List Char) : List Char :=
      if cs = [] then ['\n'] else '\n' :: List.replicate (indent + 2) ' ' ++ cs
    opening :: lines.flatMap line ++ '\n' :: List.replicate indent ' ' ++ [closing]
  else opening :: ' ' :: Text.joinWith ' ' lines ++ [' ', closing]

namespace Node

/-- Whether a node is the missing value of a key. -/
def isAbsent : Node → Bool
  | absent => true
  | _ => false

/-- Whether a question mark has to stand before a key: it is no scalar, or a block scalar. -/
def needsMark : Node → Bool
  | scalar style _ => style = .block
  | noted _ node => node.needsMark
  | _ => true

/-- What stands before the part of a line after the anchor of a node. -/
def firstAfter (first : Option Nat) (node : Node) : Option Nat :=
  match node.notes.anchor with
  | some name => some (first.getD 0 + Text.unitCount name.toList + 2)
  | none => first

/-- What stands between a colon and a value in a pair with some indentation. A collection of several
lines starts on a line of its own, and so does a value after comments or an empty line. -/
def valueGap (indent : Nat) (marked commented : Bool) (value : Node) (text : List Char) :
    List Char :=
  let newline : List Char := '\n' :: List.replicate (indent + 2) ' '
  let { emptyLine, before, .. } := value.notes
  if commented || emptyLine || before.isSome then
    let comment := before.elim [] fun comment => '\n' :: commentLines (indent + 2) comment
    (if emptyLine then ['\n'] else []) ++ comment ++ newline
  else if !marked && value.isCollection then
    if text.any (· = '\n') then newline else [' ']
  else if text = [] || text.head? = some '\n' then []
  else [' ']

/-- Joins the texts of a key and its value. -/
def pairText (indent : Nat) (marked : Bool) (key : List Char) (comment : Option (List Char))
    (value : Node) (text : List Char) : List Char :=
  let start :=
    if marked then
      '?' :: ' ' :: withComment (indent + 2) key comment ++
        '\n' :: List.replicate indent ' ' ++ [':']
    else withComment (indent + 2) (key ++ [':']) comment
  start ++ valueGap indent marked comment.isSome value text ++ text

mutual

/-- The text of a node. -/
def flowText (spot : Spot) : Node → List Char
  | aliasTo name => '*' :: name.toList ++ if spot.isKey then [' '] else []
  | scalar style text => scalarText spot style text
  | noted notes node =>
    let first := firstAfter spot.first (noted notes node)
    let mark := notes.anchor.elim [] fun name => '&' :: name.toList ++ [' ']
    mark ++ flowText { spot with first } node
  | seq items =>
    let indent := spot.indent
    bracketed indent (indent + 4) '[' ']' (itemRows indent spot.first items)
  | map pairs =>
    let indent := spot.indent
    let bare := pairs.all (·.2.isAbsent)
    bracketed indent (indent + 2) '\x7b' '\x7d' (pairRows indent bare spot.first pairs)
  | absent => []

/-- The rows of items of a sequence with some indentation. -/
def itemRows (indent : Nat) (first : Option Nat) : List Node → List Row
  | [] => []
  | node :: nodes =>
    let row : Row :=
      { before := linesBefore indent node.notes
        text := flowText { indent := indent + 4, first } node
        after := node.notes.after }
    row :: itemRows indent (firstAfter first node) nodes

/-- The rows of pairs of a map with some indentation; `bare` tells that none of them has a value. -/
def pairRows (indent : Nat) (bare : Bool) (first : Option Nat) : List (Node × Node) → List Row
  | [] => []
  | (key, value) :: pairs =>
    let marked := key.needsMark
    let comment := key.notes.after
    let keyText := flowText { indent := indent + 4, isKey := !marked && !bare, first } key
    let text :=
      if value.isAbsent then
        if keyText = [] then ['?'] else if marked then '?' :: ' ' :: keyText else keyText
      else
        let after :=
          if !marked && comment.isNone && value.scalar?.isSome then
            some (Text.unitCount keyText + 2)
          else firstAfter first key
        pairText (indent + 2) marked keyText comment value
          (flowText { indent := indent + 4, first := after } value)
    let row : Row :=
      { before := linesBefore indent key.notes
        text
        after := if value.isAbsent then comment else value.notes.after
        alone := comment.isSome || value.notes.before.isSome }
    row :: pairRows indent bare first pairs

end

example : String.ofList ((seq [scalar .plain ['a'], scalar .single ['b'],
    map [(scalar .plain ['c'], scalar .plain ['0', '7'])]]).flowText {}) =
    "[ a, 'b', \x7b c: 7 \x7d ]" := by decide +kernel

example : String.ofList ((seq [noted { after := some " c".toList } (scalar .plain ['a']),
    noted { anchor := some "x" } (scalar .plain ['b'])]).flowText {}) =
    "[\n  a, # c\n  &x b\n]" := by decide +kernel

end Node

end Yaml

end OAuthClient
