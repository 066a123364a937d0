import OAuthClient.Yaml.Token

/-!
# The tokens of a text

A text is scanned line by line. Between documents a line is blank, a comment or a directive. A line
of a document starts with the indicators of block collections, which say how far a scalar after them
has to be indented to go on; within flow collections only commas, colons and brackets matter.

## Main declarations

* `Yaml.plainLength`, `Yaml.quotedLength?`, `Yaml.blockLines`: how far the scalars reach.
* `Yaml.Place`: what the next characters can be.
* `Yaml.tokens?`: the tokens of a text.
-/

namespace OAuthClient

namespace Yaml

/-! ### Blanks, line ends, indicators -/

/-- Adds the blanks from here on, or only the spaces, and gives their number. -/
def spaces (tabs : Bool) : Scanner Nat := do
  let scan ← get
  let n := (scan.rest.takeWhile fun c => c = ' ' || (tabs && c = '\t')).length
  if 0 < n then emit .space n
  return n

/-- Adds the line end that is here, and tells whether there is one. -/
def lineEnd : Scanner Bool := do
  let scan ← get
  match scan.rest with
  | '\n' :: _ => emit .newline 1; return true
  | '\x0d' :: '\n' :: _ => emit .newline 2; return true
  | _ => return false

/-- The indicator that a character is, if it starts a part of a block collection. -/
def blockIndicator? : Char → Option Token.Kind
  | '-' => some .dash
  | '?' => some .question
  | ':' => some .colon
  | _ => none

/-- Whether a character of the name of an anchor or alias. -/
def isNameChar (c : Char) : Bool := !isWhite c && !isFlowIndicator c

/-- Adds the anchors and indicators before a node. After an indicator outside of flow collections a
scalar has to be indented more than the line; tags are not read. -/
def indicators : Nat → Scanner Unit
  | 0 => return
  | fuel + 1 => do
    let scan ← get
    match scan.rest with
    | [] => return
    | c :: cs =>
      let inFlow := scan.depth ≠ 0
      if c = '!' then failure
      else if c = '&' then
        emit .anchor (scan.rest.takeWhile isNameChar).length
        let _ ← spaces true
        indicators fuel
      else
        match blockIndicator? c with
        | none => return
        | some kind =>
          if endsWord cs || (inFlow && cs.head?.any isFlowIndicator) then
            if inFlow then modify fun scan => { scan with keyEnded := false }
            else modify fun scan => { scan with least := scan.column + 1 }
            emit kind 1
            let _ ← spaces true
            indicators fuel

/-! ### Scalars -/

/-- The number of characters of a plain scalar: `seen` of them have been looked at, of which `kept`
belong to it whatever follows. -/
def plainLength (least : Nat) (inFlow : Bool) (kept seen : Nat) : List Char → Nat
  | [] => kept
  | c :: cs =>
    let flowNext := inFlow && cs.head?.any isFlowIndicator
    if c = ':' then
      if endsWord cs || flowNext then kept
      else plainLength least inFlow (seen + 1) (seen + 1) cs
    else if c = '\x0d' && cs.head? = some '\n' then plainLength least inFlow kept (seen + 1) cs
    else if isWhite c then
      let kept := if c = '\x0d' then seen + 1 else kept
      if cs.head? = some '#' || flowNext || (c = '\n' && !continues least cs) then kept
      else plainLength least inFlow kept (seen + 1) cs
    else if inFlow && isFlowIndicator c then kept
    else plainLength least inFlow (seen + 1) (seen + 1) cs

/-- Adds a plain scalar. In a flow collection it may have no characters. -/
def scanPlain : Scanner Unit := do
  let scan ← get
  emit .plain (plainLength scan.least (scan.depth ≠ 0) 0 0 scan.rest)

/-- The number of characters before the quote that ends a single-quoted scalar. -/
def singleEnd? : List Char → Option Nat
  | [] => none
  | '\'' :: '\'' :: cs => (singleEnd? cs).map (· + 2)
  | '\'' :: _ => some 0
  | _ :: cs => (singleEnd? cs).map (· + 1)

/-- The number of characters before the quote that ends a double-quoted scalar. -/
def doubleEnd? : List Char → Option Nat
  | [] => none
  | '\\' :: _ :: cs => (doubleEnd? cs).map (· + 2)
  | '"' :: _ => some 0
  | _ :: cs => (doubleEnd? cs).map (· + 1)

/-- The number of characters before the first line end, within the next `n`, after which a scalar
does not go on. -/
def dedent? (least : Nat) : Nat → List Char → Option Nat
  | 0, _ | _, [] => none
  | n + 1, c :: cs =>
    let ends :=
      (c = '\n' && !continues least cs) ||
        (c = '\x0d' && 0 < n && cs.head? = some '\n' && !continues least cs.tail)
    if ends then some 0 else (dedent? least n cs).map (· + 1)

/-- The number of characters of a quoted scalar with its first quote, `cs` being those after it. It
ends with the closing quote, or before a line that is not indented enough; without a closing quote
it takes the rest. -/
def quotedLength (least : Nat) (quote : Char) (cs : List Char) : Nat :=
  match if quote = '\'' then singleEnd? cs else doubleEnd? cs with
  | none => cs.length + 1
  | some n =>
    match dedent? least n cs with
    | some m => m + 1
    | none => n + 2

/-- Adds a quoted scalar. -/
def scanQuoted (quote : Char) (cs : List Char) : Scanner Unit := do
  let scan ← get
  emit (if quote = '\'' then .single else .double) (quotedLength scan.least quote cs)

/-- Cuts a text into its lines, each with its line feed. -/
def linesOf : List Char → List (List Char)
  | [] => []
  | c :: cs =>
    if c = '\n' then [c] :: linesOf cs
    else match linesOf cs with
      | [] => [[c]]
      | line :: lines => (c :: line) :: lines

/-- Whether a line holds nothing but spaces before its end. -/
def isEmptyLine (line : List Char) : Bool := (line.dropWhile (· = ' ')) ∈ [['\n'], ['\x0d', '\n']]

/-- The number of spaces that a line starts with. -/
def leadingSpaces (line : List Char) : Nat := (line.takeWhile (· = ' ')).length

/-- Leaves out the last lines of spaces, at most `most` of them in each, but not the first line. The
lines are given last one first. -/
def dropSpaceLines (most : Nat) : List (List Char) → List (List Char)
  | line :: before :: lines =>
    let ending := line.dropWhile (· = ' ')
    if ending ∈ [[], ['\n'], ['\x0d'], ['\x0d', '\n']] && leadingSpaces line ≤ most then
      dropSpaceLines most (before :: lines)
    else line :: before :: lines
  | lines => lines

/-- The characters of a block scalar after its header, and the least indentation of its lines. Empty
lines at the start belong to it, and then the lines that are indented enough; the indentation is
that of the first of them unless the header gives it. Blanks with a tab after it belong to it too,
so that they can be refused as lines that are indented too little. -/
def blockChars (header : BlockHeader) (least : Nat) (cs : List Char) : List Char × Nat :=
  let lines := linesOf cs
  let empty := lines.takeWhile isEmptyLine
  let lines := lines.drop empty.length
  let first := leadingSpaces (lines.headD [])
  let within := least ≤ first
  let inner :=
    match header.indentation with
    | none => first
    | some n => n - 1 + max 1 least
  let body := if within then lines.takeWhile (continues inner) else []
  let after := (lines.drop body.length).flatten
  let own := empty ++ body
  let kept :=
    if (after.dropWhile (· = ' ')).head? = some '\t' then own ++ [after.takeWhile isWhite]
    else if header.chomping = .keep then own
    else (dropSpaceLines first own.reverse).reverse
  (kept.flatten, if within then inner else least)

/-- Adds a block scalar with its header. On the line of the header only a comment may follow. -/
def scanBlock (folded : Bool) (cs : List Char) : Scanner Unit := do
  let scan ← get
  let mark := cs.takeWhile fun c => !isWhite c && c ≠ '#'
  let header ← BlockHeader.read? { folded } mark
  let cs := cs.drop mark.length
  let blanks := cs.takeWhile isInlineBlank
  let comment := lineOf (cs.drop blanks.length)
  if comment ≠ [] && (comment.head? ≠ some '#' || blanks.isEmpty) then failure
  let cs := cs.drop (blanks.length + comment.length)
  let cs := match cs with
    | '\x0d' :: '\n' :: cs | '\n' :: cs => cs
    | cs => cs
  let header := { header with comment := if comment.tail = [] then none else some comment.tail }
  let (text, least) := blockChars header scan.least cs
  let rest := cs.drop text.length
  emitFrom (.block header) text (scan.rest.take (scan.rest.length - rest.length)) rest
  modify fun scan => { scan with least }

/-! ### Places -/

/-- What the next characters can be. -/
inductive Place where
  /-- A line between documents. -/
  | between
  /-- A line of a document. -/
  | line
  /-- The indicators of block collections at the start of a line. -/
  | block
  /-- A node of a block collection or of the document. -/
  | node
  /-- A part of a flow collection. -/
  | flow

/-- Whether a directive can be read: the one for the version takes a number with a point, the one
for tags takes a handle and a prefix, and any other is without effect. -/
def isDirective (text : List Char) : Bool :=
  let words := (text.splitBy fun a b => isInlineBlank a == isInlineBlank b).filter fun w =>
    !w.head?.any isInlineBlank
  match words with
  | name :: arguments =>
    if name = "%TAG".toList then arguments.length = 2
    else if name = "%YAML".toList then
      match arguments with
      | [version] =>
        match Text.cut '.' version with
        | [major, minor] =>
          major ≠ [] && minor ≠ [] && major.all Char.isDigit && minor.all Char.isDigit
        | _ => false
      | _ => false
    else true
  | [] => false

/-- The characters of a directive line before its comment. -/
def directiveText (blank : Bool) : List Char → List Char
  | [] => []
  | c :: cs => if blank && c = '#' then [] else c :: directiveText (isInlineBlank c) cs

/-- Adds a line between documents, or the mark that a document begins. -/
def scanBetween : Scanner Place := do
  let scan ← get
  if scan.rest.head? = some '\ufeff' then emit .byteOrderMark 1
  let scan ← get
  let line := lineOf scan.rest
  if line.head? = some '%' then
    if !isDirective (directiveText false line) then failure
    emit .directive line.length
    return .between
  let blanks := (line.takeWhile isInlineBlank).length
  match line.drop blanks with
  | [] | '#' :: _ =>
    let _ ← spaces true
    if blanks < line.length then emit .comment (line.length - blanks)
    let _ ← lineEnd
    return .between
  | _ =>
    emit .document 0
    return .line

/-- Adds a marker between documents, or the indentation of a line. -/
def scanLine : Scanner Place := do
  let scan ← get
  if isMarker scan.rest then
    let opens := scan.rest.head? = some '-'
    emit (if opens then .documentStart else .documentEnd) 3
    modify fun scan => { scan with column := 0, least := 0 }
    return if opens then .node else .between
  let n ← spaces false
  modify fun scan =>
    { scan with
      column := n
      least := if endsWord (scan.rest.drop 1) then scan.least else min n scan.least }
  return .block

/-- Adds an indicator of a block collection at the start of a line. -/
def scanIndicator : Scanner Place := do
  let scan ← get
  match scan.rest with
  | c :: cs =>
    match blockIndicator? c with
    | some kind =>
      if endsWord cs then
        emit kind 1
        let n ← spaces true
        modify fun scan => { scan with least := scan.column + 1, column := scan.column + 1 + n }
        return .block
      else return .node
    | none => return .node
  | [] => return .node

/-- Adds a node of a block collection, the start of a flow collection, or a line end. -/
def scanNode : Scanner Place := do
  let _ ← spaces true
  indicators (← get).rest.length
  let scan ← get
  let line := lineOf scan.rest
  match line with
  | [] =>
    let _ ← lineEnd
    return .line
  | '#' :: _ =>
    emit .comment line.length
    let _ ← lineEnd
    return .line
  | c :: cs =>
    if c = '[' || c = '\x7b' then
      emit (if c = '[' then .openSeq else .openMap) 1
      modify fun scan => { scan with depth := 1, keyEnded := false }
      return .flow
    else if c = ']' || c = '\x7d' then failure
    else if c = '*' then
      emit .alias (c :: cs.takeWhile isNameChar).length
      return .node
    else if c = '\'' || c = '"' then
      scanQuoted c scan.rest.tail
      return .node
    else if c = '|' || c = '>' then
      scanBlock (c = '>') scan.rest.tail
      return .line
    else
      scanPlain
      return .node

/-- Adds blanks and line ends, and gives the indentation of the last line if there is a line end. -/
def scanGap (indent? : Option Nat) : Nat → Scanner (Option Nat)
  | 0 => return indent?
  | fuel + 1 => do
    if ← lineEnd then
      let n ← spaces false
      modify fun scan => { scan with column := n }
      let _ ← spaces true
      scanGap (some n) fuel
    else if 0 < (← spaces true) then scanGap indent? fuel
    else return indent?

/-- Adds the commas that are here. -/
def scanCommas : Nat → Scanner Unit
  | 0 => return
  | fuel + 1 => do
    if (← get).rest.head? = some ',' then
      emit .comma 1
      let _ ← spaces true
      modify fun scan => { scan with keyEnded := false }
      scanCommas fuel

/-- Whether a line within a flow collection is not indented enough. The closing bracket of the
outermost collection may stand one column further to the left. -/
def Scan.isDedented (scan : Scan) (indent : Nat) : Bool :=
  let closes := indent + 1 = scan.least && scan.depth = 1 &&
    scan.rest.head?.any fun c => c = ']' || c = '\x7d'
  (indent < scan.least && (lineOf scan.rest).head? ≠ some '#' && !closes) ||
    (indent = 0 && isMarker scan.rest)

/-- Adds a part of a flow collection. -/
def scanFlow : Scanner Place := do
  let indent? ← scanGap none ((← get).rest.length + 1)
  let scan ← get
  if indent?.any scan.isDedented then failure
  scanCommas scan.rest.length
  indicators (← get).rest.length
  let scan ← get
  let line := lineOf scan.rest
  match line with
  | [] => return .flow
  | '#' :: _ =>
    emit .comment line.length
    return .flow
  | c :: cs =>
    if c = '[' || c = '\x7b' then
      emit (if c = '[' then .openSeq else .openMap) 1
      modify fun scan => { scan with depth := scan.depth + 1, keyEnded := false }
      return .flow
    else if c = ']' || c = '\x7d' then
      emit (if c = ']' then .closeSeq else .closeMap) 1
      modify fun scan => { scan with depth := scan.depth - 1, keyEnded := true }
      return if scan.depth = 1 then .node else .flow
    else if c = '*' then
      emit .alias (c :: cs.takeWhile isNameChar).length
      return .flow
    else if c = '\'' || c = '"' then
      scanQuoted c scan.rest.tail
      modify fun scan => { scan with keyEnded := true }
      return .flow
    else if c = ':' && (scan.keyEnded || endsWord cs || cs.head? = some ',') then
      emit .colon 1
      let _ ← spaces true
      modify fun scan => { scan with keyEnded := false }
      return .flow
    else
      modify fun scan => { scan with keyEnded := false }
      scanPlain
      return .flow

/-- Adds what is at a place. -/
def Place.scan : Place → Scanner Place
  | between => scanBetween
  | line => scanLine
  | block => scanIndicator
  | node => scanNode
  | flow => scanFlow

/-- Adds what is left of a text. -/
def scanRest (place : Place) : Nat → Scanner Unit
  | 0 => failure
  | fuel + 1 => do
    if (← get).rest.isEmpty then return
    scanRest (← place.scan) fuel

/-- The tokens of a text. Of five steps in a row at least one takes a character, so five times the
length of the text bounds their number. -/
def tokens? (cs : List Char) : Option (List Token) :=
  ((scanRest .between (5 * cs.length + 1)).run { rest := cs }).map fun r => r.2.tokens.reverse

example : (tokens? "a: [b, 'c d']\n".toList).map (·.map (·.kind)) =
    some [.document, .plain, .colon, .space, .openSeq, .plain, .comma, .space, .single, .closeSeq,
      .newline] := by decide +kernel
example : (tokens? "- |\n  x\n y\n".toList).map (·.map (·.text)) =
    some [[], ['-'], [' '], "  x\n".toList, [' '], ['y'], ['\n']] := by decide +kernel

end Yaml

end OAuthClient
