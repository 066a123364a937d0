import OAuthClient.Number.Decimal
import OAuthClient.Text.Digits
import OAuthClient.Text.Segments
import OAuthClient.Text.Units
import OAuthClient.Value

/-!
# Scalars of YAML

What the characters of a scalar mean: line folding, escapes, block scalars, and the values that
plain scalars stand for in the core schema. A line ends with a line feed, before which a carriage
return does not count.

## Main declarations

* `Yaml.plainValue`: the value of a plain scalar.
* `Yaml.foldLines`: the characters of a scalar over several lines as one line.
* `Yaml.plainText?`, `Yaml.singleText?`, `Yaml.doubleText?`: the texts of flow scalars.
* `Yaml.BlockHeader`, `Yaml.blockText?`: the text of a block scalar.
-/

namespace OAuthClient

namespace Yaml

/-- Blanks within a line. -/
def isInlineBlank (c : Char) : Bool := c = ' ' || c = '\t'

/-! ### Plain scalars -/

/-- Whether the characters are hexadecimal digits. -/
def isHexDigit (c : Char) : Bool := (Text.hexValue? c).isSome

/-- The number that digits of a base write. -/
def baseNumber (base : Nat) (cs : List Char) : Nat :=
  cs.foldl (fun n c => base * n + (Text.hexValue? c).getD 0) 0

/-- The value of a plain scalar: a null, truth value or number of the core schema, else its text. -/
def plainValue (cs : List Char) : Value :=
  let s := String.ofList cs
  if s ∈ ["", "~", "null", "Null", "NULL"] then .null
  else if s ∈ ["true", "True", "TRUE"] then .bool true
  else if s ∈ ["false", "False", "FALSE"] then .bool false
  else if s ∈ [".nan", ".NaN", ".NAN"] then .num .nan
  else if s ∈ [".inf", ".Inf", ".INF", "+.inf", "+.Inf", "+.INF"] then .num (.infinite false)
  else if s ∈ ["-.inf", "-.Inf", "-.INF"] then .num (.infinite true)
  else match cs with
    | '0' :: 'o' :: d :: ds =>
      if (d :: ds).all fun c => '0' ≤ c ∧ c ≤ '7' then .num (.ofNat (baseNumber 8 (d :: ds)))
      else .text s
    | '0' :: 'x' :: d :: ds =>
      if (d :: ds).all isHexDigit then .num (.ofNat (baseNumber 16 (d :: ds))) else .text s
    | _ =>
      match Number.ofText? cs with
      | some n => .num n
      | none => .text s

/-! ### Line folding -/

/-- Leaves out the carriage returns before line feeds. -/
def lineFeeds : List Char → List Char
  | '\x0d' :: '\n' :: cs => '\n' :: lineFeeds cs
  | c :: cs => c :: lineFeeds cs
  | [] => []

/-- Leaves out leading blanks. -/
def trimLeft (cs : List Char) : List Char := cs.dropWhile isInlineBlank

/-- Leaves out trailing blanks. -/
def trimRight (cs : List Char) : List Char := (cs.reverse.dropWhile isInlineBlank).reverse

/-- Appends the lines after the first one. `breaks` counts the empty lines since the last text:
none of them makes a space of the line end, each one is a line end of its own. -/
def foldRest (breaks : Nat) : List (List Char) → List Char
  | [] => []
  | [last] => separator breaks ++ trimLeft last
  | line :: lines =>
    match trimRight (trimLeft line) with
    | [] => foldRest (breaks + 1) lines
    | text => separator breaks ++ text ++ foldRest 0 lines
where
  separator : Nat → List Char
    | 0 => [' ']
    | n => List.replicate n '\n'

/-- The characters of a scalar over several lines as one line: a line end with the blanks around
it is a space, and empty lines are line ends. -/
def foldLines (cs : List Char) : List Char :=
  match Text.cut '\n' (lineFeeds cs) with
  | first :: second :: rest => trimRight first ++ foldRest 0 (second :: rest)
  | _ => cs

/-- The text of a plain scalar. It does not start with an indicator of something else. -/
def plainText? (cs : List Char) : Option (List Char) :=
  if cs.head?.any (· ∈ ['\t', ',', '%', '|', '>', '@', '\x60']) then none else some (foldLines cs)

/-! ### Quoted scalars -/

/-- In a single-quoted scalar two quotes stand for one. -/
def singleQuotes : List Char → List Char
  | '\'' :: '\'' :: cs => '\'' :: singleQuotes cs
  | c :: cs => c :: singleQuotes cs
  | [] => []

/-- The character that a one-letter escape stands for. -/
def escaped? : Char → Option Char
  | '0' => some '\x00'
  | 'a' => some '\x07'
  | 'b' => some '\x08'
  | 'e' => some '\x1b'
  | 'f' => some '\x0c'
  | 'n' => some '\n'
  | 'r' => some '\x0d'
  | 't' => some '\t'
  | 'v' => some '\x0b'
  | 'N' => some '\u0085'
  | '_' => some '\u00a0'
  | 'L' => some '\u2028'
  | 'P' => some '\u2029'
  | ' ' => some ' '
  | '"' => some '"'
  | '/' => some '/'
  | '\\' => some '\\'
  | '\t' => some '\t'
  | _ => none

/-- What lies between the last character of a double-quoted scalar and the next one. -/
inductive Between where
  /-- Blanks, in reverse, that count unless the line ends after them. -/
  | blanks (reversed : List Char)
  /-- A line end and the number of empty lines after it. -/
  | fold (breaks : Nat)
  /-- An escaped line end, which leaves nothing. -/
  | joined

/-- The characters that lie between. -/
def Between.chars : Between → List Char
  | blanks reversed => reversed.reverse
  | fold breaks => foldRest.separator breaks
  | joined => []

/-- The number of hexadecimal digits after an escape by code point. -/
def codeDigits? : Char → Option Nat
  | 'x' => some 2
  | 'u' => some 4
  | 'U' => some 8
  | _ => none

/-- The code points and surrogates of a double-quoted scalar. `skip` characters belong to the escape
before. A backslash at the end takes the closing quote. -/
def unescapeUnits (between : Between) (skip : Nat) : List Char → Option (List Nat)
  | [] => some (between.chars.map Char.toNat)
  | c :: cs =>
    match skip with
    | skip + 1 => unescapeUnits between skip cs
    | 0 =>
      if isInlineBlank c then
        match between with
        | .blanks reversed => unescapeUnits (.blanks (c :: reversed)) 0 cs
        | _ => unescapeUnits between 0 cs
      else if c = '\n' then
        match between with
        | .fold breaks => unescapeUnits (.fold (breaks + 1)) 0 cs
        | _ => unescapeUnits (.fold 0) 0 cs
      else
        let before := between.chars.map Char.toNat
        if c ≠ '\\' then
          (unescapeUnits (.blanks []) 0 cs).map fun us => before ++ c.toNat :: us
        else match cs with
          | [] => some (before ++ ['"'.toNat])
          | '\n' :: _ => (unescapeUnits .joined 1 cs).map (before ++ ·)
          | e :: ds =>
            match codeDigits? e with
            | some n =>
              if ds.length < n then none
              else match Text.hexNumber? (ds.take n) with
                | some code =>
                  if code < 0x110000 then
                    (unescapeUnits (.blanks []) (n + 1) cs).map fun us => before ++ code :: us
                  else none
                | none => none
            | none =>
              match escaped? e with
              | some x => (unescapeUnits (.blanks []) 1 cs).map fun us => before ++ x.toNat :: us
              | none => none

/-- The characters of a double-quoted scalar, if all its escapes are known. -/
def unescape? (cs : List Char) : Option (List Char) :=
  (unescapeUnits (.blanks []) 0 (lineFeeds cs)).map Text.charsOfUnits

/-- What lies between the quotes of a scalar, if the last character is a quote. -/
def unquoted? (quote : Char) : List Char → Option (List Char)
  | [] => none
  | _ :: cs => if cs.getLast? = some quote then some cs.dropLast else none

/-- The text of a single-quoted scalar. -/
def singleText? (cs : List Char) : Option (List Char) :=
  (unquoted? '\'' cs).map fun cs => singleQuotes (foldLines cs)

/-- The text of a double-quoted scalar. -/
def doubleText? (cs : List Char) : Option (List Char) := (unquoted? '"' cs).bind unescape?

/-! ### Block scalars -/

/-- What becomes of the line ends after the text of a block scalar. -/
inductive Chomping where
  | clip | strip | keep
  deriving DecidableEq, Repr

/-- The header of a block scalar: folded or literal, the indentation if it is given, the chomping,
and the comment if it has characters. -/
structure BlockHeader where
  folded : Bool
  indentation : Option Nat := none
  chomping : Chomping := .clip
  comment : Option (List Char) := none
  deriving DecidableEq, Repr

/-- Reads the characters of a header after its first one and before blanks and a comment, at most
one of each kind. -/
def BlockHeader.read? (h : BlockHeader) : List Char → Option BlockHeader
  | [] => some h
  | c :: cs =>
    if (c = '-' || c = '+') && h.chomping = .clip then
      read? { h with chomping := if c = '-' then .strip else .keep } cs
    else if c.isDigit && c ≠ '0' && h.indentation.isNone then
      read? { h with indentation := some (c.toNat - '0'.toNat) } cs
    else none

/-- A line of a block scalar without the indentation; `deeper` tells that it is indented more than
the scalar. -/
structure BlockLine where
  text : List Char
  deeper : Bool

/-- Joins the lines of a folded scalar. `pending` is what separates the next line: nothing at first,
a space after text, line ends otherwise. -/
def foldBlock (pending : List Char) (afterDeeper : Bool) : List BlockLine → List Char
  | [] => []
  | line :: lines =>
    if line.deeper then
      let before :=
        if pending = [' '] then ['\n']
        else if !afterDeeper && pending = ['\n'] then ['\n', '\n'] else pending
      before ++ line.text ++ foldBlock ['\n'] true lines
    else if line.text.isEmpty then
      if pending = ['\n'] then '\n' :: foldBlock pending afterDeeper lines
      else foldBlock ['\n'] afterDeeper lines
    else pending ++ line.text ++ foldBlock [' '] false lines

/-- Joins the lines of a literal scalar. -/
def literalBlock (lines : List BlockLine) : List Char :=
  Text.joinWith '\n' (lines.map (·.text))

/-- Splits a line into the number of leading spaces and the rest. -/
def splitIndent (line : List Char) : Nat × List Char :=
  ((line.takeWhile (· = ' ')).length, line.dropWhile (· = ' '))

/-- Leaves out a carriage return at the end of a line. -/
def dropReturn (line : List Char) : List Char :=
  if line.getLast? = some '\x0d' then line.dropLast else line

/-- The text of a block scalar from its characters after the header. `base` is the indentation of
the collection around it, from which an explicit one counts. It fails if a line is indented less
than the first one, if that is indented less than the collection or than empty lines before it, or
if it is not indented at all in a collection. -/
def blockText? (header : BlockHeader) (base : Nat) (atRoot : Bool) (cs : List Char) :
    Option (List Char) :=
  let lines := if cs.isEmpty then [] else (Text.cut '\n' cs).map fun l => splitIndent (dropReturn l)
  let isEmpty (l : Nat × List Char) : Bool := l.2.isEmpty
  let trailing := (lines.reverse.takeWhile isEmpty).length
  let body := lines.take (lines.length - trailing)
  match body.dropWhile isEmpty with
  | [] =>
    let kept := if header.chomping = .keep ∧ lines ≠ [] then max 1 (lines.length - 1) else 0
    some (List.replicate kept '\n')
  | first :: others =>
    let leading := body.takeWhile isEmpty
    let least := match header.indentation with
      | some n => base + n
      | none => leading.foldl (fun n l => max n l.1) base
    let indentation := if header.indentation.isSome then least else first.1
    if first.1 < least || (indentation = 0 && !atRoot) then none
    else
      let cut (l : Nat × List Char) : BlockLine :=
        { text := List.replicate (l.1 - indentation) ' ' ++ l.2
          deeper := indentation < l.1 || l.2.head? = some '\t' }
      let tail := lines.drop body.length
      -- more deeply indented empty lines at the end belong to the text
      let kept := (tail.reverse.dropWhile fun l => l.1 ≤ indentation).length
      let inner := first :: others ++ tail.take kept
      if inner.any fun l => l.1 < indentation && !isEmpty l then none
      else
        let inner := inner.map cut
        let start := leading.flatMap fun l => List.replicate (l.1 - indentation) ' ' ++ ['\n']
        let text := start ++ if header.folded then foldBlock [] false inner else literalBlock inner
        some <| match header.chomping with
          | .strip => text
          | .clip => text ++ ['\n']
          | .keep =>
            let ends := (tail.drop kept).flatMap fun l =>
              '\n' :: List.replicate (l.1 - indentation) ' '
            let all := text ++ ends
            if all.getLast? = some '\n' then all else all ++ ['\n']

example : plainValue "0o17".toList = .num (.ofNat 15) ∧ plainValue "1_000".toList = .text "1_000" ∧
    plainValue "-.Inf".toList = .num (.infinite true) := by decide +kernel
example : foldLines "a \n b\n\n\n c".toList = "a b\n\nc".toList := by decide +kernel
example : unescape? "a\\x41\\\n  b \n\n c\\ud83d\\ude00".toList = some "aAb\nc😀".toList := by
  decide +kernel
example : singleText? "'it''s'".toList = some "it's".toList ∧
    doubleText? "\"a\\\"".toList = some "a\"".toList ∧ doubleText? "\"".toList = none := by
  decide +kernel
example : blockText? { folded := true } 0 true "  a\x0d\n  b\n\n  c\n".toList =
    some "a b\nc\n".toList := by decide +kernel

end Yaml

end OAuthClient
