import OAuthClient.Text.Units

/-!
# Folding long lines

A text that is written into an indented place is folded where its lines get long. A line ends at a
single blank between words; a quoted text may also be cut within a word, which a backslash marks.
Positions and widths count units of 16 bits.

## Main declarations

* `Yaml.Folding`: how a text is folded.
* `Yaml.Folding.apply`: the folded text.
-/

namespace OAuthClient

namespace Yaml

/-- How a text is folded. -/
structure Folding where
  /-- The indentation of the lines after the first one. -/
  indent : Nat
  /-- Whether words may be cut. -/
  cuts : Bool
  /-- What stands before the text on its first line, if that is known. -/
  first : Option Nat := none

namespace Folding

/-- The width of a line. -/
def width : Nat := 80

/-- The width that a line has at least after its indentation. -/
def minWidth : Nat := 20

/-- The number of units from one fold to the next one. -/
def step (folding : Folding) : Nat := max (1 + minWidth) (1 + width - folding.indent)

/-- What takes one unit: a character, or the first or the second half of one beyond the first 2¹⁶;
the second half is empty. -/
abbrev Cell := List Char

/-- The cells of a text. -/
def cells (text : List Char) : Array Cell :=
  (text.flatMap fun c => if c.toNat < 0x10000 then [[c]] else [[c], []]).toArray

/-- What is known at a position. -/
structure Search where
  /-- The folds so far, the last one first, and whether each of them cuts a word. -/
  folds : List (Nat × Bool) := []
  /-- Where the line is too long. -/
  limit : Int
  /-- The last blank at which the line may end. -/
  blank : Option Nat := none
  previous : Option Cell := none
  /-- Where the last escape starts, and where it ends. -/
  escape : Option (Nat × Nat) := none

/-- Blanks and line feeds, beside which a line is not folded. -/
def isGap (c : Cell) : Bool := c = [' '] || c = ['\n'] || c = ['\t']

/-- The number of units after the backslash of an escape. -/
def escapeLength : Option Cell → Nat
  | some ['x'] => 3
  | some ['u'] => 5
  | some ['U'] => 9
  | _ => 1

/-- Passes the blanks before a cut. -/
def passBlanks (units : Array Cell) : Nat → Nat → Option Cell → Option Cell →
    Nat × Option Cell
  | 0, i, _, c => (i, c)
  | fuel + 1, i, previous, c =>
    if previous = some [' '] || previous = some ['\t'] then
      passBlanks units fuel (i + 1) c units[i + 1]?
    else (i, c)

/-- The folds of a text from a position on; none if two cuts would fall together. -/
def search (folding : Folding) (units : Array Cell) :
    Nat → Nat → Search → Option (List (Nat × Bool))
  | 0, _, s => some s.folds.reverse
  | fuel + 1, i, s =>
    match units[i]? with
    | none => some s.folds.reverse
    | some c =>
      let escapes := folding.cuts && c = ['\\']
      let stop := if escapes then i + escapeLength units[i + 1]? else i
      let s := if escapes then { s with escape := some (i, stop) } else s
      let i := stop
      if c = ['\n'] then
        let limit : Int := i + folding.indent + folding.step
        search folding units fuel (i + 1) { s with limit, blank := none, previous := some c }
      else
        let single := c = [' '] && s.previous.any (!isGap ·) && units[i + 1]?.any (!isGap ·)
        let s := if single then { s with blank := some i } else s
        if (i : Int) < s.limit then search folding units fuel (i + 1) { s with previous := some c }
        else match s.blank with
          | some b =>
            let limit : Int := b + folding.step
            search folding units fuel (i + 1)
              { s with folds := (b, false) :: s.folds, limit, blank := none, previous := some c }
          | none =>
            if !folding.cuts then search folding units fuel (i + 1) { s with previous := some c }
            else
              let (i, c) := passBlanks units units.size i s.previous (some c)
              let cut := match s.escape with
                | some (start, stop) => if stop + 1 < i then i - 2 else start - 1
                | none => i - 2
              if s.folds.contains (cut, true) then none
              else
                let limit : Int := cut + folding.step
                search folding units fuel (i + 1)
                  { s with folds := (cut, true) :: s.folds, limit, blank := none, previous := c }

/-- Puts line ends at the folds. A fold at the start leaves the first line empty; the blank at a
fold is left out, and a word that is cut goes on after a backslash. -/
def insertBreaks (folding : Folding) (units : Array Cell) (start : Nat) :
    List (Nat × Bool) → List Char
  | [] => (units.extract start units.size).toList.flatten
  | (fold, cut) :: folds =>
    let line := (units.extract start fold).toList.flatten
    let mark := if cut then (units.extract fold (fold + 1)).toList.flatten ++ ['\\'] else []
    let next := if fold = 0 then 0 else fold + 1
    line ++ mark ++ '\n' :: List.replicate folding.indent ' ' ++
      insertBreaks folding units next folds

/-- The folded text. -/
def apply (folding : Folding) (text : List Char) : List Char :=
  let units := cells text
  if units.size ≤ folding.step then text
  else
    let late := folding.first.any (width - minWidth < ·)
    let taken := if late then folding.indent else folding.first.getD folding.indent
    let limit : Int := (width : Int) - taken
    let folds := if late then [(0, false)] else []
    match search folding units (units.size + 1) 0 { folds, limit } with
    | some folds => insertBreaks folding units 0 folds
    | none => text

end Folding

end Yaml

end OAuthClient
