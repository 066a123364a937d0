import OAuthClient.Value

/-!
# Environment variables in values

A text of the whole form `${NAME}` stands for the environment variable `NAME` where it is set,
even if it is set to the empty text. The variables are members of an object, and every object
inherits some members: the name of one of these stands for it unless a variable of this name is set.
All other values, and texts that name neither, stand for themselves; what a text stands for is not
looked at again.

## Main declarations

* `Environment`: the variables that are set; `Environment.get?` is what one of them holds.
* `Environment.inherited?`: the members that are inherited.
* `Environment.reference?`: the name in a text of the form `${NAME}`.
* `Environment.expand`: the value that a value stands for.
* `Environment.expandItems`: the same, for a list item by item.
-/

namespace OAuthClient

/-- The environment variables that are set, each with its value. Of two settings of one variable the
later holds. A name or value ends before its first NUL; a name without characters or with an equals
sign sets nothing. -/
structure Environment where
  settings : List (String × String) := []

namespace Environment

/-! ### Members -/

/-- The characters of a name or value that count. -/
def counted (s : String) : List Char := s.toList.takeWhile (· ≠ '\x00')

/-- The value under a name. The environment consists of texts with a variable, an equals sign and a
value; what is looked for is a name with an equals sign at the start of such a text, so that a name
may go on with an equals sign and a part of the value. -/
def get? (env : Environment) (name : String) : Option String :=
  let start := (counted name).takeWhile (· ≠ '=')
  let inner := (counted name).dropWhile (· ≠ '=')
  if start = [] then none
  else
    (env.settings.reverse.find? fun s => counted s.1 = start).bind fun s =>
      ((inner ++ ['=']).isPrefixOf? ('=' :: counted s.2)).map String.ofList

/-- The functions that every object inherits, by name. -/
def inheritedFunctions : List String :=
  ["constructor", "hasOwnProperty", "isPrototypeOf", "propertyIsEnumerable", "toLocaleString",
   "toString", "valueOf", "__defineGetter__", "__defineSetter__", "__lookupGetter__",
   "__lookupSetter__"]

/-- What is inherited under a name: a function, or the prototype itself, which is an object without
entries of its own. -/
def inherited? (name : String) : Option Value :=
  if name = "__proto__" then some (.map [])
  else if name ∈ inheritedFunctions then some (.function name)
  else none

/-- What there is under a name: the variable if it is set, else what is inherited. -/
def member? (env : Environment) (name : String) : Option Value :=
  ((env.get? name).map .text).or (inherited? name)

/-! ### References -/

/-- The name in a text of the form `${NAME}`. -/
def reference? (s : String) : Option String :=
  match s.toList with
  | '$' :: '\x7b' :: rest =>
    match rest.reverse with
    | '\x7d' :: name => some (String.ofList name.reverse)
    | _ => none
  | _ => none

/-- The value that a value stands for. -/
def expand (env : Environment) : Value → Value
  | .text s => ((reference? s).bind env.member?).getD (.text s)
  | v => v

/-- The value that a property stands for: that of each item for a list. -/
def expandItems (env : Environment) : Value → Value
  | .list items => .list (items.map env.expand)
  | v => env.expand v

@[simp] theorem get?_empty (name : String) : get? ⟨[]⟩ name = none := by
  simp [get?]

example : reference? "$\x7bA\x7d\x7d" = some "A\x7d" ∧ reference? "$\x7b" = none ∧
    reference? "$\x7b\x7d" = some "" := by decide +kernel

example : get? ⟨[("A", "b=c\x00d")]⟩ "A" = some "b=c" ∧ get? ⟨[("A", "b=c")]⟩ "A=b" = some "c" ∧
    get? ⟨[("A", "b"), ("A", "c")]⟩ "A" = some "c" ∧ get? ⟨[("", "b")]⟩ "" = none := by
  decide +kernel

example : member? ⟨[]⟩ "toString" = some (.function "toString") ∧
    member? ⟨[("toString", "a")]⟩ "toString" = some (.text "a") := by decide +kernel

end Environment

end OAuthClient
