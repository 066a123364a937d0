import OAuthClient.Yaml.Node.Value
import OAuthClient.Yaml.Token.Scan
import OAuthClient.Yaml.Tree.Growth

/-!
# Reading YAML

A text is read in four steps: its tokens, their layout as a tree, the nodes of the tree, and their
value. It holds at most one document.

## Main declarations

* `Yaml.node?`: the node of the document that a text holds.
* `Yaml.read`: the value of that document.
-/

namespace OAuthClient

namespace Yaml

/-- The node of the document that a text holds, if it holds one. -/
def node? (s : String) : Option Node := do
  let tokens ← tokens? s.toList
  let document ← Tree.Document.ofTokens? tokens
  Node.ofDocument? document

/-- The value of the document that a text holds. -/
def read (s : String) : Except Error Value :=
  match node? s with
  | none => .error .malformed
  | some node => (node.resolve.run []).map (·.1.1)

example : (read "a:\n- 1\n- &x [b, c: d]\ne: *x").toOption =
    some (.map [("a", .list [.num (.ofNat 1), .list [.text "b", .map [("c", .text "d")]]]),
      ("e", .list [.text "b", .map [("c", .text "d")]])]) := by decide +kernel
example : read "a: b: c" matches .error .malformed := by decide +kernel
example : read "a: *x" matches .error (.unresolvedAlias "x") := by decide +kernel

end Yaml

end OAuthClient
