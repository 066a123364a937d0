import OAuthClient.Binding.Issue
import OAuthClient.PropertySource
import OAuthClient.Yaml

/-!
# Loading property sources

A file of properties is a YAML document whose value is a map. A document without a value has no
properties.

## Main declarations

* `PropertySource.LoadError`: why a file has no properties to offer.
* `PropertySource.load`: the properties of a file.
-/

namespace OAuthClient

namespace PropertySource

/-- Why a file has no properties to offer. -/
inductive LoadError where
  /-- There is no such file. -/
  | noFile
  /-- Its text cannot be read. -/
  | text (error : Yaml.Error)
  /-- Its value is no map. -/
  | notMap (issue : Issue)

/-- The properties of a value. -/
def ofValue : Value → Except Issue PropertySource
  | .null => .ok {}
  | .map es => .ok ⟨es⟩
  | value => .error (.wrongKind [] .object value.kind)

/-- The properties of a file with some text, or of a file that is not there. -/
def load : Option String → Except LoadError PropertySource
  | none => .error .noFile
  | some text => do
    let value ← (Yaml.read text).mapError .text
    (ofValue value).mapError .notMap

example : load (some "a: {b: 1}\n") matches .ok ⟨[("a", .map [("b", .num _)])]⟩ := by decide +kernel
example : load (some "- a") matches .error (.notMap (.wrongKind [] .object .array)) := by
  decide +kernel

end PropertySource

end OAuthClient
