import OAuthClient.Binding.Issue
import OAuthClient.Environment
import OAuthClient.Number.Decimal
import OAuthClient.PropertySource
import OAuthClient.Registration.Properties
import OAuthClient.Text.Blank
import OAuthClient.Text.Lowercase

/-!
# Binding client registrations

The map below a prefix of a property source is read as client registrations. Property names may be
in kebab case, environment variables stand for their values, and every field has a type of its
own.

## Main declarations

* `Binding.camelCase`: `client-id` as `clientId`.
* `Binding.normalize`: the properties of a registration under their field names, environment
  variables replaced.
* `Binding.textField`, `Binding.choiceField`, `Binding.scopeField`: the three types of fields.
* `Binding.registration`, `Binding.registrations`: reads one registration, and all below a prefix.
-/

namespace OAuthClient

namespace Binding

/-- Where client registrations live unless another prefix is given. -/
def defaultPrefix : String := "oauth2.client.registrations"

/-! ### Field names -/

/-- Joins words: a hyphen and the small letter after it become the capital letter. -/
def camelChars : List Char → List Char
  | '-' :: c :: cs =>
    if 'a' ≤ c ∧ c ≤ 'z' then c.toUpper :: camelChars cs else '-' :: camelChars (c :: cs)
  | c :: cs => c :: camelChars cs
  | [] => []

/-- The field name that a property name stands for. -/
def camelCase (name : String) : String := String.ofList (camelChars name.toList)

/-- The properties under their field names, environment variables replaced. A property without a
value is absent; of two properties for one field the later holds. -/
def normalize (env : Environment) (properties : Entries Value) : Entries Value :=
  (properties.filter (·.2 ≠ .null)).foldl
    (fun fields p => fields.set (camelCase p.1) (env.expandItems p.2)) []

/-! ### Types of fields -/

/-- The text of a scalar: a text itself, or the text of a number. -/
def scalarText? : Value → Option String
  | .text s => some s
  | .num .nan => none
  | .num n => some n.toText
  | _ => none

/-- Reads a text or a number as text. -/
def scalarText (path : List PathStep) (v : Value) : Checked String :=
  match scalarText? v with
  | some s => .ok s
  | none => .error [.noAlternative path
      [[.wrongKind path .string v.kind], [.wrongKind path .number v.kind]]]

/-- A field that holds text, which may be written as a number. -/
def textField (fields : Entries Value) (name : String) : Checked (Option String) :=
  match fields.get? name with
  | none => .ok none
  | some v => (scalarText [.field name] v).map some

/-- The form in which choices are compared: trimmed, in lower case, with underscores. -/
def choiceName (s : String) : String :=
  String.ofList ((Text.lowercase (Text.trim s)).toList.map fun c => if c = '-' then '_' else c)

/-- A field that holds the name of a choice. -/
def choiceField (fields : Entries Value) (name : String) : Checked (Option String) :=
  match fields.get? name with
  | none => .ok none
  | some (.text s) => .ok (some (choiceName s))
  | some v => .error [.wrongKind [.field name] .string v.kind]

/-- The scopes in a list of texts: trimmed, without the empty ones. -/
def scopesOf (texts : List String) : List String :=
  (texts.map Text.trim).filter (!·.isEmpty)

/-- A field that holds scopes: a text with commas between them, or a list of texts and numbers. -/
def scopeField (fields : Entries Value) (name : String) : Checked (Option (List String)) :=
  let path := [PathStep.field name]
  match fields.get? name with
  | none => .ok none
  | some (.text s) => .ok (some (scopesOf (Text.segments ',' s)))
  | some (.list items) =>
    match Checked.each (fun i v => scalarText (path ++ [.item i]) v) 0 items with
    | .ok texts => .ok (some (scopesOf texts))
    | .error issues =>
      .error [.noAlternative path [[.wrongKind path .string .array], issues]]
  | some v =>
    .error [.noAlternative path [[.wrongKind path .string v.kind], [.wrongKind path .array v.kind]]]

/-! ### Registrations -/

/-- Reads the fields of a registration, collecting the issues field by field. -/
def fields (fs : Entries Value) : Checked RegistrationProperties :=
  let start : Checked (Option String → Option String → Option String → Option String →
      Option String → Option String → Option (List String) → Option String → Option String →
      Option String → Option String → Option String → Option String → RegistrationProperties) :=
    .ok fun clientId clientSecret templateId clientAuthenticationMethod authorizationGrantType
        redirectUri scope authorizationUri tokenUri userInfoUri jwkSetUri clientName clientAlias =>
      { clientId, clientSecret, templateId, clientAuthenticationMethod, authorizationGrantType,
        redirectUri, scope, authorizationUri, tokenUri, userInfoUri, jwkSetUri, clientName,
        clientAlias }
  start
    |> (Checked.ap · (textField fs "clientId"))
    |> (Checked.ap · (textField fs "clientSecret"))
    |> (Checked.ap · (textField fs "templateId"))
    |> (Checked.ap · (choiceField fs "clientAuthenticationMethod"))
    |> (Checked.ap · (choiceField fs "authorizationGrantType"))
    |> (Checked.ap · (textField fs "redirectUri"))
    |> (Checked.ap · (scopeField fs "scope"))
    |> (Checked.ap · (textField fs "authorizationUri"))
    |> (Checked.ap · (textField fs "tokenUri"))
    |> (Checked.ap · (textField fs "userInfoUri"))
    |> (Checked.ap · (textField fs "jwkSetUri"))
    |> (Checked.ap · (textField fs "clientName"))
    |> (Checked.ap · (textField fs "clientAlias"))

/-- Reads one registration, which has to be a map. -/
def registration (env : Environment) : Value → Checked RegistrationProperties
  | .map properties => fields (normalize env properties)
  | v => .error [.wrongKind [] .object v.kind]

/-- A copy of the map below a prefix: none configured is the empty map, any other value is an
issue. -/
def mapBelow (source : PropertySource) (path : String) : Checked (Entries Value) :=
  match source.get? path with
  | none | some .null => .ok []
  | some (.map es) => .ok (Entries.ofList es)
  | some v => .error [.wrongKind [] .object v.kind]

/-- Reads a registration and adds it to those that are bound. -/
def bindEntry (env : Environment) (bound : Entries RegistrationProperties) (e : String × Value) :
    Checked (Entries RegistrationProperties) :=
  (registration env e.2).map fun p => bound.set e.1 p

/-- Reads the registrations below a prefix, up to the first one that cannot be bound. -/
def registrations (env : Environment) (source : PropertySource) (path : String := defaultPrefix) :
    Checked (Entries RegistrationProperties) := do
  (← mapBelow source path).foldlM (bindEntry env) []

example : camelCase "client-id" = "clientId" ∧ camelCase "--a-B-" = "-A-B-" := by decide +kernel
example : choiceName " Authorization-Code " = "authorization_code" := by decide +kernel

end Binding

end OAuthClient
