import OAuthClient.Attributes
import OAuthClient.Entries
import OAuthClient.Text.Lowercase

/-!
# Provider templates

A template holds what is known about the clients of one provider. Templates stand in a catalog under
names that are looked up ignoring case.

## Main declarations

* `Template`: a template; `Template.fieldNames` are the names of the fields that it has.
* `Catalog`: templates under names, in key order.
* `Catalog.ofSources`: layers sources of templates, later ones over earlier ones.
* `Catalog.build`: the same, unless a template has a name that is closed.
* `Catalog.find?`: the first template whose name is the wanted one ignoring case.
-/

namespace OAuthClient

/-- A template. A client id or secret that it carries is kept with it and never used as a default.
-/
structure Template extends Attributes where
  clientId : Option String := none
  clientSecret : Option String := none
  deriving DecidableEq, Repr, Inhabited

/-- The names of the fields that a template has. -/
def Template.fieldNames (t : Template) : List String :=
  let fields : List (String × Bool) :=
    [("clientAuthenticationMethod", t.clientAuthenticationMethod.isSome),
     ("authorizationGrantType", t.authorizationGrantType.isSome),
     ("redirectUri", t.redirectUri.isSome),
     ("scope", t.scope.isSome),
     ("authorizationUri", t.authorizationUri.isSome),
     ("tokenUri", t.tokenUri.isSome),
     ("userInfoUri", t.userInfoUri.isSome),
     ("jwkSetUri", t.jwkSetUri.isSome),
     ("clientName", t.clientName.isSome),
     ("clientAlias", t.clientAlias.isSome),
     ("clientId", t.clientId.isSome),
     ("clientSecret", t.clientSecret.isSome)]
  (fields.filter (·.2)).map (·.1)

/-- Templates under names, in key order. -/
abbrev Catalog := Entries Template

namespace Catalog

/-- The name under which a catalog keeps no template. -/
def reservedName : String := "__proto__"

/-- Adds a template under a name, in place of the one that has exactly this name. -/
def add (catalog : Catalog) (name : String) (template : Template) : Catalog :=
  if name = reservedName then catalog else Entries.set catalog name template

/-- Layers the templates of a source over a catalog. -/
def layer (catalog : Catalog) (source : Entries Template) : Catalog :=
  source.foldl (fun c e => c.add e.1 e.2) catalog

/-- The catalog of some sources, later ones layered over earlier ones. -/
def ofSources (sources : List (Entries Template)) : Catalog := sources.foldl layer []

theorem layer_append_singleton (catalog : Catalog) (source : List (String × Template))
    (e : String × Template) :
    catalog.layer (source ++ [e]) = (catalog.layer source).add e.1 e.2 := by
  simp [layer]

/-- Layering sources is layering all their templates one after the other. -/
theorem ofSources_eq_layer (sources : List (Entries Template)) :
    ofSources sources = layer [] sources.flatten := by
  unfold ofSources layer
  rw [List.foldl_flatten]

/-! ### Closed names

A template that is given under the reserved name is not kept, but from then on, until the next one
is given under it, no new name can be that of one of its fields. -/

/-- A name that is closed when a template is given under it. -/
structure ClosedName where
  name : String
  /-- Whether the templates so far have a name by which a catalog is shown. -/
  shown : Bool
  deriving DecidableEq, Repr

/-- The report of a closed name. -/
def ClosedName.message (e : ClosedName) : String :=
  let catalog := if e.shown then "[object Object]" else "#<Object>"
  s!"Cannot assign to read only property '{e.name}' of object '{catalog}'"

/-- The names by which a catalog is shown. -/
def shownNames : List String := ["constructor", "toString"]

/-- The first closed name under which a template is given, where some names are present and some
are closed. -/
def closedName? (present closed : List String) : List (String × Template) → Option ClosedName
  | [] => none
  | (name, template) :: given =>
    if name = reservedName then closedName? present template.fieldNames given
    else if name ∈ closed ∧ name ∉ present then some ⟨name, shownNames.any (· ∈ present)⟩
    else closedName? (name :: present) closed given

/-- The catalog of some sources, unless a template has a name that is closed. -/
def build (sources : List (Entries Template)) : Except ClosedName Catalog :=
  match closedName? [] [] sources.flatten with
  | some e => .error e
  | none => .ok (ofSources sources)

/-! ### Looking up -/

/-- The names of the templates, in key order. -/
def names (catalog : Catalog) : List String := Entries.keys catalog

/-- The first template whose name is the wanted one ignoring case. -/
def find? (catalog : Catalog) (name : String) : Option Template :=
  (List.find? (fun e => Text.lowercase e.1 == Text.lowercase name) catalog).map (·.2)

end Catalog

end OAuthClient
