import Mathlib.Data.List.Nodup
import OAuthClient.Repository

/-!
# What a repository of given registrations holds

A repository is made by adding registrations one after the other, until one comes whose id is
taken. One step puts a registration at the end; a whole run therefore ends with the registrations in
the order of the list, or it stops at the first id that already occurred. Every way to look at the
repository then shows the same registrations: one after the other, by their ids, by their number,
and each under its id. Unlike the keys of a map, ids that are array indices keep their place.

## Main statements

* `Repository.add_eq_ok_iff`, `Repository.add_eq_error_iff`: how adding a registration ends.
* `Repository.foldlM_add_eq_ok_iff`: what adding some registrations makes of a repository.
* `Repository.ofList_eq_ok_iff`, `Repository.ofList_eq_error_iff`: how making a repository ends.
* `Repository.find?_eq_some_iff`, `Repository.find?_eq_none_iff`: what is found under an id.
* `Repository.ofList_represents`: a repository represents the registrations it is made of.
-/

namespace OAuthClient

/-! ### Where a run fails -/

/-- A run over a list fails at the first step that fails, after all that stands before it. -/
theorem foldlM_eq_error_iff {α β ε : Type} {f : β → α → Except ε β} {start : β} {l : List α}
    {e : ε} : l.foldlM f start = .error e ↔ ∃ before a after reached, l = before ++ a :: after ∧
      before.foldlM f start = .ok reached ∧ f reached a = .error e := by
  constructor
  · intro h
    induction l generalizing start with
    | nil => cases h
    | cons a l ih =>
      rw [List.foldlM_cons] at h
      cases hstep : f start a with
      | error e' =>
        rw [hstep] at h
        cases h
        exact ⟨[], a, l, start, rfl, rfl, hstep⟩
      | ok next =>
        rw [hstep] at h
        obtain ⟨before, a', after, reached, rfl, hreached, hfail⟩ := ih h
        refine ⟨a :: before, a', after, reached, rfl, ?_, hfail⟩
        rw [List.foldlM_cons, hstep]
        exact hreached
  · rintro ⟨before, a, after, reached, rfl, hreached, hfail⟩
    rw [List.foldlM_append, hreached]
    show (a :: after).foldlM f reached = .error e
    rw [List.foldlM_cons, hfail]
    rfl

namespace Repository

variable {r s : Repository} {x : Registration} {rs : List Registration} {e : DuplicateId}
  {id : String}

/-! ### One registration more -/

/-- A registration that stands behind those of another repository has a new id. -/
theorem not_mem_ids_of_append (h : s.registrations = r.registrations ++ x :: rs) :
    x.registrationId ∉ r.ids := by
  have hdistinct := s.distinct
  rw [h, List.map_append, List.nodup_append] at hdistinct
  exact fun taken => hdistinct.2.2 _ taken _ List.mem_cons_self rfl

/-- Adding a registration succeeds just with the repository that has it at the end. That its id was
not taken need not be said: the ids in the repository are distinct. -/
theorem add_eq_ok_iff : r.add x = .ok s ↔ s.registrations = r.registrations ++ [x] := by
  unfold add
  split
  · next taken => exact iff_of_false nofun fun hs => not_mem_ids_of_append hs taken
  · rw [Except.ok.injEq, Repository.ext_iff]
    exact eq_comm

/-- Adding a registration fails just if its id is taken, and the error has the id. -/
theorem add_eq_error_iff :
    r.add x = .error e ↔ x.registrationId ∈ r.ids ∧ e.registrationId = x.registrationId := by
  unfold add
  split
  · next taken =>
    rw [Except.error.injEq, and_iff_right taken]
    exact ⟨fun h => h ▸ rfl, fun h => h ▸ rfl⟩
  · next free => exact iff_of_false nofun fun h => free h.1

/-! ### Several registrations more -/

/-- Adding some registrations succeeds just with the repository that has them at the end, in their
order. -/
theorem foldlM_add_eq_ok_iff :
    rs.foldlM add r = .ok s ↔ s.registrations = r.registrations ++ rs := by
  induction rs generalizing r with
  | nil =>
    rw [List.append_nil, ← Repository.ext_iff]
    exact ⟨fun h => (Except.ok.inj h).symm, fun h => congrArg Except.ok h.symm⟩
  | cons x rs ih =>
    rw [List.foldlM_cons]
    cases hadd : r.add x with
    | ok next =>
      rw [List.append_cons, ← add_eq_ok_iff.mp hadd]
      exact ih
    | error e =>
      have taken := (add_eq_error_iff.mp hadd).1
      exact iff_of_false nofun fun hs => not_mem_ids_of_append hs taken

/-! ### Making a repository -/

/-- A repository is made of some registrations just if it has these, in their order. -/
theorem ofList_eq_ok_iff : ofList rs = .ok r ↔ r.registrations = rs :=
  foldlM_add_eq_ok_iff

/-- Registrations whose ids differ make a repository, which holds them as they are. -/
theorem ofList_of_nodup (distinct : (rs.map (·.registrationId)).Nodup) :
    ofList rs = .ok ⟨rs, distinct⟩ :=
  ofList_eq_ok_iff.mpr rfl

/-- The first id, in the order of a list, that already occurred: it is one of those before it, which
are distinct. -/
def FirstRepeated (ids : List String) (id : String) : Prop :=
  ∃ before after, ids = before ++ id :: after ∧ before.Nodup ∧ id ∈ before

-- It is the id that comes again first, not the first one that comes again.
example : FirstRepeated ["a", "b", "c", "b", "a"] "b" :=
  ⟨["a", "b", "c"], ["a"], rfl, by decide, by decide⟩

/-- No repository is made just if an id already occurred, and the error has the first such id. -/
theorem ofList_eq_error_iff :
    ofList rs = .error e ↔ FirstRepeated (rs.map (·.registrationId)) e.registrationId := by
  unfold ofList
  rw [foldlM_eq_error_iff]
  constructor
  · rintro ⟨before, x, after, reached, rfl, hreached, hfail⟩
    obtain ⟨taken, hid⟩ := add_eq_error_iff.mp hfail
    obtain rfl : reached.registrations = before := ofList_eq_ok_iff.mp hreached
    refine ⟨reached.ids, after.map (·.registrationId), ?_, reached.distinct, hid ▸ taken⟩
    rw [List.map_append, List.map_cons, hid]
    rfl
  · rintro ⟨ids, ids', hsplit, distinct, hmem⟩
    obtain ⟨before, rest, rfl, rfl, hrest⟩ := List.map_eq_append_iff.mp hsplit
    obtain ⟨x, after, rfl, hid, -⟩ := List.map_eq_cons_iff.mp hrest
    exact ⟨before, x, after, ⟨before, distinct⟩, rfl, ofList_of_nodup distinct,
      add_eq_error_iff.mpr ⟨hid ▸ hmem, hid.symm⟩⟩

/-! ### Looking up an id -/

/-- Under an id there is the registration that has it: no other one has this id. -/
theorem find?_eq_some_iff :
    r.find? id = some x ↔ x ∈ r.registrations ∧ x.registrationId = id := by
  constructor
  · exact fun h => ⟨List.mem_of_find?_eq_some h, registrationId_of_find? h⟩
  · rintro ⟨hmem, rfl⟩
    cases hfind : r.find? x.registrationId with
    | none => exact absurd (beq_self_eq_true _) (List.find?_eq_none.mp hfind x hmem)
    | some y =>
      have hy := List.mem_of_find?_eq_some hfind
      have hid := registrationId_of_find? hfind
      rw [List.inj_on_of_nodup_map r.distinct hy hmem hid]

/-- Under an id there is nothing just if no registration has it. -/
theorem find?_eq_none_iff : r.find? id = none ↔ id ∉ r.ids := by
  unfold find? ids
  simp

/-! ### What a repository represents -/

/-- All ways to look at a repository show the registrations of a list. -/
structure Represents (r : Repository) (rs : List Registration) : Prop where
  /-- One after the other they come in the order of the list. -/
  registrations : r.registrations = rs
  ids : r.ids = rs.map (·.registrationId)
  size : r.size = rs.length
  /-- Under an id there is the registration of the list with this id. -/
  found : ∀ id x, r.find? id = some x ↔ x ∈ rs ∧ x.registrationId = id
  absent : ∀ id, r.find? id = none ↔ ∀ x ∈ rs, x.registrationId ≠ id

/-- A repository represents the registrations that it has. -/
theorem represents_registrations (r : Repository) : r.Represents r.registrations where
  registrations := rfl
  ids := rfl
  size := rfl
  found _ _ := find?_eq_some_iff
  absent id := by
    rw [find?_eq_none_iff, ids, List.mem_map]
    exact ⟨fun h x hx hid => h ⟨x, hx, hid⟩, fun h ⟨x, hx, hid⟩ => h x hx hid⟩

/-- **A repository represents the registrations it is made of**: it is made of a list just if the
ids in it are distinct, and then shows the list from every side; of any other list the first id
that already occurred is reported. -/
theorem ofList_represents (rs : List Registration) :
    ((∃ r, ofList rs = .ok r) ↔ (rs.map (·.registrationId)).Nodup) ∧
    (∀ e, ofList rs = .error e ↔ FirstRepeated (rs.map (·.registrationId)) e.registrationId) ∧
    (∀ e : DuplicateId,
      e.message = "Duplicate client registration id '" ++ e.registrationId ++ "'") ∧
    ∀ r, ofList rs = .ok r ↔ r.Represents rs := by
  refine ⟨⟨?_, ?_⟩, fun e => ofList_eq_error_iff, fun e => rfl, fun r => ⟨?_, ?_⟩⟩
  · rintro ⟨r, hr⟩
    exact ofList_eq_ok_iff.mp hr ▸ r.distinct
  · intro distinct
    exact ⟨_, ofList_of_nodup distinct⟩
  · intro hr
    obtain rfl := ofList_eq_ok_iff.mp hr
    exact r.represents_registrations
  · intro hr
    exact ofList_eq_ok_iff.mpr hr.registrations

-- Array indices keep their place, and ids that differ in case are two.
example :
    let given := ["b", "10", "2", "B", "__proto__"]
    (ofList (given.map fun id => { registrationId := id, clientId := "c" })).map ids =
      .ok given := by decide

end Repository

end OAuthClient
