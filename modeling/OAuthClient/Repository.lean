import OAuthClient.Registration

/-!
# Repositories of registrations

A repository is made by adding registrations one after the other. It holds them in the order in
which they were given, whatever their ids are; no two have one id.

## Main declarations

* `Repository`: the registrations, with the proof that their ids differ.
* `Repository.add`: one registration more, unless its id is taken.
* `Repository.ofList`: a repository of given registrations, or the first id that is given again.
* `Repository.find?`: the registration with an id.
-/

namespace OAuthClient

/-- Registrations with distinct ids. -/
@[ext]
structure Repository where
  registrations : List Registration
  distinct : (registrations.map (·.registrationId)).Nodup
  deriving DecidableEq, Repr

namespace Repository

/-- The repository without registrations. -/
def empty : Repository := ⟨[], List.nodup_nil⟩

instance : Inhabited Repository := ⟨empty⟩

/-- An id that is given to a second registration. -/
structure DuplicateId where
  registrationId : String
  deriving DecidableEq, Repr

/-- The report of a duplicate id. -/
def DuplicateId.message (e : DuplicateId) : String :=
  s!"Duplicate client registration id '{e.registrationId}'"

/-- The ids of the registrations, in order. -/
def ids (r : Repository) : List String := r.registrations.map (·.registrationId)

/-- The number of registrations. -/
def size (r : Repository) : Nat := r.registrations.length

/-- The registration with an id. -/
def find? (r : Repository) (id : String) : Option Registration :=
  r.registrations.find? (·.registrationId == id)

theorem registrationId_of_find? {r : Repository} {id : String} {x : Registration}
    (h : r.find? id = some x) : x.registrationId = id := by
  simpa using List.find?_some h

/-! ### Adding registrations -/

/-- The ids stay distinct when a registration with a new id is put at the end. -/
theorem distinct_append_singleton {r : Repository} {x : Registration}
    (h : x.registrationId ∉ r.ids) :
    ((r.registrations ++ [x]).map (·.registrationId)).Nodup := by
  rw [List.map_append, List.nodup_append]
  refine ⟨r.distinct, by simp, fun id hid id' hid' heq => h ?_⟩
  rw [List.map_singleton, List.mem_singleton] at hid'
  exact hid' ▸ heq ▸ hid

/-- Adds a registration at the end, unless its id is taken. -/
def add (r : Repository) (x : Registration) : Except DuplicateId Repository :=
  if taken : x.registrationId ∈ r.ids then .error ⟨x.registrationId⟩
  else .ok ⟨r.registrations ++ [x], distinct_append_singleton taken⟩

/-- The repository of some registrations, which are added one after the other; it fails at the first
id that is given again. -/
def ofList (rs : List Registration) : Except DuplicateId Repository := rs.foldlM add empty

end Repository

end OAuthClient
