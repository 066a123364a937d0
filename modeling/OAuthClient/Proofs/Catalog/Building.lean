import OAuthClient.Proofs.KeyOrder
import OAuthClient.Template

/-!
# Which templates a catalog has

A catalog should have, in key order, all names that its sources have, each with the template of the
last source that has it, so that a catalog can be built in one step or in several. This is so unless
a source has the reserved name. A template under this name is lost, and it closes names to other
templates.

## Main statements

* `Entries.get?_ofList_append`: of several values that a key is given the last one is found.
* `Catalog.LastSource`: the template of the last source that has a name.
* `Catalog.HasAll`: a catalog has all templates of its sources.
* `Catalog.build_hasAll_iff`: when this is so; `Catalog.build_loses_template` has sources for which
  it is not.
-/

namespace OAuthClient

universe u

/-! ### The last value of a key -/

namespace Entries

variable {α : Type u} {es before after : List (String × α)} {key : String} {value : α}

/-- Of several values that a key is given the last one is found. -/
theorem get?_ofList_append (last : ∀ e ∈ after, e.1 ≠ key) :
    get? (ofList (before ++ (key, value) :: after)) key = some value := by
  induction after using List.reverseRecOn with
  | nil =>
    rw [ofList_append_singleton]
    exact get?_set_self ..
  | append_singleton after e ih =>
    have hne : key ≠ e.1 := (last e (List.mem_append_right after (List.mem_singleton_self e))).symm
    rw [← List.cons_append, ← List.append_assoc, ofList_append_singleton, get?_set_of_ne _ _ hne]
    exact ih fun e' he' => last e' (List.mem_append_left [e] he')

end Entries

namespace Catalog

variable {sources : List (Entries Template)} {name : String} {template : Template}

/-! ### What sources should give -/

/-- The template under exactly some name in the last source that has the name. -/
def LastSource (sources : List (Entries Template)) (name : String) (template : Template) : Prop :=
  ∃ earlier source later, sources = earlier ++ source :: later ∧ (name, template) ∈ source ∧
    ∀ e ∈ later.flatten, e.1 ≠ name

/-- A name that some source has, has a template in the last source with the name. -/
theorem exists_lastSource (h : name ∈ sources.flatten.map (·.1)) :
    ∃ template, LastSource sources name template := by
  induction sources with
  | nil => cases h
  | cons source sources ih =>
    by_cases hlater : name ∈ sources.flatten.map (·.1)
    · obtain ⟨template, earlier, last, later, rfl, hmem, hnone⟩ := ih hlater
      exact ⟨template, source :: earlier, last, later, rfl, hmem, hnone⟩
    · rw [List.flatten_cons, List.map_append, List.mem_append] at h
      obtain ⟨e, he, rfl⟩ := List.mem_map.mp (h.resolve_right hlater)
      refine ⟨e.2, [], source, sources, rfl, he, fun e' he' heq => hlater ?_⟩
      exact heq ▸ List.mem_map_of_mem he'

/-- The template of the last source with a name is what is found after the templates of all sources
are given one after the other. -/
theorem LastSource.get? (distinct : ∀ source ∈ sources, (Entries.keys source).Nodup)
    (h : LastSource sources name template) :
    Entries.get? (Entries.ofList sources.flatten) name = some template := by
  obtain ⟨earlier, source, later, rfl, hmem, hlater⟩ := h
  obtain ⟨before, after, rfl⟩ := List.append_of_mem hmem
  have hnodup := distinct _ (List.mem_append_right earlier List.mem_cons_self)
  have hafter : name ∉ after.map (·.1) := by
    simp only [Entries.keys, List.map_append, List.map_cons] at hnodup
    exact (List.nodup_cons.mp (List.nodup_append.mp hnodup).2.1).1
  have hsplit : (earlier ++ (before ++ (name, template) :: after) :: later).flatten =
      (earlier.flatten ++ before) ++ (name, template) :: (after ++ later.flatten) := by simp
  rw [hsplit]
  refine Entries.get?_ofList_append fun e he => ?_
  rcases List.mem_append.mp he with he | he
  · rintro rfl
    exact hafter (List.mem_map_of_mem he)
  · exact hlater e he

/-! ### What a catalog has -/

/-- A catalog of sources is what giving all their templates one after the other makes of them, but
for those under the reserved name. -/
theorem ofSources_eq (sources : List (Entries Template)) :
    ofSources sources = Entries.ofList (sources.flatten.filter (·.1 ≠ reservedName)) := by
  rw [ofSources_eq_layer]
  induction sources.flatten using List.reverseRecOn with
  | nil => rfl
  | append_singleton given e ih =>
    rw [layer_append_singleton, ih, List.filter_append]
    by_cases hreserved : e.1 = reservedName
    · simp [add, hreserved]
    · simp [add, hreserved, Entries.ofList_append_singleton]

theorem reservedName_not_mem_names (sources : List (Entries Template)) :
    reservedName ∉ (ofSources sources).names := by
  rw [ofSources_eq, names, Entries.mem_keys_ofList]
  simp

theorem eq_ofSources_of_build {catalog : Catalog} (h : build sources = .ok catalog) :
    catalog = ofSources sources := by
  unfold build at h
  split at h
  · cases h
  · exact (Except.ok.inj h).symm

/-- Which name is closed depends on the names that are there, not on their order. -/
theorem closedName?_congr {present present' : List String} (h : ∀ n, n ∈ present ↔ n ∈ present')
    (closed : List String) (given : List (String × Template)) :
    closedName? present closed given = closedName? present' closed given := by
  induction given generalizing present present' closed with
  | nil => rfl
  | cons e given ih =>
    have hnext : ∀ n, n ∈ e.1 :: present ↔ n ∈ e.1 :: present' := by
      intro n
      rw [List.mem_cons, List.mem_cons, h]
    simp only [closedName?, ih h, ih hnext, h]

/-- Templates under other names than the reserved one close no name. -/
theorem closedName?_append {given : List (String × Template)}
    (h : ∀ e ∈ given, e.1 ≠ reservedName) (present : List String)
    (more : List (String × Template)) :
    closedName? present [] (given ++ more) =
      closedName? ((given.map (·.1)).reverse ++ present) [] more := by
  induction given generalizing present with
  | nil => rfl
  | cons e given ih =>
    obtain ⟨he, hgiven⟩ := List.forall_mem_cons.mp h
    have hstep : closedName? present [] (e :: given ++ more) =
        closedName? (e.1 :: present) [] (given ++ more) := by
      simp [closedName?, he]
    rw [hstep, ih hgiven]
    simp

section

variable (h : ∀ e ∈ sources.flatten, e.1 ≠ reservedName)
include h

theorem ofSources_of_not_reserved : ofSources sources = Entries.ofList sources.flatten := by
  rw [ofSources_eq, List.filter_eq_self.mpr fun e he => by simpa using h e he]

/-- Without the reserved name a catalog can be built. -/
theorem build_of_not_reserved : build sources = .ok (Entries.ofList sources.flatten) := by
  have hclosed : closedName? [] [] sources.flatten = none := by
    have happend := closedName?_append h [] []
    rwa [List.append_nil] at happend
  rw [build, hclosed, ofSources_of_not_reserved h]

theorem ofList_not_reserved : ∀ e ∈ Entries.ofList sources.flatten, e.1 ≠ reservedName := by
  intro e he
  have hkey := (Entries.mem_keys_ofList sources.flatten e.1).mp (List.mem_map_of_mem he)
  obtain ⟨given, hgiven, hname⟩ := List.mem_map.mp hkey
  exact hname ▸ h given hgiven

/-- Without the reserved name a catalog can be built in several steps. -/
theorem build_cons (more : List (Entries Template)) :
    build (Entries.ofList sources.flatten :: more) = build (sources ++ more) := by
  have hlayer : layer [] (Entries.ofList sources.flatten) = ofSources sources := by
    have hsame : ofSources [Entries.ofList sources.flatten] =
        Entries.ofList [Entries.ofList sources.flatten].flatten :=
      ofSources_of_not_reserved (by simpa using ofList_not_reserved h)
    rw [ofSources_of_not_reserved h]
    refine hsame.trans ?_
    rw [List.flatten_singleton, Entries.ofList_of_inKeyOrder (Entries.inKeyOrder_ofList _)]
  have hofSources : ofSources (Entries.ofList sources.flatten :: more) =
      ofSources (sources ++ more) := by
    unfold ofSources at hlayer ⊢
    rw [List.foldl_cons, List.foldl_append, hlayer]
  have hclosed : closedName? [] [] (Entries.ofList sources.flatten :: more).flatten =
      closedName? [] [] (sources ++ more).flatten := by
    rw [List.flatten_cons, List.flatten_append, closedName?_append (ofList_not_reserved h),
      closedName?_append h]
    refine closedName?_congr (fun n => ?_) [] _
    have hkeys := Entries.mem_keys_ofList sources.flatten n
    simpa [Entries.keys] using hkeys
  rw [build, build, hclosed, hofSources]

end

/-- A catalog has all templates of its sources, and it stands for them when more are layered. -/
structure HasAll (sources : List (Entries Template)) (catalog : Catalog) : Prop where
  /-- The names are those of the sources, each once, in key order. -/
  names : Entries.KeyOrdered (sources.flatten.map (·.1)) catalog.names
  /-- Each name has the template of the last source that has the name. -/
  templates : ∀ name template, (name, template) ∈ catalog ↔ LastSource sources name template
  layered : ∀ more, build (catalog :: more) = build (sources ++ more)

/-- Without the reserved name a catalog has all templates. -/
theorem hasAll_ofList (distinct : ∀ source ∈ sources, (Entries.keys source).Nodup)
    (h : ∀ e ∈ sources.flatten, e.1 ≠ reservedName) :
    HasAll sources (Entries.ofList sources.flatten) where
  names := Entries.keyOrdered_ofList sources.flatten
  templates name template := by
    rw [Entries.mem_iff_get? (Entries.inKeyOrder_ofList sources.flatten).distinct]
    constructor
    · intro hget
      have hkey := List.mem_map_of_mem (f := (·.1)) (Entries.mem_of_get? hget)
      obtain ⟨last, hlast⟩ := exists_lastSource ((Entries.mem_keys_ofList ..).mp hkey)
      rw [hlast.get? distinct] at hget
      exact Option.some.inj hget ▸ hlast
    · exact LastSource.get? distinct
  layered := build_cons h

/-- **When building a catalog loses no template**: exactly if no source has the reserved name. -/
theorem build_hasAll_iff (distinct : ∀ source ∈ sources, (Entries.keys source).Nodup) :
    (∃ catalog, build sources = .ok catalog ∧ HasAll sources catalog) ↔
      ∀ source ∈ sources, reservedName ∉ Entries.keys source := by
  constructor
  · rintro ⟨catalog, hbuild, hall⟩ source hsource hmem
    obtain ⟨e, he, hreserved⟩ := List.mem_map.mp hmem
    have hgiven : reservedName ∈ sources.flatten.map (·.1) :=
      hreserved ▸ List.mem_map_of_mem (List.mem_flatten_of_mem hsource he)
    have hnames := (hall.names.mem_iff reservedName).mpr hgiven
    rw [eq_ofSources_of_build hbuild] at hnames
    exact reservedName_not_mem_names sources hnames
  · intro h
    have hflat : ∀ e ∈ sources.flatten, e.1 ≠ reservedName := by
      intro e he hreserved
      obtain ⟨source, hsource, hmem⟩ := List.mem_flatten.mp he
      exact h source hsource (hreserved ▸ List.mem_map_of_mem hmem)
    exact ⟨_, build_of_not_reserved hflat, hasAll_ofList distinct hflat⟩

/-- Names that objects have by themselves, array indices, and a name that is given again. -/
theorem build_hasAll_layers :
    let own : Template := { clientName := some "own", scope := some [] }
    let sources : List (Entries Template) :=
      [[("b", { clientName := some "b" }), ("constructor", own)],
       [("10", own), ("b", { clientId := some "c" })], [("2", own)]]
    (∀ source ∈ sources, (Entries.keys source).Nodup) ∧
      (∀ source ∈ sources, reservedName ∉ Entries.keys source) ∧
      ∃ catalog, build sources = .ok catalog ∧ HasAll sources catalog := by
  intro own sources
  have distinct : ∀ source ∈ sources, (Entries.keys source).Nodup := by decide
  have hnot : ∀ source ∈ sources, reservedName ∉ Entries.keys source := by decide
  exact ⟨distinct, hnot, (build_hasAll_iff distinct).mpr hnot⟩

/-- A template under the reserved name is lost, and after it a template under the name of one of its
fields is refused, but not when the catalog is built in two steps. -/
theorem build_loses_template :
    let template : Template := { clientName := some "n" }
    (build [[("__proto__", template), ("x", template)]] = .ok [("x", template)] ∧
      ¬ HasAll [[("__proto__", template), ("x", template)]] [("x", template)]) ∧
    (build [[("__proto__", template)]] = .ok [] ∧
      build [[], [("clientName", template)]] = .ok [("clientName", template)] ∧
      build [[("__proto__", template)], [("clientName", template)]] =
        .error ⟨"clientName", false⟩) := by
  intro template
  refine ⟨⟨by decide +kernel, fun hall => ?_⟩, by decide +kernel, by decide +kernel,
    by decide +kernel⟩
  have hmem := (hall.names.mem_iff "__proto__").mpr (by simp)
  simp [names, Entries.keys] at hmem

end Catalog

end OAuthClient
