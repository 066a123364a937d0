import Mathlib.Data.List.Induction
import OAuthClient.Proofs.Catalog.Refusal
import OAuthClient.Proofs.Text.Lowercase
import OAuthClient.Template.BuiltIn

/-!
# Layered templates

Sources of templates are layered over each other by exact names, and looked up ignoring case. A name
therefore stands for the template under its first spelling, as the last source with this very
spelling gives it. That is the template of the last source that has the name ignoring case if all
sources spell the name alike, but not in general. No catalog is built if a template is refused.

## Main statements

* `Catalog.SameName`: two names are equal ignoring case.
* `Catalog.Found`, `Catalog.found_ofSources`: what a catalog of sources finds.
* `Catalog.LastGiven`: the template of the last source that has a name ignoring case.
* `Catalog.build_lastGiven_iff`: when a catalog is built that finds that template.
-/

namespace OAuthClient

universe u

/-! ### The first entry of some kind -/

namespace Entries

variable {α : Type u} {P : String → Bool} {es : Entries α} {key : String}

/-- Giving a value to a key that is there changes the value of the entry that is found, if this is
the entry of the key. -/
theorem find?_set_of_mem (h : key ∈ es.keys) (value : α) : (es.set key value).find? (P ·.1) =
    (es.find? (P ·.1)).map fun e => if e.1 = key then (key, value) else e := by
  have hkind : ((fun e : String × α => P e.1) ∘ fun e => if e.1 = key then (key, value) else e) =
      fun e => P e.1 := by
    funext e
    by_cases he : e.1 = key
    · simp [he]
    · simp [he]
  rw [set, if_pos h, List.find?_map, hkind]

/-- Giving a value to a key of another kind does not change which entry is found. -/
theorem find?_set_of_not (h : P key = false) (value : α) :
    (es.set key value).find? (P ·.1) = es.find? (P ·.1) := by
  by_cases hmem : key ∈ es.keys
  · rw [find?_set_of_mem hmem]
    refine (Option.map_congr fun e he => if_neg ?_).trans (congrFun Option.map_id _)
    rintro rfl
    have hfound : P e.1 := List.find?_some (p := fun e : String × α => P e.1) he
    rw [h] at hfound
    cases hfound
  · rw [set, if_neg hmem]
    clear hmem
    induction es with
    | nil => simp [place, h]
    | cons e es ih =>
      by_cases hp : precedes key e.1
      · rw [place, if_pos hp, List.find?_cons_of_neg (by simp [h])]
      · rw [place, if_neg hp, List.find?_cons, List.find?_cons, ih]

/-- The first entry of a kind is the one that is found. -/
theorem find?_set_of_none (h : P key) (none : es.find? (P ·.1) = none) (value : α) :
    (es.set key value).find? (P ·.1) = some (key, value) := by
  have hothers : ∀ e ∈ es, ¬ P e.1 := List.find?_eq_none.mp none
  have hmem : key ∉ es.keys := by
    intro hmem
    obtain ⟨e, he, rfl⟩ := List.mem_map.mp hmem
    exact hothers e he h
  rw [set, if_neg hmem]
  clear none hmem
  induction es with
  | nil => simp [place, h]
  | cons e es ih =>
    obtain ⟨hhead, htail⟩ := List.forall_mem_cons.mp hothers
    by_cases hp : precedes key e.1
    · rw [place, if_pos hp]
      exact List.find?_cons_of_pos h
    · rw [place, if_neg hp, List.find?_cons_of_neg (by simpa using hhead)]
      exact ih htail

/-- If there is an entry of a kind, another key of this kind does not come before it unless it is an
array index. -/
theorem find?_set_of_some (alone : IsIndex key → key ∈ es.keys) {e : String × α}
    (found : es.find? (P ·.1) = some e) (value : α) :
    (es.set key value).find? (P ·.1) = some (if e.1 = key then (key, value) else e) := by
  by_cases hmem : key ∈ es.keys
  · rw [find?_set_of_mem hmem, found]
    rfl
  · have hlast : place key value es = es ++ [(key, value)] :=
      place_append_of_not_precedes fun _ _ hp => hmem (alone (isIndex_of_precedes hp))
    have hne : e.1 ≠ key := by
      rintro rfl
      exact hmem (List.mem_map_of_mem (List.mem_of_find?_eq_some found))
    rw [set, if_neg hmem, hlast, List.find?_append, found, if_neg hne]
    rfl

end Entries

namespace Catalog

/-! ### What a catalog finds -/

/-- Two names are equal ignoring case. -/
def SameName (a b : String) : Prop := Text.lowercase a = Text.lowercase b

instance (a b : String) : Decidable (SameName a b) := inferInstanceAs (Decidable (_ = _))

theorem SameName.symm {a b : String} (h : SameName a b) : SameName b a := Eq.symm h

theorem SameName.trans {a b c : String} (h : SameName a b) (h' : SameName b c) : SameName a c :=
  Eq.trans h h'

/-- The first entry whose name is the wanted one ignoring case. -/
def named? (catalog : Catalog) (wanted : String) : Option (String × Template) :=
  List.find? (fun e => decide (SameName e.1 wanted)) catalog

theorem find?_eq (catalog : Catalog) (wanted : String) :
    catalog.find? wanted = (catalog.named? wanted).map (·.2) := rfl

/-- The first spelling of a wanted name among templates that are given one after the other. Under the
reserved name no template is kept. -/
def FirstSpelling (given : List (String × Template)) (wanted spelling : String) : Prop :=
  ∃ template before after, given = before ++ (spelling, template) :: after ∧
    SameName spelling wanted ∧ spelling ≠ "__proto__" ∧
    ∀ e ∈ before, SameName e.1 wanted → e.1 = "__proto__"

/-- What is found for a wanted name among templates that are given one after the other: the first
spelling of the name, with the template that is given last under this spelling. -/
inductive Found (given : List (String × Template)) (wanted : String) :
    Option (String × Template) → Prop
  | first {spelling : String} {template : Template} :
      FirstSpelling given wanted spelling → LastUnder given spelling template →
      Found given wanted (some (spelling, template))
  | absent : (∀ e ∈ given, SameName e.1 wanted → e.1 = reservedName) → Found given wanted none

section

variable {given : List (String × Template)} {wanted name spelling : String}
  {template last : Template}

theorem FirstSpelling.sameName (h : FirstSpelling given wanted spelling) :
    SameName spelling wanted ∧ spelling ≠ reservedName := by
  obtain ⟨_, _, _, -, hsame, hne, -⟩ := h
  exact ⟨hsame, hne⟩

theorem FirstSpelling.append (h : FirstSpelling given wanted spelling)
    (more : List (String × Template)) : FirstSpelling (given ++ more) wanted spelling := by
  obtain ⟨template, before, after, rfl, hsame, hne, hbefore⟩ := h
  exact ⟨template, before, after ++ more, by simp, hsame, hne, hbefore⟩

/-- A template under another name, or under the reserved one, does not change what is found. -/
theorem Found.append_singleton {found : Option (String × Template)} (h : Found given wanted found)
    {e : String × Template} (he : SameName e.1 wanted → e.1 = reservedName) :
    Found (given ++ [e]) wanted found := by
  cases h with
  | first hfirst hlast =>
    refine .first (hfirst.append [e]) (hlast.append_singleton ?_)
    rintro rfl
    exact hfirst.sameName.2 (he hfirst.sameName.1)
  | absent hnone =>
    refine .absent fun e' he' hsame => ?_
    rcases List.mem_append.mp he' with he' | he'
    · exact hnone e' he' hsame
    · obtain rfl := List.mem_singleton.mp he'
      exact he hsame

/-- Adding a template changes what is found as it should. -/
theorem Found.add {catalog : Catalog} (h : Found given wanted (catalog.named? wanted))
    (e : String × Template) :
    Found (given ++ [e]) wanted ((catalog.add e.1 e.2).named? wanted) := by
  obtain ⟨name, template⟩ := e
  by_cases hreserved : name = reservedName
  · rw [Catalog.add, if_pos hreserved]
    exact h.append_singleton fun _ => hreserved
  rw [Catalog.add, if_neg hreserved]
  unfold named? at h ⊢
  by_cases hsame : SameName name wanted
  · cases hfound : List.find? (fun e => decide (SameName e.1 wanted)) catalog with
    | none =>
      rw [hfound] at h
      rw [Entries.find?_set_of_none (P := (SameName · wanted)) (decide_eq_true hsame) hfound]
      cases h with
      | absent hnone =>
        exact .first ⟨template, given, [], rfl, hsame, hreserved, hnone⟩
          (lastUnder_append_singleton given name template)
    | some found =>
      obtain ⟨spelling, present⟩ := found
      rw [hfound] at h
      -- An array index has no other spelling.
      have halone : Entries.IsIndex name → name ∈ Entries.keys catalog := by
        intro hindex
        obtain ⟨hdecide, -⟩ := List.find?_eq_some_iff_append.mp hfound
        have hspelling : SameName spelling wanted := of_decide_eq_true hdecide
        rw [← Text.eq_of_lowercase_eq hindex (hspelling.trans hsame.symm)]
        exact List.mem_map_of_mem (List.mem_of_find?_eq_some hfound)
      rw [Entries.find?_set_of_some (P := (SameName · wanted)) halone hfound]
      cases h with
      | first hfirst hlast =>
        by_cases hname : spelling = name
        · subst hname
          rw [if_pos rfl]
          exact .first (hfirst.append _) (lastUnder_append_singleton given spelling template)
        · rw [if_neg hname]
          exact .first (hfirst.append _) (hlast.append_singleton (Ne.symm hname))
  · rw [Entries.find?_set_of_not (P := (SameName · wanted)) (decide_eq_false hsame)]
    exact h.append_singleton fun h => absurd h hsame

end

/-- What a catalog of sources finds. -/
theorem found_ofSources (sources : List (Entries Template)) (wanted : String) :
    Found sources.flatten wanted ((ofSources sources).named? wanted) := by
  rw [ofSources_eq_layer]
  induction sources.flatten using List.reverseRecOn with
  | nil => exact .absent fun e he => absurd he List.not_mem_nil
  | append_singleton given e ih =>
    rw [layer_append_singleton]
    exact ih.add e

/-! ### What a catalog should find -/

/-- The template that layered sources should give a wanted name: that of the last source that has
the name ignoring case, or none if no source has it. -/
inductive LastGiven (sources : List (Entries Template)) (wanted : String) : Option Template → Prop
  | given (earlier : List (Entries Template)) {later : List (Entries Template)}
      {source : Entries Template} {name : String} {template : Template} :
      sources = earlier ++ source :: later → (name, template) ∈ source → SameName name wanted →
      (∀ e ∈ later.flatten, ¬ SameName e.1 wanted) → LastGiven sources wanted (some template)
  | absent : (∀ e ∈ sources.flatten, ¬ SameName e.1 wanted) → LastGiven sources wanted none

/-- The names of a source are distinct ignoring case. -/
def DistinctNames (source : Entries Template) : Prop :=
  source.Pairwise fun e e' => ¬ SameName e.1 e'.1

instance (source : Entries Template) : Decidable (DistinctNames source) :=
  inferInstanceAs (Decidable (source.Pairwise _))

section

variable {sources : List (Entries Template)} {wanted spelling : String} {template : Template}

theorem FirstSpelling.unique {given : List (String × Template)} {other : String}
    (h : FirstSpelling given wanted spelling) (h' : FirstSpelling given wanted other) :
    spelling = other := by
  obtain ⟨t, before, after, rfl, hsame, hne, hbefore⟩ := h
  obtain ⟨t', before', after', heq, hsame', hne', hbefore'⟩ := h'
  rcases List.append_eq_append_iff.mp heq with ⟨between, heq, hrest⟩ | ⟨between, heq, hrest⟩
  · cases between with
    | nil => exact congrArg Prod.fst (List.cons.inj hrest).1
    | cons x between =>
      obtain ⟨rfl, -⟩ := List.cons.inj hrest
      exact absurd (hbefore' (spelling, t) (by simp [heq]) hsame) hne
  · cases between with
    | nil => exact (congrArg Prod.fst (List.cons.inj hrest).1).symm
    | cons x between =>
      obtain ⟨rfl, -⟩ := List.cons.inj hrest
      exact absurd (hbefore (other, t') (by simp [heq]) hsame') hne'

/-- Sources give some answer. -/
theorem exists_lastGiven (sources : List (Entries Template)) (wanted : String) :
    ∃ answer, LastGiven sources wanted answer := by
  induction sources with
  | nil => exact ⟨none, .absent fun e he => absurd he List.not_mem_nil⟩
  | cons source sources ih =>
    obtain ⟨answer, ih⟩ := ih
    cases ih with
    | @given earlier later source' name template heq hmem hsame hlater =>
      exact ⟨some template, .given (source :: earlier) (by rw [heq]; rfl) hmem hsame hlater⟩
    | absent hnone =>
      by_cases hsource : ∃ e ∈ source, SameName e.1 wanted
      · obtain ⟨e, he, hsame⟩ := hsource
        exact ⟨some e.2, .given [] rfl he hsame hnone⟩
      · refine ⟨none, .absent fun e he hsame => ?_⟩
        rw [List.flatten_cons, List.mem_append] at he
        exact he.elim (fun he => hsource ⟨e, he, hsame⟩) fun he => hnone e he hsame

/-- The template that sources give is that of the last entry with the name. -/
theorem LastGiven.lastWith (distinct : ∀ source ∈ sources, DistinctNames source)
    (h : LastGiven sources wanted (some template)) :
    ∃ name, LastWith (SameName · wanted) sources.flatten (name, template) := by
  cases h with
  | @given earlier later source name _ heq hmem hsame hlater =>
    subst heq
    obtain ⟨before, after, rfl⟩ := List.append_of_mem hmem
    have hsource : DistinctNames (before ++ (name, template) :: after) :=
      distinct _ (List.mem_append_right earlier List.mem_cons_self)
    have hafter : ∀ e ∈ after, ¬ SameName name e.1 :=
      (List.pairwise_cons.mp (List.pairwise_append.mp hsource).2.1).1
    refine ⟨name, earlier.flatten ++ before, after ++ later.flatten, by simp, hsame, ?_⟩
    intro e he hsame'
    rcases List.mem_append.mp he with he | he
    · exact hafter e he (hsame.trans hsame'.symm)
    · exact hlater e he hsame'

theorem LastGiven.of_none (h : LastGiven sources wanted none) :
    ∀ e ∈ sources.flatten, ¬ SameName e.1 wanted := by
  cases h with
  | absent hnone => exact hnone

/-- Sources whose names are distinct ignoring case give one answer. -/
theorem LastGiven.unique (distinct : ∀ source ∈ sources, DistinctNames source)
    {answer answer' : Option Template} (h : LastGiven sources wanted answer)
    (h' : LastGiven sources wanted answer') : answer = answer' := by
  have hmem : ∀ {template}, LastGiven sources wanted (some template) →
      ∃ e ∈ sources.flatten, SameName e.1 wanted := by
    intro template hgiven
    obtain ⟨name, before, after, heq, hsame, -⟩ := hgiven.lastWith distinct
    exact ⟨(name, template), by simp [heq], hsame⟩
  cases answer with
  | none => cases answer' with
    | none => rfl
    | some template' =>
      obtain ⟨e, he, hsame⟩ := hmem h'
      exact absurd hsame (h.of_none e he)
  | some template => cases answer' with
    | none =>
      obtain ⟨e, he, hsame⟩ := hmem h
      exact absurd hsame (h'.of_none e he)
    | some template' =>
      obtain ⟨name, hlast⟩ := h.lastWith distinct
      obtain ⟨name', hlast'⟩ := h'.lastWith distinct
      exact congrArg (fun e : String × Template => some e.2) (hlast.unique hlast')

/-! ### When it finds that -/

/-- The first spelling of a name stands for the template that the sources should give: the last
template under this very spelling is the last one of the name ignoring case. -/
def FirstSpellingHolds (sources : List (Entries Template)) (wanted : String) : Prop :=
  ∃ spelling template, FirstSpelling sources.flatten wanted spelling ∧
    LastUnder sources.flatten spelling template ∧ LastGiven sources wanted (some template)

/-- All sources spell a name alike, and not as the reserved one. -/
def SpelledAlike (sources : List (Entries Template)) (wanted : String) : Prop :=
  ∀ e ∈ sources.flatten, SameName e.1 wanted → e.1 ≠ "__proto__" ∧
    ∀ e' ∈ sources.flatten, SameName e'.1 wanted → e'.1 = e.1

theorem lastGiven_find?_iff (sources : List (Entries Template)) (wanted : String) :
    LastGiven sources wanted ((ofSources sources).find? wanted) ↔
      (∀ e ∈ sources.flatten, ¬ SameName e.1 wanted) ∨ FirstSpellingHolds sources wanted := by
  have hfound := found_ofSources sources wanted
  rw [find?_eq]
  generalize (ofSources sources).named? wanted = found at hfound
  cases hfound with
  | @first spelling template hfirst hlast =>
    constructor
    · exact fun h => .inr ⟨spelling, template, hfirst, hlast, h⟩
    · rintro (hnone | ⟨spelling', template', hfirst', hlast', h⟩)
      · obtain ⟨t, before, after, heq, hsame, -, -⟩ := hfirst
        exact absurd hsame (hnone (spelling, t) (by simp [heq]))
      · obtain rfl := hfirst.unique hfirst'
        obtain rfl : template = template' := congrArg Prod.snd (hlast.unique hlast')
        exact h
  | absent hreserved =>
    constructor
    · exact fun h => .inl h.of_none
    · rintro (hnone | ⟨spelling, _, ⟨t, before, after, heq, hsame, hne, -⟩, -, -⟩)
      · exact .absent hnone
      · exact absurd (hreserved (spelling, t) (by simp [heq]) hsame) hne

/-- Under one spelling the last template of a name is the last one ignoring case. -/
theorem LastGiven.lastUnder (distinct : ∀ source ∈ sources, DistinctNames source)
    (alike : SpelledAlike sources wanted) (hfirst : FirstSpelling sources.flatten wanted spelling)
    (h : LastGiven sources wanted (some template)) :
    LastUnder sources.flatten spelling template := by
  obtain ⟨first, earlier, later, hfirstEq, hfirstSame, -, -⟩ := hfirst
  obtain ⟨name, before, after, heq, hsame, hafter⟩ := h.lastWith distinct
  have hname : name = spelling :=
    (alike (spelling, first) (by simp [hfirstEq]) hfirstSame).2 (name, template) (by simp [heq])
      hsame
  subst hname
  refine ⟨before, after, heq, rfl, fun e he hother => hafter e he ?_⟩
  rw [hother]
  exact hsame

/-- A name that all sources spell alike finds what it should. -/
theorem lastGiven_of_spelledAlike (distinct : ∀ source ∈ sources, DistinctNames source)
    (alike : SpelledAlike sources wanted) :
    LastGiven sources wanted ((ofSources sources).find? wanted) := by
  refine (lastGiven_find?_iff sources wanted).mpr ?_
  obtain ⟨answer, hgiven⟩ := exists_lastGiven sources wanted
  cases answer with
  | none => exact .inl hgiven.of_none
  | some template =>
    obtain ⟨name, before, after, heq, hsame, -⟩ := hgiven.lastWith distinct
    have hmem : (name, template) ∈ sources.flatten := by simp [heq]
    have hfound := found_ofSources sources wanted
    generalize (ofSources sources).named? wanted = found at hfound
    cases hfound with
    | absent hreserved =>
      exact absurd (hreserved _ hmem hsame) (alike _ hmem hsame).1
    | @first spelling _ hfirst =>
      exact .inr ⟨spelling, template, hfirst, hgiven.lastUnder distinct alike hfirst, hgiven⟩

/-- **When a catalog is built in which a name finds the template of the last source that has it
ignoring case**: exactly if no template is refused, and no source has the name or the first spelling
of it stands for that template. The latter is so if all sources spell it alike, and not as the
reserved name. -/
theorem build_lastGiven_iff (distinct : ∀ source ∈ sources, DistinctNames source)
    (wanted : String) :
    (∃! answer, LastGiven sources wanted answer) ∧
    ((∃ catalog, build sources = .ok catalog ∧
        LastGiven sources wanted (catalog.find? wanted)) ↔
      (∀ e, ¬ Refused sources.flatten e) ∧
        ((∀ e ∈ sources.flatten, ¬ SameName e.1 wanted) ∨ FirstSpellingHolds sources wanted)) ∧
    (SpelledAlike sources wanted → (∀ e, ¬ Refused sources.flatten e) →
      ∃ catalog, build sources = .ok catalog ∧
        LastGiven sources wanted (catalog.find? wanted)) := by
  refine ⟨?_, ?_, ?_⟩
  · obtain ⟨answer, hgiven⟩ := exists_lastGiven sources wanted
    exact ⟨answer, hgiven, fun _ h => h.unique distinct hgiven⟩
  · rw [← lastGiven_find?_iff]
    constructor
    · rintro ⟨catalog, hbuild, hgiven⟩
      obtain ⟨hnone, rfl⟩ := build_eq_ok_iff.mp hbuild
      exact ⟨hnone, hgiven⟩
    · rintro ⟨hnone, hgiven⟩
      exact ⟨_, build_eq_ok_iff.mpr ⟨hnone, rfl⟩, hgiven⟩
  · intro alike hnone
    exact ⟨_, build_eq_ok_iff.mpr ⟨hnone, rfl⟩, lastGiven_of_spelledAlike distinct alike⟩

/-- A template over a built-in one of the same spelling is found in any case. -/
theorem build_lastGiven_github :
    let enterprise : Template := { clientName := some "GitHub Enterprise" }
    let sources : List (Entries Template) := [Catalog.builtIn, [("github", enterprise)]]
    (∀ source ∈ sources, DistinctNames source) ∧ SpelledAlike sources "GitHub" ∧
      (∀ e, ¬ Refused sources.flatten e) ∧
      ∃ catalog, build sources = .ok catalog ∧
        LastGiven sources "GitHub" (catalog.find? "GitHub") := by
  intro enterprise sources
  have distinct : ∀ source ∈ sources, DistinctNames source := by decide +kernel
  have alike : SpelledAlike sources "GitHub" := by
    unfold SpelledAlike
    decide +kernel
  have hnone : ∀ e, ¬ Refused sources.flatten e := by
    have hbuild : build sources = .ok (ofSources sources) := by decide +kernel
    exact (build_eq_ok_iff.mp hbuild).1
  exact ⟨distinct, alike, hnone, (build_lastGiven_iff distinct "GitHub").2.2 alike hnone⟩

/-- A template over a built-in one of another spelling is not found, not even under its own, and one
with the reserved name is not found at all; after it a name may be refused. -/
theorem build_not_lastGiven :
    let enterprise : Template := { clientName := some "GitHub Enterprise" }
    let sources : List (Entries Template) := [Catalog.builtIn, [("GitHub", enterprise)]]
    ((∀ source ∈ sources, DistinctNames source) ∧
      (∃ catalog, build sources = .ok catalog ∧ catalog.find? "GitHub" = some .github) ∧
      LastGiven sources "GitHub" (some enterprise) ∧
      ¬ ∃ catalog, build sources = .ok catalog ∧
        LastGiven sources "GitHub" (catalog.find? "GitHub")) ∧
    ((∃ catalog, build [[("__proto__", enterprise)]] = .ok catalog ∧
        catalog.find? "__proto__" = none) ∧
      ¬ LastGiven [[("__proto__", enterprise)]] "__proto__" none) ∧
    build [[("__proto__", enterprise)], [("clientName", enterprise)]] =
      .error ⟨"clientName", false⟩ := by
  intro enterprise sources
  have distinct : ∀ source ∈ sources, DistinctNames source := by decide +kernel
  have hbuild : build sources = .ok (ofSources sources) := by decide +kernel
  have hfind : (ofSources sources).find? "GitHub" = some .github := by decide +kernel
  have hgiven : LastGiven sources "GitHub" (some enterprise) :=
    .given [Catalog.builtIn] rfl List.mem_cons_self rfl (by decide)
  refine ⟨⟨distinct, ⟨_, hbuild, hfind⟩, hgiven, ?_⟩, ⟨?_, ?_⟩, by decide +kernel⟩
  · rintro ⟨catalog, hcatalog, h⟩
    obtain rfl := (build_eq_ok_iff.mp hcatalog).2
    rw [hfind] at h
    exact absurd (h.unique distinct hgiven) (by decide +kernel)
  · exact ⟨[], by decide +kernel, by decide +kernel⟩
  · intro h
    exact h.of_none ("__proto__", enterprise) (by simp) rfl

end

end Catalog

end OAuthClient
