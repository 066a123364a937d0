import Mathlib.Data.List.Induction
import OAuthClient.Template

/-!
# Templates that a catalog refuses

A template under the reserved name closes the names of its fields, until the next one is given under
this name. A catalog can be built of sources unless they give a template under a new name that is
closed.

## Main statements

* `Catalog.LastUnder`: the template that is given last under exactly some name.
* `Template.HasField`: a template has a field of some name.
* `Catalog.Refused`: a template that is given under a closed name.
* `Catalog.closedName?_eq_none_iff`: when no template is; `Catalog.build_eq_ok_iff` says when a
  catalog is built.
-/

namespace OAuthClient

universe u

/-! ### Fields -/

/-- A template has a field of some name. -/
def Template.HasField (t : Template) : String → Prop
  | "clientAuthenticationMethod" => t.clientAuthenticationMethod.isSome
  | "authorizationGrantType" => t.authorizationGrantType.isSome
  | "redirectUri" => t.redirectUri.isSome
  | "scope" => t.scope.isSome
  | "authorizationUri" => t.authorizationUri.isSome
  | "tokenUri" => t.tokenUri.isSome
  | "userInfoUri" => t.userInfoUri.isSome
  | "jwkSetUri" => t.jwkSetUri.isSome
  | "clientName" => t.clientName.isSome
  | "clientAlias" => t.clientAlias.isSome
  | "clientId" => t.clientId.isSome
  | "clientSecret" => t.clientSecret.isSome
  | _ => False

theorem Template.hasField_iff {t : Template} {name : String} :
    t.HasField name ↔ name ∈ t.fieldNames := by
  constructor
  · intro h
    unfold HasField at h
    split at h <;> simp_all [fieldNames]
  · intro h
    simp only [fieldNames, List.mem_map, List.mem_filter, Prod.exists] at h
    obtain ⟨_, present, ⟨hfield, hpresent⟩, rfl⟩ := h
    simp only [List.mem_cons, Prod.mk.injEq, List.not_mem_nil, or_false] at hfield
    rcases hfield with ⟨rfl, rfl⟩ | ⟨rfl, rfl⟩ | ⟨rfl, rfl⟩ | ⟨rfl, rfl⟩ | ⟨rfl, rfl⟩ | ⟨rfl, rfl⟩ |
      ⟨rfl, rfl⟩ | ⟨rfl, rfl⟩ | ⟨rfl, rfl⟩ | ⟨rfl, rfl⟩ | ⟨rfl, rfl⟩ | ⟨rfl, rfl⟩
    all_goals exact hpresent

/-! ### Entries of a list -/

/-- A list has an entry with those before it: the first one with none, and each of the rest with the
first one before it too. -/
theorem forall_split_cons {α : Type u} {P : List α → α → Prop} {x : α} {xs : List α} :
    (∀ before y after, x :: xs = before ++ y :: after → P before y) ↔
      P [] x ∧ ∀ before y after, xs = before ++ y :: after → P (x :: before) y := by
  constructor
  · exact fun h => ⟨h [] x xs rfl, fun before y after heq => h (x :: before) y after (by simp [heq])⟩
  · rintro ⟨hhead, htail⟩ before y after heq
    rcases List.cons_eq_append_iff.mp heq with ⟨rfl, hsplit⟩ | ⟨rest, rfl, hsplit⟩
    · obtain ⟨rfl, -⟩ := List.cons.inj hsplit
      exact hhead
    · exact htail rest y after hsplit

namespace Catalog

variable {given before : List (String × Template)} {e e' : String × Template} {name : String}
  {template : Template}

/-! ### The last template under a name -/

/-- The last entry whose name has some property. -/
def LastWith (P : String → Prop) (given : List (String × Template)) (e : String × Template) :
    Prop :=
  ∃ before after, given = before ++ e :: after ∧ P e.1 ∧ ∀ e' ∈ after, ¬ P e'.1

/-- The template that is given last under exactly some name. -/
def LastUnder (given : List (String × Template)) (name : String) (template : Template) : Prop :=
  LastWith (· = name) given (name, template)

theorem LastWith.unique {P : String → Prop} {given : List (String × Template)}
    {e e' : String × Template} (h : LastWith P given e) (h' : LastWith P given e') : e = e' := by
  obtain ⟨before, after, rfl, he, hafter⟩ := h
  obtain ⟨before', after', heq, he', hafter'⟩ := h'
  rcases List.append_eq_append_iff.mp heq with ⟨between, -, heq⟩ | ⟨between, -, heq⟩
  · cases between with
    | nil => exact (List.cons.inj heq).1
    | cons x between =>
      refine absurd he' (hafter e' ?_)
      rw [(List.cons.inj heq).2]
      exact List.mem_append_right between List.mem_cons_self
  · cases between with
    | nil => exact (List.cons.inj heq).1.symm
    | cons x between =>
      refine absurd he (hafter' e ?_)
      rw [(List.cons.inj heq).2]
      exact List.mem_append_right between List.mem_cons_self

theorem LastUnder.append_singleton (h : LastUnder given name template) {e : String × Template}
    (hne : e.1 ≠ name) : LastUnder (given ++ [e]) name template := by
  obtain ⟨before, after, rfl, -, hafter⟩ := h
  refine ⟨before, after ++ [e], by simp, rfl, fun e' he' => ?_⟩
  rcases List.mem_append.mp he' with he' | he'
  · exact hafter e' he'
  · exact List.mem_singleton.mp he' ▸ hne

theorem lastUnder_append_singleton (given : List (String × Template)) (name : String)
    (template : Template) : LastUnder (given ++ [(name, template)]) name template :=
  ⟨given, [], rfl, rfl, fun _ he => absurd he List.not_mem_nil⟩

theorem LastUnder.of_append_singleton (h : LastUnder (given ++ [e]) name template)
    (hne : e.1 ≠ name) : LastUnder given name template := by
  obtain ⟨before, after, heq, -, hafter⟩ := h
  rcases List.eq_nil_or_concat after with rfl | ⟨after, last, rfl⟩
  · obtain ⟨-, he⟩ := List.append_inj' heq rfl
    obtain rfl := (List.cons.inj he).1
    exact absurd rfl hne
  · rw [List.concat_eq_append, ← List.cons_append, ← List.append_assoc] at heq
    obtain ⟨rfl, -⟩ := List.append_inj' heq rfl
    exact ⟨before, after, rfl, rfl, fun e' he' => hafter e' (by simp [he'])⟩

/-! ### Closed names -/

/-- The names that are closed after templates are given. -/
def closedAfter (closed : List String) (given : List (String × Template)) : List String :=
  given.foldl (fun closed e => if e.1 = reservedName then e.2.fieldNames else closed) closed

theorem mem_closedAfter_iff : name ∈ closedAfter [] given ↔
    ∃ closing, LastUnder given reservedName closing ∧ closing.HasField name := by
  simp only [Template.hasField_iff]
  induction given using List.reverseRecOn with
  | nil =>
    refine iff_of_false List.not_mem_nil ?_
    rintro ⟨_, ⟨before, after, heq, -⟩, -⟩
    simp at heq
  | append_singleton given e ih =>
    rw [closedAfter, List.foldl_append]
    show name ∈ (if e.1 = reservedName then e.2.fieldNames else closedAfter [] given) ↔ _
    by_cases hreserved : e.1 = reservedName
    · have hlast : LastUnder (given ++ [e]) reservedName e.2 :=
        hreserved ▸ lastUnder_append_singleton given e.1 e.2
      rw [if_pos hreserved]
      constructor
      · exact fun h => ⟨e.2, hlast, h⟩
      · rintro ⟨closing, hclosing, h⟩
        obtain rfl : closing = e.2 := congrArg Prod.snd (hclosing.unique hlast)
        exact h
    · rw [if_neg hreserved, ih]
      refine exists_congr fun closing => and_congr_left' ?_
      exact ⟨fun h => h.append_singleton hreserved, fun h => h.of_append_singleton hreserved⟩

/-- After some templates another one is given under a new name that is closed. -/
def ClosedAt (present closed : List String) (before : List (String × Template))
    (e : String × Template) : Prop :=
  e.1 ≠ reservedName ∧ e.1 ∉ present ∧ (∀ e' ∈ before, e'.1 ≠ e.1) ∧ e.1 ∈ closedAfter closed before

section

variable {present closed : List String}

theorem closedAt_nil :
    ClosedAt present closed [] e ↔ e.1 ≠ reservedName ∧ e.1 ∈ closed ∧ e.1 ∉ present := by
  simp only [ClosedAt, closedAfter, List.foldl_nil, List.not_mem_nil, false_imp_iff, implies_true,
    true_and, and_comm]

theorem closedAt_cons_of_reserved (h : e.1 = reservedName) :
    ClosedAt present closed (e :: before) e' ↔ ClosedAt present e.2.fieldNames before e' := by
  have hafter : closedAfter closed (e :: before) = closedAfter e.2.fieldNames before := by
    rw [closedAfter, List.foldl_cons, if_pos h]
    rfl
  unfold ClosedAt
  rw [hafter, List.forall_mem_cons, h]
  exact ⟨fun ⟨hne, hpresent, hbefore, hmem⟩ => ⟨hne, hpresent, hbefore.2, hmem⟩,
    fun ⟨hne, hpresent, hbefore, hmem⟩ => ⟨hne, hpresent, ⟨hne.symm, hbefore⟩, hmem⟩⟩

theorem closedAt_cons (h : e.1 ≠ reservedName) :
    ClosedAt present closed (e :: before) e' ↔ ClosedAt (e.1 :: present) closed before e' := by
  have hafter : closedAfter closed (e :: before) = closedAfter closed before := by
    rw [closedAfter, List.foldl_cons, if_neg h]
    rfl
  unfold ClosedAt
  rw [hafter, List.forall_mem_cons, List.mem_cons, not_or]
  exact ⟨fun ⟨hne, hpresent, hbefore, hmem⟩ => ⟨hne, ⟨Ne.symm hbefore.1, hpresent⟩, hbefore.2, hmem⟩,
    fun ⟨hne, hpresent, hbefore, hmem⟩ => ⟨hne, hpresent.2, ⟨Ne.symm hpresent.1, hbefore⟩, hmem⟩⟩

/-- The templates are not refused just if none is given under a new name that is closed. -/
theorem closedName?_eq_none_iff : closedName? present closed given = none ↔
    ∀ before e after, given = before ++ e :: after → ¬ ClosedAt present closed before e := by
  induction given generalizing present closed with
  | nil => simp [closedName?]
  | cons e given ih =>
    rw [forall_split_cons, closedAt_nil, closedName?]
    by_cases hreserved : e.1 = reservedName
    · rw [if_pos hreserved, ih, and_iff_right fun h => h.1 hreserved]
      simp only [closedAt_cons_of_reserved hreserved]
    · rw [if_neg hreserved]
      by_cases hclosed : e.1 ∈ closed ∧ e.1 ∉ present
      · rw [if_pos hclosed]
        exact iff_of_false (Option.some_ne_none _) fun h => h.1 ⟨hreserved, hclosed⟩
      · rw [if_neg hclosed, ih, and_iff_right fun h => hclosed h.2]
        simp only [closedAt_cons hreserved]

end

/-! ### Refused templates -/

/-- A template is refused if it is given under a new name, and the last one before it that is given
under the reserved name has a field of this name. -/
def Refused (given : List (String × Template)) (e : String × Template) : Prop :=
  ∃ before after closing, given = before ++ e :: after ∧ e.1 ≠ "__proto__" ∧
    (∀ e' ∈ before, e'.1 ≠ e.1) ∧ LastUnder before "__proto__" closing ∧ closing.HasField e.1

theorem refused_iff :
    Refused given e ↔ ∃ before after, given = before ++ e :: after ∧ ClosedAt [] [] before e := by
  unfold Refused ClosedAt
  simp only [mem_closedAfter_iff]
  constructor
  · rintro ⟨before, after, closing, heq, hne, hnew, hlast, hfield⟩
    exact ⟨before, after, heq, hne, List.not_mem_nil, hnew, closing, hlast, hfield⟩
  · rintro ⟨before, after, heq, hne, -, hnew, closing, hlast, hfield⟩
    exact ⟨before, after, closing, heq, hne, hnew, hlast, hfield⟩

/-- A catalog is built of sources just if none of their templates is refused. -/
theorem build_eq_ok_iff {sources : List (Entries Template)} {catalog : Catalog} :
    build sources = .ok catalog ↔
      (∀ e, ¬ Refused sources.flatten e) ∧ catalog = ofSources sources := by
  have hnone : closedName? [] [] sources.flatten = none ↔ ∀ e, ¬ Refused sources.flatten e := by
    rw [closedName?_eq_none_iff]
    constructor
    · intro h e hrefused
      obtain ⟨before, after, heq, hclosed⟩ := refused_iff.mp hrefused
      exact h before e after heq hclosed
    · exact fun h before e after heq hclosed => h e (refused_iff.mpr ⟨before, after, heq, hclosed⟩)
  rw [← hnone, build]
  cases closedName? [] [] sources.flatten with
  | none => rw [Except.ok.injEq, and_iff_right rfl, eq_comm]
  | some closed => exact iff_of_false nofun fun h => Option.some_ne_none closed h.1

end Catalog

end OAuthClient
