import OAuthClient.Proofs.Resolution

/-!
# What resolving registrations logs

Entries are resolved in the order of their keys, and each leaves its lines in the log: that it has
no client id, or a warning for each choice that is given and unknown. What is given is decided after
the template has completed the entry. The logger chooses which of these lines are kept and has no
other influence.

## Main statements

* `Logger.restrict_flatMap`: restricting a log is restricting its parts.
* `Resolution.ChoiceLog`, `Resolution.EntryLog`: the lines for a choice and for an entry, in the
  words of the requirement.
* `Resolution.entryLog_one`, `Resolution.one_snd`: the lines of one entry, and what a logger keeps
  of them.
* `Resolution.all_logsExactly`: the log of a map of properties.
-/

namespace OAuthClient

namespace Logger

/-- Restricting a log is restricting its parts. -/
theorem restrict_append (logger : Logger) (before after : List LogLine) :
    logger.restrict (before ++ after) = logger.restrict before ++ logger.restrict after :=
  List.filter_append ..

theorem restrict_flatMap {α : Type} (logger : Logger) (lines : α → List LogLine) (xs : List α) :
    logger.restrict (xs.flatMap lines) = xs.flatMap fun x => logger.restrict (lines x) := by
  induction xs with
  | nil => rfl
  | cons x xs ih =>
    rw [List.flatMap_cons, restrict_append, ih, List.flatMap_cons]

/-- What a logger keeps of a line is what it keeps of the same line written by a full one. -/
theorem write_eq_restrict_full (logger : Logger) (line : LogLine) :
    logger.write line = logger.restrict (full.write line) := by
  rw [full_write, write_eq_restrict]

end Logger

namespace Resolution

/-! ### The lines in the words of the requirement -/

/-- The warning about a choice that is unknown. -/
def unsupported (what id name : String) : LogLine where
  level := .warn
  text := s!"Client registration '{id}' has unsupported {what} '{name}'"

/-- The line about an entry without a client id. -/
def skipping (id : String) : LogLine where
  level := .debug
  text := s!"Client registration '{id}' has no client-id, skipping"

/-- The lines about a choice: one warning if it is neither absent nor empty and not among those
known, and else none. -/
inductive ChoiceLog (known : List String) (what id : String) :
    Option String → List LogLine → Prop
  | silent {value : Option String} :
      (∀ name, value = some name → name = "" ∨ name ∈ known) → ChoiceLog known what id value []
  | warned {name : String} :
      name ≠ "" → name ∉ known → ChoiceLog known what id (some name) [unsupported what id name]

/-- The lines about an entry: that it is skipped and nothing else, or those about the two choices
that it has after its template has completed it. -/
inductive EntryLog (catalog : Catalog) : String × RegistrationProperties → List LogLine → Prop
  | skipped {id : String} {p : RegistrationProperties} :
      (p.clientId = none ∨ p.clientId = some "") → EntryLog catalog (id, p) [skipping id]
  | resolved {id clientId : String} {p : RegistrationProperties} {template : Option Template}
      {methodLog grantLog : List LogLine} :
      p.clientId = some clientId → clientId ≠ "" →
      catalog.FirstNamed (p.templateId.getD id) template →
      ChoiceLog ["basic", "post"] "client authentication method" id
        (textOf (·.clientAuthenticationMethod) template p) methodLog →
      ChoiceLog ["authorization_code"] "authorization grant type" id
        (textOf (·.authorizationGrantType) template p) grantLog →
      EntryLog catalog (id, p) (methodLog ++ grantLog)

/-! ### One choice -/

theorem lookup_eq_none_iff {α : Type} {choices : List (String × α)} {name : String} :
    choices.lookup name = none ↔ name ∉ choices.map (·.1) := by
  rw [List.lookup_eq_none_iff]
  simp only [List.mem_map, not_exists, not_and, bne_iff_ne, ne_eq]
  exact ⟨fun h e he heq => h e he heq.symm, fun h e he heq => h e he heq.symm⟩

/-- A full logger writes the lines about a choice. -/
theorem choiceLog_choose {α : Type} (choices : List (String × α)) (value : Option String)
    (what id : String) :
    ChoiceLog (choices.map (·.1)) what id value (choose choices value what id .full).2 := by
  unfold choose
  split
  · exact .silent nofun
  · refine .silent ?_
    intro name hname
    exact .inl (Option.some.inj hname).symm
  · next name hne =>
    cases h : choices.lookup name with
    | some choice =>
      refine .silent ?_
      intro other hother
      obtain rfl := Option.some.inj hother
      refine .inr (Classical.not_not.mp fun hnot => ?_)
      rw [lookup_eq_none_iff.mpr hnot] at h
      cases h
    | none =>
      rw [Logger.full_write]
      refine .warned ?_ (lookup_eq_none_iff.mp h)
      rintro rfl
      exact hne rfl

/-- A logger keeps the lines about a choice that are on its levels. -/
theorem choose_snd {α : Type} (choices : List (String × α)) (value : Option String)
    (what id : String) (logger : Logger) : (choose choices value what id logger).2 =
      logger.restrict (choose choices value what id .full).2 := by
  unfold choose
  split
  · rfl
  · rfl
  · next name _ =>
    cases choices.lookup name with
    | some choice => rfl
    | none => exact logger.write_eq_restrict_full _

/-! ### One entry -/

theorem one_snd_of_skipped {p : RegistrationProperties}
    (h : p.clientId = none ∨ p.clientId = some "") (catalog : Catalog) (id : String)
    (logger : Logger) : (one catalog id p logger).2 = logger.write (skipping id) := by
  unfold one
  rcases h with h | h
  · simp only [clientId_effective, h]
    rfl
  · simp only [clientId_effective, h]
    rfl

/-- The lines about an entry with a client id are those about its two choices. -/
theorem one_snd_of_resolved {p : RegistrationProperties} {clientId : String}
    (h : p.clientId = some clientId) (hne : clientId ≠ "") (catalog : Catalog) (id : String)
    (logger : Logger) : (one catalog id p logger).2 =
      (choose authenticationMethods (effective catalog id p).clientAuthenticationMethod
        "client authentication method" id logger).2 ++
      (choose grantTypes (effective catalog id p).authorizationGrantType
        "authorization grant type" id logger).2 := by
  unfold one
  simp only [clientId_effective, h]
  rfl

theorem skipped_or_resolved (p : RegistrationProperties) :
    (p.clientId = none ∨ p.clientId = some "") ∨ ∃ clientId, p.clientId = some clientId ∧
      clientId ≠ "" := by
  cases h : p.clientId with
  | none => exact .inl (.inl rfl)
  | some clientId =>
    by_cases hempty : clientId = ""
    · exact .inl (.inr (congrArg some hempty))
    · exact .inr ⟨clientId, rfl, hempty⟩

/-- A full logger writes the lines about an entry. -/
theorem entryLog_one (catalog : Catalog) (id : String) (p : RegistrationProperties) :
    EntryLog catalog (id, p) (one catalog id p .full).2 := by
  -- What the code looks at are the choices that the template has completed.
  have hmethod : (effective catalog id p).clientAuthenticationMethod =
      textOf (·.clientAuthenticationMethod) (catalog.find? (p.templateId.getD id)) p :=
    get_effective (·.clientAuthenticationMethod) (fun _ _ => rfl) catalog id p
  have hgrant : (effective catalog id p).authorizationGrantType =
      textOf (·.authorizationGrantType) (catalog.find? (p.templateId.getD id)) p :=
    get_effective (·.authorizationGrantType) (fun _ _ => rfl) catalog id p
  rcases skipped_or_resolved p with h | ⟨clientId, h, hne⟩
  · rw [one_snd_of_skipped h, Logger.full_write]
    exact .skipped h
  · rw [one_snd_of_resolved h hne, hmethod, hgrant]
    exact .resolved h hne (catalog.firstNamed_find? _)
      (choiceLog_choose authenticationMethods ..) (choiceLog_choose grantTypes ..)

/-- A logger keeps the lines about an entry that are on its levels. -/
theorem one_snd (catalog : Catalog) (id : String) (p : RegistrationProperties) (logger : Logger) :
    (one catalog id p logger).2 = logger.restrict (one catalog id p .full).2 := by
  rcases skipped_or_resolved p with h | ⟨clientId, h, hne⟩
  · rw [one_snd_of_skipped h, one_snd_of_skipped h]
    exact logger.write_eq_restrict_full _
  · rw [one_snd_of_resolved h hne, one_snd_of_resolved h hne, Logger.restrict_append]
    exact congrArg₂ (· ++ ·) (choose_snd ..) (choose_snd ..)

/-! ### All entries -/

theorem all_snd (catalog : Catalog) (registrations : Entries RegistrationProperties)
    (logger : Logger) : (all catalog registrations logger).2 =
      registrations.flatMap fun e => (one catalog e.1 e.2 logger).2 :=
  List.flatMap_map ..

/-- What the log of resolving some registrations is, and what depends on the logger. -/
structure LogsExactly (catalog : Catalog) (registrations : Entries RegistrationProperties) :
    Prop where
  /-- With all levels the log has the lines about each entry, in the order of the entries. -/
  full : ∃ logs, List.Forall₂ (EntryLog catalog) registrations logs ∧
    (all catalog registrations .full).2 = logs.flatten
  /-- With fewer levels it has those of the lines that are on one of them. -/
  restricted : ∀ logger, (all catalog registrations logger).2 =
    logger.restrict (all catalog registrations .full).2
  /-- The repository is the one that there is without a logger. -/
  repository : ∀ logger, (all catalog registrations logger).1 = (all catalog registrations {}).1
  ifConfigured : ∀ logger,
    (Resolution.ifConfigured catalog registrations logger).1 =
      (Resolution.ifConfigured catalog registrations {}).1
  /-- Nothing is logged if nothing is resolved. -/
  absent : ∀ logger, (Resolution.ifConfigured catalog registrations logger).1 = none →
    (Resolution.ifConfigured catalog registrations logger).2 = []
  /-- If something is resolved, the log is that of resolving all. -/
  present : ∀ logger, (Resolution.ifConfigured catalog registrations logger).1 ≠ none →
    (Resolution.ifConfigured catalog registrations logger).2 =
      (all catalog registrations logger).2

/-- **Resolving logs exactly what each entry calls for**, and the logger decides about nothing but
which of the lines are kept. -/
theorem all_logsExactly (catalog : Catalog) (registrations : Entries RegistrationProperties) :
    LogsExactly catalog registrations where
  full := by
    refine ⟨registrations.map fun e => (one catalog e.1 e.2 .full).2, ?_, ?_⟩
    · rw [List.forall₂_map_right_iff]
      exact List.forall₂_same.mpr fun e _ => entryLog_one catalog e.1 e.2
    · rw [all_snd, List.flatMap_def]
  restricted logger := by
    rw [all_snd, all_snd, Logger.restrict_flatMap]
    exact congrArg registrations.flatMap (funext fun e => one_snd catalog e.1 e.2 logger)
  repository logger := all_fst_logger ..
  ifConfigured logger := by
    unfold Resolution.ifConfigured
    split
    · rfl
    · exact congrArg some (all_fst_logger ..)
  absent logger h := by
    unfold Resolution.ifConfigured at h ⊢
    split at h
    · next hempty => rw [if_pos hempty]
    · cases h
  present logger h := by
    unfold Resolution.ifConfigured at h ⊢
    split at h
    · exact absurd rfl h
    · next hconfigured => rw [if_neg hconfigured]

-- The entry without a client id is not warned about, and the empty choice is filled by the
-- template.
example : (all [("a", { authorizationGrantType := some "implicit" })]
    [("b", { authorizationGrantType := some "code" }),
     ("A", { clientId := some "c", clientAuthenticationMethod := some "jwt"
             authorizationGrantType := some "" })] .full).2 =
    [skipping "b", unsupported "client authentication method" "A" "jwt",
     unsupported "authorization grant type" "A" "implicit"] := by decide +kernel

end Resolution

end OAuthClient
