import Mathlib.Data.List.Basic
import OAuthClient.Login
import OAuthClient.Proofs.Text.Form

/-!
# How redirect URIs are expanded

A redirect URI is read once, from left to right. Where a placeholder with a known name starts, its
value stands in the expanded text as it is; every other character stays. The expanded text is
determined by this rule, and the laws about parts of a text follow from it.

## Main statements

* `Substituted`: the rule, as a relation between a text and what is substituted for it.
* `expandChars_eq_iff`: expanding gives what the rule says, and only that.
* `RedirectContext.expandText`: the text that a redirect URI is expanded to;
  `RedirectContext.valueOf?`: the variables with their values.
* `RedirectContext.singlePass`: the laws of expanding a text.
* `RedirectContext.expand_baseUrl_agrees`: the address of the application in one variable and
  spelled out in several.
-/

namespace OAuthClient

variable {value : String → Option String} {name cs rest text : List Char}

/-! ### Names in braces -/

/-- Characters that can be the name of a variable. -/
structure IsWord (name : List Char) : Prop where
  ne_nil : name ≠ []
  chars : ∀ c ∈ name, isWordChar c

/-- The placeholder with a name. -/
def braced (name : List Char) : List Char := '\x7b' :: name ++ ['\x7d']

/-- A text starts with a placeholder of which the value is known. -/
def StartsKnown (value : String → Option String) (cs : List Char) : Prop :=
  ∃ name rest v, IsWord name ∧ value (String.ofList name) = some v ∧ cs = braced name ++ rest

/-- A text ends in an opening brace and word characters. -/
def EndsOpen (cs : List Char) : Prop :=
  ∃ before word, cs = before ++ '\x7b' :: word ∧ ∀ c ∈ word, isWordChar c

theorem not_mem_of_wordChars {word : List Char} (h : ∀ c ∈ word, isWordChar c) {c : Char}
    (hc : isWordChar c = false) : c ∉ word := by
  intro hmem
  rw [h c hmem] at hc
  cases hc

theorem IsWord.brace_not_mem (h : IsWord name) : '\x7d' ∉ name :=
  not_mem_of_wordChars h.chars rfl

/-- A text starts with one placeholder at most. -/
theorem eq_of_braced_append_eq {name' rest' : List Char} (h : IsWord name) (h' : IsWord name')
    (heq : braced name ++ rest = braced name' ++ rest') : name = name' ∧ rest = rest' := by
  have htail : name ++ '\x7d' :: rest = name' ++ '\x7d' :: rest' := by
    simpa [braced] using heq
  have hname : name = name' := by
    rw [← Form.takeWhile_ne_append_cons h.brace_not_mem rest, htail,
      Form.takeWhile_ne_append_cons h'.brace_not_mem]
  subst hname
  exact ⟨rfl, (List.cons.inj (List.append_cancel_left htail)).2⟩

theorem EndsOpen.append (h : EndsOpen cs) (before : List Char) : EndsOpen (before ++ cs) := by
  obtain ⟨start, word, rfl, hword⟩ := h
  exact ⟨before ++ start, word, (List.append_assoc ..).symm, hword⟩

/-! ### Reading from left to right -/

theorem expandChars_cons_of_ne {c : Char} (h : c ≠ '\x7b') (cs : List Char) :
    expandChars value none (c :: cs) = c :: expandChars value none cs := by
  simp [expandChars, placeholderStep, h]

theorem expandChars_brace (cs : List Char) :
    expandChars value none ('\x7b' :: cs) = expandChars value (some []) cs := by
  simp [expandChars, placeholderStep, unread]

theorem expandChars_wordChar {c : Char} (h : isWordChar c) (word cs : List Char) :
    expandChars value (some word) (c :: cs) = expandChars value (some (c :: word)) cs := by
  have hne : c ≠ '\x7b' := by
    rintro rfl
    cases h
  simp [expandChars, placeholderStep, hne, h]

theorem expandChars_append_word (h : ∀ c ∈ name, isWordChar c) (word cs : List Char) :
    expandChars value (some word) (name ++ cs) =
      expandChars value (some (name.reverse ++ word)) cs := by
  induction name generalizing word with
  | nil => rfl
  | cons c name ih =>
    obtain ⟨hc, hname⟩ := List.forall_mem_cons.mp h
    rw [List.cons_append, expandChars_wordChar hc, ih hname]
    simp

/-- A placeholder is replaced, whatever comes after it. -/
theorem expandChars_braced (h : IsWord name) (cs : List Char) :
    expandChars value none (braced name ++ cs) =
      placeholder value name ++ expandChars value none cs := by
  have hclose : ∀ word, word ≠ [] → expandChars value (some word) ('\x7d' :: cs) =
      placeholder value word.reverse ++ expandChars value none cs := by
    intro word hword
    simp [expandChars, placeholderStep, isWordChar, hword]
  have hsplit : braced name ++ cs = '\x7b' :: (name ++ '\x7d' :: cs) := by simp [braced]
  rw [hsplit, expandChars_brace, expandChars_append_word h.chars, List.append_nil,
    hclose _ (by simpa using h.ne_nil), List.reverse_reverse]

/-- What follows an opening brace is read afresh if it completes no known placeholder. -/
theorem expandChars_pending {word : List Char} (hword : ∀ c ∈ word, isWordChar c)
    (h : ¬ StartsKnown value ('\x7b' :: word.reverse ++ cs)) :
    expandChars value (some word) cs = '\x7b' :: word.reverse ++ expandChars value none cs := by
  induction cs generalizing word with
  | nil => simp [expandChars, unread]
  | cons c cs ih =>
    by_cases hbrace : c = '\x7b'
    · subst hbrace
      simp [expandChars, placeholderStep, unread]
    by_cases hc : isWordChar c
    · -- The word goes on, and is still followed by no known placeholder's end.
      have hnext : ¬ StartsKnown value ('\x7b' :: (c :: word).reverse ++ cs) := by simpa using h
      rw [expandChars_wordChar hc, expandChars_cons_of_ne hbrace,
        ih (List.forall_mem_cons.mpr ⟨hc, hword⟩) hnext]
      simp
    by_cases hclose : c = '\x7d' ∧ word ≠ []
    · obtain ⟨rfl, hne⟩ := hclose
      have hunknown : value (String.ofList word.reverse) = none := by
        refine Option.eq_none_iff_forall_ne_some.mpr fun v hv => h ?_
        refine ⟨word.reverse, cs, v, ⟨by simpa using hne, fun d hd => ?_⟩, hv, by simp [braced]⟩
        exact hword d (List.mem_reverse.mp hd)
      simp [expandChars, placeholderStep, isWordChar, hne, placeholder, hunknown]
    · have hkept : (c = '\x7d' && !word.isEmpty) = false := by
        simpa using hclose
      simp [expandChars, placeholderStep, hbrace, hc, hkept, unread]

/-- A character at which no known placeholder starts stays. -/
theorem expandChars_cons_of_not_startsKnown {c : Char} (h : ¬ StartsKnown value (c :: cs)) :
    expandChars value none (c :: cs) = c :: expandChars value none cs := by
  by_cases hc : c = '\x7b'
  · subst hc
    rw [expandChars_brace]
    exact expandChars_pending (fun _ hd => absurd hd List.not_mem_nil) h
  · exact expandChars_cons_of_ne hc cs

/-! ### What is substituted for a text -/

/-- What is substituted for a text: the value where a known placeholder starts, and the character
that stands there where none does. -/
inductive Substituted (value : String → Option String) : List Char → List Char → Prop
  | done : Substituted value [] []
  | replaced {name rest text : List Char} {v : String} : IsWord name →
      value (String.ofList name) = some v → Substituted value rest text →
      Substituted value (braced name ++ rest) (v.toList ++ text)
  | kept {c : Char} {rest text : List Char} : ¬ StartsKnown value (c :: rest) →
      Substituted value rest text → Substituted value (c :: rest) (c :: text)

/-- Expanding a text substitutes for it. -/
theorem substituted_expandChars (value : String → Option String) (cs : List Char) :
    Substituted value cs (expandChars value none cs) := by
  by_cases h : StartsKnown value cs
  · obtain ⟨name, rest, v, hname, hv, rfl⟩ := h
    have hplaceholder : placeholder value name = v.toList := by simp [placeholder, hv]
    rw [expandChars_braced hname, hplaceholder]
    exact .replaced hname hv (substituted_expandChars value rest)
  · cases cs with
    | nil => exact .done
    | cons c cs =>
      rw [expandChars_cons_of_not_startsKnown h]
      exact .kept h (substituted_expandChars value cs)
termination_by cs.length
decreasing_by
  · subst_vars
    simp [braced]
    omega
  · simp

/-- One text only is substituted for a text. -/
theorem Substituted.unique {text' : List Char} (h : Substituted value cs text)
    (h' : Substituted value cs text') : text = text' := by
  induction h generalizing text' with
  | done =>
    generalize hcs : ([] : List Char) = cs at h'
    cases h' with
    | done => rfl
    | replaced hname => simp [braced] at hcs
    | kept => cases hcs
  | @replaced name rest text v hname hv hrest ih =>
    generalize hcs : braced name ++ rest = cs at h'
    cases h' with
    | done => simp [braced] at hcs
    | replaced hname' hv' hrest' =>
      obtain ⟨rfl, rfl⟩ := eq_of_braced_append_eq hname hname' hcs
      obtain rfl := Option.some.inj (hv.symm.trans hv')
      rw [ih hrest']
    | kept hnot => exact absurd ⟨name, rest, v, hname, hv, hcs.symm⟩ hnot
  | @kept c rest text hnot hrest ih =>
    generalize hcs : c :: rest = cs at h'
    cases h' with
    | done => cases hcs
    | replaced hname' hv' => exact absurd ⟨_, _, _, hname', hv', hcs⟩ hnot
    | kept _ hrest' =>
      obtain ⟨rfl, rfl⟩ := List.cons.inj hcs
      rw [ih hrest']

/-- Expanding gives what is substituted for a text, and only that. -/
theorem expandChars_eq_iff : expandChars value none cs = text ↔ Substituted value cs text := by
  constructor
  · rintro rfl
    exact substituted_expandChars value cs
  · exact (substituted_expandChars value cs).unique

/-- Nothing is substituted for a text without an opening brace. -/
theorem substituted_of_not_mem (h : '\x7b' ∉ cs) : Substituted value cs cs := by
  induction cs with
  | nil => exact .done
  | cons c cs ih =>
    refine .kept ?_ (ih fun hmem => h (List.mem_cons_of_mem c hmem))
    rintro ⟨name, rest, v, -, -, heq⟩
    obtain ⟨rfl, -⟩ := List.cons.inj heq
    exact h List.mem_cons_self

/-- Nothing is substituted for a placeholder of which the value is unknown. -/
theorem substituted_braced (h : IsWord name) (unknown : value (String.ofList name) = none) :
    Substituted value (braced name) (braced name) := by
  have hopen : '\x7b' ∉ name ++ ['\x7d'] := by
    have hname : '\x7b' ∉ name := not_mem_of_wordChars h.chars rfl
    simpa using hname
  refine .kept ?_ (substituted_of_not_mem hopen)
  rintro ⟨name', rest, v, hname', hv, heq⟩
  have hsame : braced name ++ [] = braced name' ++ rest := by simpa [braced] using heq
  obtain ⟨rfl, -⟩ := eq_of_braced_append_eq h hname' hsame
  rw [unknown] at hv
  cases hv

/-- A known placeholder at the start of two texts lies in the first, or this one ends open. -/
theorem startsKnown_or_endsOpen {c : Char} {more : List Char}
    (h : StartsKnown value (c :: cs ++ more)) :
    StartsKnown value (c :: cs) ∨ EndsOpen (c :: cs) := by
  obtain ⟨name, rest, v, hname, hv, heq⟩ := h
  rcases List.append_eq_append_iff.mp heq with ⟨missing, hbraced, -⟩ | ⟨surplus, hcs, -⟩
  · rcases List.eq_nil_or_concat' missing with rfl | ⟨start, last, rfl⟩
    · exact .inl ⟨name, [], v, hname, hv, by simpa using hbraced.symm⟩
    · -- The closing brace is in the second text, so that the first one has part of the name.
      have hinit : '\x7b' :: name ++ ['\x7d'] = (c :: cs ++ start) ++ [last] := by
        simpa [braced] using hbraced
      obtain ⟨rfl, rfl⟩ := List.cons.inj (List.append_inj' hinit rfl).1
      exact .inr ⟨[], cs, rfl, fun d hd => hname.chars d (List.mem_append_left start hd)⟩
  · exact .inl ⟨name, surplus, v, hname, hv, hcs⟩

/-- Substituting for two texts is substituting for each, unless the first one ends open. -/
theorem Substituted.append {more text' : List Char} (h : Substituted value cs text)
    (hopen : ¬ EndsOpen cs) (h' : Substituted value more text') :
    Substituted value (cs ++ more) (text ++ text') := by
  induction h with
  | done => exact h'
  | @replaced name rest text v hname hv hrest ih =>
    have hmore := ih fun hends => hopen (hends.append (braced name))
    rw [List.append_assoc, List.append_assoc]
    exact .replaced hname hv hmore
  | @kept c rest text hnot hrest ih =>
    have hmore := ih fun hends => hopen (hends.append [c])
    refine .kept (fun hstarts => ?_) hmore
    exact (startsKnown_or_endsOpen hstarts).elim hnot hopen

/-! ### Redirect URIs -/

namespace RedirectContext

/-- The text that a redirect URI is expanded to. -/
def expandText (context : RedirectContext) (id uri : String) : String :=
  expandPlaceholders (List.lookup · (context.replacements id)) uri

/-- The value of the variable with a name; there are seven of them. -/
def valueOf? (context : RedirectContext) (id : String) : String → Option String
  | "scheme" => some context.scheme
  | "serverName" => some context.serverName
  | "serverPort" => some context.serverPort.toText
  | "contextPath" => some (context.contextPath.getD "")
  | "baseUrl" => some context.baseUrl
  | "baseRedirectUrl" => some context.baseUrl
  | "registrationId" => some id
  | _ => none

variable {context : RedirectContext} {id : String}

theorem lookup_replacements (name : String) :
    (context.replacements id).lookup name = context.valueOf? id name := by
  unfold valueOf?
  split
  case h_8 => exact List.lookup_eq_none_iff.mpr (by simp_all [replacements])
  all_goals rfl

theorem toList_expandText (uri : String) : (context.expandText id uri).toList =
    expandChars (context.valueOf? id) none uri.toList := by
  rw [expandText, expandPlaceholders, String.toList_ofList, funext lookup_replacements]

/-- A registration has an expanded redirect URI just if it has one that is not empty. -/
theorem expand_eq_ok_iff {registration : Registration} {text : String} :
    context.expand registration = .ok text ↔ ∃ uri, registration.redirectUri = some uri ∧
      uri ≠ "" ∧ context.expandText registration.registrationId uri = text := by
  unfold expand
  constructor
  · intro h
    split at h
    · cases h
    · cases h
    · next uri hne huri => exact ⟨uri, huri, hne, Except.ok.inj h⟩
  · rintro ⟨uri, huri, hne, rfl⟩
    simp only [huri]
    rfl

theorem isWord_of_valueOf? {name v : String} (h : context.valueOf? id name = some v) :
    IsWord name.toList := by
  have hword : name.toList ≠ [] ∧ name.toList.all isWordChar := by
    unfold valueOf? at h
    split at h
    case h_8 => cases h
    all_goals decide
  exact ⟨hword.1, List.all_eq_true.mp hword.2⟩

/-- A placeholder of a variable is replaced by its value, whatever comes after it. -/
theorem expandText_variable_append {name v : String} (h : context.valueOf? id name = some v)
    (s : String) : context.expandText id ("\x7b" ++ name ++ "\x7d" ++ s) =
      v ++ context.expandText id s := by
  have hplaceholder : placeholder (context.valueOf? id) name.toList = v.toList := by
    simp [placeholder, h]
  have hbraced : ("\x7b" ++ name ++ "\x7d" ++ s).toList = braced name.toList ++ s.toList := by
    simp [braced]
  rw [← String.toList_inj, toList_expandText, hbraced, expandChars_braced (isWord_of_valueOf? h),
    hplaceholder, String.toList_append, toList_expandText]

/-- What stands before the end of an open text is expanded by itself. -/
theorem expandText_append {a : String} (h : ¬ EndsOpen a.toList) (b : String) :
    context.expandText id (a ++ b) = context.expandText id a ++ context.expandText id b := by
  have ha := substituted_expandChars (context.valueOf? id) a.toList
  have hb := substituted_expandChars (context.valueOf? id) b.toList
  rw [← String.toList_inj, toList_expandText, String.toList_append, String.toList_append,
    toList_expandText, toList_expandText]
  exact expandChars_eq_iff.mpr (ha.append h hb)

theorem expandText_of_not_mem {s : String} (h : '\x7b' ∉ s.toList) :
    context.expandText id s = s := by
  rw [← String.toList_inj, toList_expandText]
  exact expandChars_eq_iff.mpr (substituted_of_not_mem h)

/-- A text without an opening brace stays before any other. -/
theorem expandText_append_of_not_mem {a : String} (h : '\x7b' ∉ a.toList) (b : String) :
    context.expandText id (a ++ b) = a ++ context.expandText id b := by
  have hopen : ¬ EndsOpen a.toList := by
    rintro ⟨before, word, heq, -⟩
    exact h (heq ▸ List.mem_append_right before List.mem_cons_self)
  rw [expandText_append hopen, expandText_of_not_mem h]

/-- The laws of expanding redirect URIs in one pass. -/
structure SinglePass (context : RedirectContext) (id : String) : Prop where
  /-- A registration's redirect URI is expanded as a text; an empty one counts as missing. -/
  expand_iff : ∀ registration : Registration, registration.registrationId = id → ∀ text,
    (context.expand registration = .ok text ↔
      ∃ uri, registration.redirectUri = some uri ∧ uri ≠ "" ∧ context.expandText id uri = text)
  plain : ∀ s : String, '\x7b' ∉ s.toList → context.expandText id s = s
  /-- The value of a variable is inserted as it is. -/
  variable_eq : ∀ name v, context.valueOf? id name = some v →
    context.expandText id ("\x7b" ++ name ++ "\x7d") = v
  /-- Any other word in braces stays. -/
  other_eq : ∀ name : String, IsWord name.toList → context.valueOf? id name = none →
    context.expandText id ("\x7b" ++ name ++ "\x7d") = "\x7b" ++ name ++ "\x7d"
  append_eq : ∀ a b : String, ¬ EndsOpen a.toList →
    context.expandText id (a ++ b) = context.expandText id a ++ context.expandText id b
  /-- No value is read again, and no character outside a placeholder of a variable changes. -/
  eq_iff : ∀ s text : String, context.expandText id s = text ↔
    Substituted (context.valueOf? id) s.toList text.toList

/-- **Redirect URIs are expanded in one pass, literally**: a text without braces stays, a
placeholder gives the value of its variable or stays, and parts of a text are expanded each by
itself unless they divide a placeholder. -/
theorem singlePass (context : RedirectContext) (id : String) : SinglePass context id where
  expand_iff := by
    rintro registration rfl text
    exact expand_eq_ok_iff
  plain _ h := expandText_of_not_mem h
  variable_eq name v h := by
    have hplain : context.expandText id "" = "" := rfl
    have happend := expandText_variable_append h ""
    rwa [String.append_empty, hplain, String.append_empty] at happend
  other_eq name hname hother := by
    have hbraced : ("\x7b" ++ name ++ "\x7d").toList = braced name.toList := by simp [braced]
    rw [← String.toList_inj, toList_expandText, hbraced]
    refine expandChars_eq_iff.mpr (substituted_braced hname ?_)
    rw [String.ofList_toList, hother]
  append_eq _ b h := expandText_append h b
  eq_iff s text := by
    rw [← String.toList_inj, toList_expandText]
    exact expandChars_eq_iff

/-- A value with braces of its own, and braces around a placeholder. -/
example : (⟨"https", "a.example", .ofNat 443, none⟩ : RedirectContext).expandText
    "\x7bscheme\x7d" "/\x7bregistrationId\x7d/\x7b\x7bscheme\x7d\x7d/\x7bconstructor\x7d" =
    "/\x7bscheme\x7d/\x7bhttps\x7d/\x7bconstructor\x7d" := by decide +kernel

/-! ### The address of the application -/

/-- The port of a request is the one that its scheme implies. -/
def OnDefaultPort (context : RedirectContext) : Prop :=
  context.scheme = "http" ∧ Number.equal (.ofNat 80) context.serverPort ∨
    context.scheme = "https" ∧ Number.equal (.ofNat 443) context.serverPort

theorem impliesPort_iff : context.impliesPort ↔ context.OnDefaultPort := by
  unfold impliesPort defaultPort? OnDefaultPort
  by_cases hhttp : context.scheme = "http"
  · simp [hhttp]
  · by_cases hhttps : context.scheme = "https"
    · simp [hhttps]
    · simp [hhttp, hhttps]

/-- The address of the application, spelled out in several variables. -/
def spelledBaseUrl : String :=
  "\x7bscheme\x7d://\x7bserverName\x7d:\x7bserverPort\x7d\x7bcontextPath\x7d"

/-- The address of the application with the port, whatever it is. -/
def spelledUrl (context : RedirectContext) : String :=
  context.scheme ++ "://" ++ context.serverName ++ (":" ++ context.serverPort.toText) ++
    context.path

/-- A redirect URI that is not empty is expanded as a text. -/
theorem expand_append {a : String} (h : a ≠ "") (registration : Registration) (s : String) :
    context.expand { registration with redirectUri := some (a ++ s) } =
      .ok (context.expandText registration.registrationId (a ++ s)) := by
  refine expand_eq_ok_iff.mpr ⟨a ++ s, rfl, fun hempty => h ?_, rfl⟩
  exact (String.append_eq_empty_iff.mp hempty).1

/-- The address in one variable: `baseUrl`, or `baseRedirectUrl`. -/
theorem expand_baseUrl {name : String} (h : name ∈ ["baseUrl", "baseRedirectUrl"])
    (registration : Registration) (s : String) :
    context.expand { registration with redirectUri := some ("\x7b" ++ name ++ "\x7d" ++ s) } =
      .ok (context.baseUrl ++ context.expandText registration.registrationId s) := by
  have hvariable : context.valueOf? registration.registrationId name = some context.baseUrl := by
    rcases List.mem_pair.mp h with rfl | rfl
    · rfl
    · rfl
  rw [expand_append (by simp), expandText_variable_append hvariable]

theorem expandText_spelledBaseUrl_append (s : String) :
    context.expandText id (spelledBaseUrl ++ s) =
      context.spelledUrl ++ context.expandText id s := by
  have hsplit : spelledBaseUrl ++ s =
      "\x7b" ++ "scheme" ++ "\x7d" ++ ("://" ++ ("\x7b" ++ "serverName" ++ "\x7d" ++ (":" ++
        ("\x7b" ++ "serverPort" ++ "\x7d" ++ ("\x7b" ++ "contextPath" ++ "\x7d" ++ s))))) := by
    simp only [← String.append_assoc]
    rfl
  rw [hsplit, expandText_variable_append (v := context.scheme) rfl,
    expandText_append_of_not_mem (a := "://") (by decide),
    expandText_variable_append (v := context.serverName) rfl,
    expandText_append_of_not_mem (a := ":") (by decide),
    expandText_variable_append (v := context.serverPort.toText) rfl,
    expandText_variable_append (v := context.path) rfl]
  simp only [spelledUrl, String.append_assoc]

theorem expand_spelledBaseUrl (registration : Registration) (s : String) :
    context.expand { registration with redirectUri := some (spelledBaseUrl ++ s) } =
      .ok (context.spelledUrl ++ context.expandText registration.registrationId s) := by
  rw [expand_append (by decide), expandText_spelledBaseUrl_append]

theorem baseUrl_of_onDefaultPort (h : context.OnDefaultPort) :
    context.baseUrl = context.scheme ++ "://" ++ context.serverName ++ context.path := by
  simp [baseUrl, impliesPort_iff.mpr h]

theorem baseUrl_of_not_onDefaultPort (h : ¬ context.OnDefaultPort) :
    context.baseUrl = context.spelledUrl := by
  have himplies : context.impliesPort = false :=
    Bool.eq_false_iff.mpr fun himplies => h (impliesPort_iff.mp himplies)
  simp [baseUrl, spelledUrl, himplies]

/-- A port that the scheme implies is what makes the difference. -/
theorem baseUrl_eq_spelledUrl_iff : context.baseUrl = context.spelledUrl ↔
    ¬ context.OnDefaultPort := by
  refine ⟨fun heq hport => ?_, baseUrl_of_not_onDefaultPort⟩
  rw [baseUrl_of_onDefaultPort hport] at heq
  have hlength := congrArg String.length heq
  have hcolon : String.length ":" = 1 := rfl
  simp only [spelledUrl, String.length_append, hcolon] at hlength
  omega

/-- **The address of the application in one variable and spelled out in several**: both variables
for it give the same text, and the variables one by one give this text too unless the scheme implies
the port, in which case they give it with a colon and the port after the server name. An absent
context path is an empty one. -/
theorem expand_baseUrl_agrees (context : RedirectContext) (registration : Registration)
    (s : String) :
    let expanded (uri : String) := context.expand { registration with redirectUri := some uri }
    (∃ base spelled : String, expanded ("\x7bbaseUrl\x7d" ++ s) = .ok base ∧
      expanded ("\x7bbaseRedirectUrl\x7d" ++ s) = .ok base ∧
      expanded ("\x7bscheme\x7d://\x7bserverName\x7d:\x7bserverPort\x7d\x7bcontextPath\x7d" ++ s) =
        .ok spelled ∧
      (base = spelled ↔ ¬ context.OnDefaultPort) ∧
      (context.OnDefaultPort → ∃ rest,
        base = context.scheme ++ "://" ++ context.serverName ++ rest ∧
        spelled = context.scheme ++ "://" ++ context.serverName ++
          (":" ++ context.serverPort.toText) ++ rest)) ∧
    ({ context with contextPath := none } : RedirectContext).expand registration =
      ({ context with contextPath := some "" } : RedirectContext).expand registration := by
  intro expanded
  have hbase : expanded ("\x7bbaseUrl\x7d" ++ s) =
      .ok (context.baseUrl ++ context.expandText registration.registrationId s) :=
    expand_baseUrl (List.mem_pair.mpr (.inl rfl)) registration s
  have hredirect : expanded ("\x7bbaseRedirectUrl\x7d" ++ s) =
      .ok (context.baseUrl ++ context.expandText registration.registrationId s) :=
    expand_baseUrl (List.mem_pair.mpr (.inr rfl)) registration s
  have hspelled : expanded (spelledBaseUrl ++ s) =
      .ok (context.spelledUrl ++ context.expandText registration.registrationId s) :=
    expand_spelledBaseUrl registration s
  refine ⟨⟨_, _, hbase, hredirect, hspelled, ?_, fun hport => ?_⟩, rfl⟩
  · rw [String.append_left_inj, baseUrl_eq_spelledUrl_iff]
  · refine ⟨context.path ++ context.expandText registration.registrationId s, ?_, ?_⟩
    · rw [baseUrl_of_onDefaultPort hport, String.append_assoc]
    · rw [spelledUrl, String.append_assoc]

end RedirectContext

end OAuthClient
