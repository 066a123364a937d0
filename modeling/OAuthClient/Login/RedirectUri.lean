import OAuthClient.Number.Decimal
import OAuthClient.Registration

/-!
# Redirect URIs

A redirect URI may hold placeholders, variable names in braces, for what only a request tells.
Each placeholder is replaced once; values are not looked at again, and braces around anything but
a variable stay.

## Main declarations

* `RedirectContext`: what a request tells.
* `RedirectContext.replacements`: the values of the variables.
* `expandPlaceholders`: replaces the placeholders of a text.
* `RedirectContext.expand`: the redirect URI of a registration.
-/

namespace OAuthClient

/-- What a request tells about the application's own address. -/
structure RedirectContext where
  scheme : String
  serverName : String
  serverPort : Number
  contextPath : Option String := none
  deriving DecidableEq, Repr

namespace RedirectContext

/-- The port that a scheme implies. -/
def defaultPort? (scheme : String) : Option Number :=
  if scheme = "http" then some (.ofNat 80)
  else if scheme = "https" then some (.ofNat 443)
  else none

/-- Whether the port is the one that the scheme implies. -/
def impliesPort (context : RedirectContext) : Bool :=
  (defaultPort? context.scheme).any (·.equal context.serverPort)

/-- The path that the application is mounted under. -/
def path (context : RedirectContext) : String := context.contextPath.getD ""

/-- The address of the application, without a port that the scheme implies. -/
def baseUrl (context : RedirectContext) : String :=
  let port := if context.impliesPort then "" else ":" ++ context.serverPort.toText
  context.scheme ++ "://" ++ context.serverName ++ port ++ context.path

/-- The variables and their values for a registration. -/
def replacements (context : RedirectContext) (registrationId : String) : List (String × String) :=
  [("scheme", context.scheme),
   ("serverName", context.serverName),
   ("serverPort", context.serverPort.toText),
   ("contextPath", context.path),
   ("baseUrl", context.baseUrl),
   ("baseRedirectUrl", context.baseUrl),
   ("registrationId", registrationId)]

end RedirectContext

/-! ### Placeholders -/

/-- The characters of variable names: ASCII letters, digits and the underscore. -/
def isWordChar (c : Char) : Bool := c.isAlphanum || c = '_'

/-- The characters that a placeholder with a name stands for: the value of the variable, or
itself. -/
def placeholder (value : String → Option String) (name : List Char) : List Char :=
  match value (String.ofList name) with
  | some v => v.toList
  | none => '\x7b' :: name ++ ['\x7d']

/-- The characters after an opening brace that turned out to start no placeholder; `pending` holds
the word after the brace, in reverse. -/
def unread : Option (List Char) → List Char
  | some word => '\x7b' :: word.reverse
  | none => []

/-- What a character adds, and the word after an opening brace that is still unread then. -/
def placeholderStep (value : String → Option String) (pending : Option (List Char)) (c : Char) :
    List Char × Option (List Char) :=
  if c = '\x7b' then (unread pending, some [])
  else match pending with
    | none => ([c], none)
    | some word =>
      if isWordChar c then ([], some (c :: word))
      else if c = '\x7d' && !word.isEmpty then (placeholder value word.reverse, none)
      else (unread pending ++ [c], none)

/-- Replaces the placeholders of some characters after an unread word. -/
def expandChars (value : String → Option String) (pending : Option (List Char)) :
    List Char → List Char
  | [] => unread pending
  | c :: cs =>
    let (added, next) := placeholderStep value pending c
    added ++ expandChars value next cs

/-- Replaces the placeholders of a text. -/
def expandPlaceholders (value : String → Option String) (s : String) : String :=
  String.ofList (expandChars value none s.toList)

example : expandPlaceholders (fun name => if name = "a" then some "\x7ba\x7d" else none)
    "\x7ba\x7d\x7b\x7ba\x7d\x7d\x7bb\x7d\x7b\x7d\x7ba" =
    "\x7ba\x7d\x7b\x7ba\x7d\x7d\x7bb\x7d\x7b\x7d\x7ba" := by decide +kernel

/-! ### Redirect URIs of registrations -/

/-- A registration without a redirect URI. -/
structure NoRedirectUri where
  registrationId : String
  deriving DecidableEq, Repr

/-- The report of a missing redirect URI. -/
def NoRedirectUri.message (e : NoRedirectUri) : String :=
  s!"Client registration '{e.registrationId}' has no redirect URI"

/-- The redirect URI of a registration in a request. An empty one counts as missing. -/
def RedirectContext.expand (context : RedirectContext) (registration : Registration) :
    Except NoRedirectUri String :=
  let id := registration.registrationId
  match registration.redirectUri with
  | none | some "" => .error ⟨id⟩
  | some uri => .ok (expandPlaceholders (List.lookup · (context.replacements id)) uri)

example : (RedirectContext.expand ⟨"https", "a.example", .ofNat 443, some "/x"⟩
    { registrationId := "g", clientId := "c",
      redirectUri := some "\x7bbaseUrl\x7d:\x7bserverPort\x7d/\x7bregistrationId\x7d" }).toOption =
    some "https://a.example/x:443/g" := by decide +kernel

end OAuthClient
