import OAuthClient.Template

/-!
# Built-in templates

The providers that are known without configuration. Their redirect URIs have placeholders for the
details of a request.

## Main declarations

* `Catalog.builtIn`: the catalog of Google, GitHub, Facebook and Okta.
-/

namespace OAuthClient

namespace Template

/-- The redirect URI of templates that need none of their own. Braces are written by code point. -/
def defaultRedirectUri : String :=
  "\x7bscheme\x7d://\x7bserverName\x7d:\x7bserverPort\x7d\x7bcontextPath\x7d" ++
    "/oauth2/authorize/code/\x7bregistrationId\x7d"

/-- Google, which supports ID tokens. -/
def google : Template where
  clientAuthenticationMethod := some "basic"
  authorizationGrantType := some "authorization_code"
  redirectUri := some defaultRedirectUri
  scope := some ["openid", "profile", "email", "address", "phone"]
  authorizationUri := some "https://accounts.google.com/o/oauth2/v2/auth"
  tokenUri := some "https://www.googleapis.com/oauth2/v4/token"
  userInfoUri := some "https://www.googleapis.com/oauth2/v3/userinfo"
  jwkSetUri := some "https://www.googleapis.com/oauth2/v3/certs"
  clientName := some "Google"
  clientAlias := some "google"

/-- GitHub, which has no ID tokens and hence no JWK set. -/
def github : Template where
  clientAuthenticationMethod := some "basic"
  authorizationGrantType := some "authorization_code"
  redirectUri := some "\x7bbaseRedirectUrl\x7d/oauth2/authorize/code/\x7bregistrationId\x7d"
  scope := some ["user"]
  authorizationUri := some "https://github.com/login/oauth/authorize"
  tokenUri := some "https://github.com/login/oauth/access_token"
  userInfoUri := some "https://api.github.com/user"
  clientName := some "GitHub"
  clientAlias := some "github"

/-- Facebook, which takes client credentials in the request body. -/
def facebook : Template where
  clientAuthenticationMethod := some "post"
  authorizationGrantType := some "authorization_code"
  redirectUri := some defaultRedirectUri
  scope := some ["public_profile", "email"]
  authorizationUri := some "https://www.facebook.com/v2.8/dialog/oauth"
  tokenUri := some "https://graph.facebook.com/v2.8/oauth/access_token"
  userInfoUri := some "https://graph.facebook.com/me"
  clientName := some "Facebook"
  clientAlias := some "facebook"

/-- Okta, whose endpoints depend on the organization and have to be configured. -/
def okta : Template where
  clientAuthenticationMethod := some "basic"
  authorizationGrantType := some "authorization_code"
  redirectUri := some defaultRedirectUri
  scope := some ["openid", "profile", "email", "address", "phone"]
  clientName := some "Okta"
  clientAlias := some "okta"

end Template

/-- The catalog of the built-in templates. -/
def Catalog.builtIn : Catalog :=
  Catalog.ofSources [[("google", .google), ("github", .github), ("facebook", .facebook),
    ("okta", .okta)]]

example : Catalog.builtIn.names = ["google", "github", "facebook", "okta"] := by decide +kernel
example : Catalog.builtIn.find? "GitHub" = some .github := by decide +kernel

end OAuthClient
