import OAuthClient.PropertySource.Load
import OAuthClient.Setup
import OAuthClient.Proofs.Resolution
import OAuthClient.Proofs.Resolution.Logging
import OAuthClient.Proofs.Binding
import OAuthClient.Proofs.Setup.Steps
import OAuthClient.Proofs.Setup.Activation
import OAuthClient.Proofs.Setup.Atomicity
import OAuthClient.Proofs.Signature
import OAuthClient.Proofs.Token
import OAuthClient.Proofs.Token.Verification
import OAuthClient.Proofs.Login.Acceptance
import OAuthClient.Proofs.Setup.Stability
import OAuthClient.Proofs.Text.Form
import OAuthClient.Proofs.Login.AuthorizationRequest
import OAuthClient.Proofs.Login.Transparency
import OAuthClient.Proofs.Login.KeySources
import OAuthClient.Proofs.PropertySource.Put
import OAuthClient.Proofs.PropertySource.Draft
import OAuthClient.Proofs.PropertySource.Flat
import OAuthClient.Proofs.Text.Digits
import OAuthClient.Proofs.KeyOrder
import OAuthClient.Proofs.PropertySource.Leaves
import OAuthClient.Proofs.PropertySource.RoundTrip
import OAuthClient.Proofs.Text.Lowercase
import OAuthClient.Proofs.Text.Blank
import OAuthClient.Proofs.Catalog.Layering
import OAuthClient.Proofs.Catalog.Building
import OAuthClient.Proofs.Login.Classification
import OAuthClient.Proofs.Binding.Fields
import OAuthClient.Proofs.Binding.Shapes
import OAuthClient.Proofs.Binding.Writing
import OAuthClient.Proofs.Defaults
import OAuthClient.Proofs.Login.RedirectUri
import OAuthClient.Proofs.Login.Configuration
import OAuthClient.Proofs.Related
import OAuthClient.Proofs.Binding.Variables
import OAuthClient.Proofs.Binding.Scopes
import OAuthClient.Proofs.Repository
