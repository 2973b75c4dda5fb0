import Forge.Lib.Regex
import Forge.Lib.Strings
import Forge.Lib.Base64

/-!
# Cloud registry credential loaders

Source: `internal/cloud/registry.go`, `internal/cloud/challenge.go`,
`internal/cloud/acr/acr.go`, `internal/cloud/gcr/gcr.go`,
`internal/cloud/ecr/ecr.go`, and the registration order of
`controllers.StartManager`.

The three patterns are transcribed as RE2 parses them. The Azure, Google and
AWS clients, the OAuth token sources and the registries' HTTP answers are
parameters (`AcrEnv`, `GcrEnv`, `EcrClient`): a loader receives what its
remote services answer. Every loader also returns the requests it hands to an
SDK or HTTP client, with the base URL and the credential each carries, so
where credentials travel is part of its result. Credential material is kept
as Go byte strings. The Go map of loaders is iterated in an unspecified
order, which `retrieveAuthorization` takes as an explicit list.
-/

namespace Forge.Source.Cloud
open Forge.Lib.Regex Forge.Lib.Strings Forge.Lib.Base64

/-! ## Patterns -/

/-- `.` without the `s` flag: any character but a line feed. -/
def anyCharNotNL : Regexp Char := .charClass fun c => c != '\n'

/-- `.*` followed by a literal. -/
def anyThen (suffix : String) : Regexp Char :=
  .concat (.star anyCharNotNL) (.literal suffix.toList)

/-- `[a-zA-Z0-9]`. -/
def alnumClass : Regexp Char := .charClass Char.isAlphanum

/-- `[a-zA-Z0-9-_]`. -/
def labelClass : Regexp Char := .charClass fun c => c.isAlphanum || c == '-' || c == '_'

/-- `[a-zA-Z0-9][a-zA-Z0-9-_]*`. -/
def labelPattern : Regexp Char := .concat alnumClass (.star labelClass)

/-- `acr.acrRegex`: `.*\.azurecr\.io|.*\.azurecr\.cn|.*\.azurecr\.de|.*\.azurecr\.us`. -/
def acrRegex : Regexp Char :=
  .alternate (anyThen ".azurecr.io") (.alternate (anyThen ".azurecr.cn")
    (.alternate (anyThen ".azurecr.de") (anyThen ".azurecr.us")))

/-- `gcr.gcrRegex`: `.*-docker\.pkg\.dev|(?:.*\.)?gcr\.io`. -/
def gcrRegex : Regexp Char :=
  .alternate (anyThen "-docker.pkg.dev") (.concat (anyThen ".").quest (.literal "gcr.io".toList))

/-- `ecr.urlRegex`: `^(?P<aws_account_id>[a-zA-Z0-9][a-zA-Z0-9-_]*)\.dkr\.ecr(-fips)?`
followed by `\.([a-zA-Z0-9][a-zA-Z0-9-_]*)\.amazonaws\.com(\.cn)?`. -/
def urlRegex : Regexp Char :=
  .concat .beginText (.concat labelPattern (.concat (.literal ".dkr.ecr".toList)
    (.concat (Regexp.literal "-fips".toList).quest (.concat (.literal ".".toList)
      (.concat labelPattern (.concat (.literal ".amazonaws.com".toList)
        (Regexp.literal ".cn".toList).quest))))))

/-! ## Loader results -/

/-- `types.AuthConfig`: the credential fields the loaders set. -/
structure AuthConfig where
  username : Bytes
  password : Bytes
  registryToken : Bytes
  deriving DecidableEq, Repr

structure AuthDirective where
  service : String
  realm : String
  deriving DecidableEq, Repr

/-- What an outbound request of a loader is for. -/
inductive Purpose where
  /-- `GET <login server>/v2/` of `ChallengeLoginServer` -/
  | challenge
  /-- `POST <login server>/oauth2/exchange` with the ARM access token -/
  | tokenExchange
  /-- `GET <realm>` with the Google access token as basic auth -/
  | realmToken
  deriving DecidableEq, Repr

/-- A request a loader hands to a client: the base URL, and the credential it
carries, if any. -/
structure Request where
  url : String
  purpose : Purpose
  credential : Option Bytes
  deriving DecidableEq, Repr

/-- Errors of `ChallengeLoginServer`; `indexOutOfRange` is the runtime panic of
indexing a split result past its end. -/
inductive ChallengeError where
  | transport (message : String)
  | notChallenged (statusCode : Nat)
  | missingHeader
  | headerCount (values : List String)
  | notBearer (scheme : String)
  | missingRealm
  | indexOutOfRange
  deriving DecidableEq, Repr

/-- `decodeAuth` errors: blank token, base64 corruption at an offset, or a
decoding without a colon. -/
inductive DecodeAuthError where
  | blank
  | corrupt (offset : Nat)
  | invalid (creds : List Bytes)
  deriving DecidableEq, Repr

/-- Errors a loader or the dispatch returns. -/
inductive LoaderError where
  /-- `errNoLoader` -/
  | noLoader
  /-- `invalid <cloud> url: %q should match %v` -/
  | invalidUrl (cloud : String) (server : String)
  | challenge (error : ChallengeError)
  /-- an error of an SDK client, token source or HTTP call, passed on -/
  | client (message : String)
  /-- `failed to obtain token:\n %s` -/
  | tokenStatus (content : String)
  /-- `no token in bearer response:\n%s` -/
  | noToken (content : String)
  /-- `failed to get ecr auth token` -/
  | ecrToken (message : String)
  /-- `invalid ecr authorization token` -/
  | ecrDecode (error : DecodeAuthError)
  deriving DecidableEq, Repr

/-- One call of an `AuthLoader`: Go's `(*AuthConfig, error)`, where `.ok none`
is the pair `(nil, nil)`, and the requests the call handed to clients. -/
structure LoaderRun where
  result : Except LoaderError (Option AuthConfig)
  requests : List Request

def AuthLoader : Type := String → LoaderRun

/-! ## `ChallengeLoginServer` -/

/-- The answer to `V2SupportClient.Check`: no HTTP response, or a response with
its status, its `Www-Authenticate` values if present, and the client's error. -/
inductive CheckResponse where
  | failed (message : String)
  | response (statusCode : Nat) (wwwAuthenticate : Option (List String)) (error : Option String)

/-- The `key=value` pairs of the comma-separated list, in order; a parameter
without `=` indexes `parts[1]` past the end. -/
def collectAuthParams : List (List Char) → Except ChallengeError (List (List Char × List Char))
  | [] => .ok []
  | p :: ps =>
    match splitN2 '=' (trimSpace p) with
    | [key, value] => (collectAuthParams ps).map ((key, trimChar '"' value) :: ·)
    | _ => .error .indexOutOfRange

/-- `authParams[key]` after the loop: the last assignment, or `""`. -/
def authParam (params : List (List Char × List Char)) (key : String) : List Char :=
  ((params.filter fun kv => kv.1 = key.toList).getLast?.map Prod.snd).getD []

/-- Parse of the single `Www-Authenticate` value. -/
def parseChallenge (header : List Char) : Except ChallengeError AuthDirective :=
  match splitN2 ' ' header with
  | [] => .error .indexOutOfRange
  | scheme :: sections =>
    if !equalFoldAscii "Bearer".toList scheme then .error (.notBearer (String.ofList scheme))
    else match sections with
      | [] => .error .indexOutOfRange
      | paramList :: _ =>
        match collectAuthParams (split ',' paramList) with
        | .error e => .error e
        | .ok params =>
          if authParam params "realm" = [] then .error .missingRealm
          else .ok ⟨String.ofList (authParam params "service"),
            String.ofList (authParam params "realm")⟩

/-- `cloud.ChallengeLoginServer`, given how the login server answers. -/
def challengeLoginServer (check : String → CheckResponse) (loginServerURL : String) :
    Except ChallengeError AuthDirective :=
  match check loginServerURL with
  | .failed message => .error (.transport message)
  | .response statusCode header error =>
    if statusCode ≠ 401 then
      match error with
      | some message => .error (.transport message)
      | none => .error (.notChallenged statusCode)
    else match header with
      | none => .error .missingHeader
      | some [value] => parseChallenge value.toList
      | some values => .error (.headerCount values)

/-! ## Azure -/

def acrUserForRefreshToken : String := "00000000-0000-0000-0000-000000000000"

/-- `acr.retry`: call `f` up to `attempts` times; after each failure the backoff
may end early with the context's error. -/
def retry (f : Nat → Except String Unit) (backoffCancelled : Nat → Bool) (contextError : String) :
    Nat → Nat → Except String Unit → Except String Unit
  | 0, _, last => last
  | remaining + 1, i, _ =>
    match f i with
    | .ok () => .ok ()
    | .error e =>
      if backoffCancelled i then .error contextError
      else retry f backoffCancelled contextError remaining (i + 1) (.error e)

/-- What `acrProvider` and Azure answer: the provider's tenant, the outcome of
each `EnsureFreshWithContext` attempt, the context, the ARM access token, the
login server's challenge answer, and `GetFromExchange`. -/
structure AcrEnv where
  tenantID : String
  ensureFresh : Nat → Except String Unit
  backoffCancelled : Nat → Bool
  contextError : String
  oAuthToken : Bytes
  check : String → CheckResponse
  getFromExchange : (url service tenant : String) → (accessToken : Bytes) →
    Except String (Option Bytes)

/-- `acrProvider.authenticate`. -/
def acrAuthenticate (env : AcrEnv) (server : String) : LoaderRun :=
  match acrRegex.findAllString server.toList with
  | [loginServer] =>
    match retry env.ensureFresh env.backoffCancelled env.contextError 3 0 (.ok ()) with
    | .error e => ⟨.error (.client e), []⟩
    | .ok () =>
      let loginServerURL := "https://" ++ String.ofList loginServer
      let challenge : Request := ⟨loginServerURL ++ "/v2/", .challenge, none⟩
      match challengeLoginServer env.check loginServerURL with
      | .error e => ⟨.error (.challenge e), [challenge]⟩
      | .ok directive =>
        let exchange : Request :=
          ⟨loginServerURL ++ "/oauth2/exchange", .tokenExchange, some env.oAuthToken⟩
        match env.getFromExchange loginServerURL directive.service env.tenantID env.oAuthToken with
        | .error e => ⟨.error (.client e), [challenge, exchange]⟩
        | .ok refreshToken =>
          ⟨.ok (some ⟨goBytes acrUserForRefreshToken, refreshToken.getD [], []⟩),
            [challenge, exchange]⟩
  | _ => ⟨.error (.invalidUrl "acr" server), []⟩

/-! ## Google -/

/-- `tokenResponse` as `json.Unmarshal` fills it. -/
structure TokenResponse where
  token : Bytes
  accessToken : Bytes
  refreshToken : Bytes

/-- The realm's answer: status, body, and what `json.Unmarshal` makes of it. -/
structure RealmResponse where
  statusCode : Nat
  content : String
  decoded : Except String TokenResponse

/-- What `gcrProvider` and Google answer: the token source, the login server's
challenge answer, and the realm request (`NewRequestWithContext`, `Do`,
`ReadAll`) for a realm, service and access token. -/
structure GcrEnv where
  token : Except String Bytes
  check : String → CheckResponse
  realm : (realm service : String) → (accessToken : Bytes) → Except String RealmResponse

/-- `gcrProvider.authenticate`. -/
def gcrAuthenticate (env : GcrEnv) (server : String) : LoaderRun :=
  match gcrRegex.findAllString server.toList with
  | [loginServer] =>
    match env.token with
    | .error e => ⟨.error (.client e), []⟩
    | .ok accessToken =>
      let loginServerURL := "https://" ++ String.ofList loginServer
      let challenge : Request := ⟨loginServerURL ++ "/v2/", .challenge, none⟩
      match challengeLoginServer env.check loginServerURL with
      | .error e => ⟨.error (.challenge e), [challenge]⟩
      | .ok directive =>
        let requests := [challenge, ⟨directive.realm, .realmToken, some accessToken⟩]
        match env.realm directive.realm directive.service accessToken with
        | .error e => ⟨.error (.client e), requests⟩
        | .ok response =>
          if response.statusCode ≠ 200 then ⟨.error (.tokenStatus response.content), requests⟩
          else match response.decoded with
            | .error e => ⟨.error (.client e), requests⟩
            | .ok decoded =>
              -- some registries set access_token instead of token
              let registryToken := if decoded.accessToken ≠ [] then decoded.accessToken
                else decoded.token
              if registryToken = [] then ⟨.error (.noToken response.content), requests⟩
              else ⟨.ok (some ⟨goBytes "oauth2accesstoken", accessToken, registryToken⟩),
                requests⟩
  | _ => ⟨.error (.invalidUrl "gcr" server), []⟩

/-! ## AWS -/

/-- `ecr.decodeAuth`: base64-decode the token and split it at the first colon. -/
def decodeAuth (auth : Bytes) : Except DecodeAuthError (Bytes × Bytes) :=
  if auth = [] then .error .blank
  else match decodeString auth with
    | .error offset => .error (.corrupt offset)
    | .ok decoded =>
      match splitN2 (58 : UInt8) decoded with
      | [username, password] => .ok (username, password)
      | creds => .error (.invalid creds)

/-- A token encoding `username:password`, the username without a colon,
decodes to the two: `SplitN` cuts at the username's end. -/
theorem decodeAuth_encodeToString {username : Bytes} (noColon : (58 : UInt8) ∉ username)
    (password : Bytes) :
    decodeAuth (encodeToString (username ++ 58 :: password)) = .ok (username, password) := by
  have nonempty : encodeToString (username ++ 58 :: password) ≠ [] := encodeToString_ne_nil (by simp)
  rw [decodeAuth, if_neg nonempty, decodeString_encodeToString]
  dsimp only
  rw [splitN2_append_cons _ password username noColon]

theorem decodeAuth_eq_error {auth : Bytes}
    (refused : auth = [] ∨ (∃ offset, decodeString auth = .error offset) ∨
      ∃ decoded, decodeString auth = .ok decoded ∧ (58 : UInt8) ∉ decoded) :
    ∃ err, decodeAuth auth = .error err := by
  by_cases blank : auth = []
  · exact ⟨.blank, by simp [decodeAuth, blank]⟩
  rcases refused with blank' | ⟨offset, corrupt⟩ | ⟨decoded, decodedOk, noColon⟩
  · exact absurd blank' blank
  · exact ⟨.corrupt offset, by simp [decodeAuth, blank, corrupt]⟩
  · -- one part: `len(creds) != 2`
    exact ⟨.invalid [decoded], by simp [decodeAuth, blank, decodedOk, splitN2_of_not_mem _ _ noColon]⟩

/-- What `GetAuthorizationToken` answers: the `AuthorizationToken` of each
returned `AuthorizationData`. -/
structure EcrClient where
  getAuthorizationToken : Except String (List (Option Bytes))

/-- `ecr.authenticate`. With a number of tokens other than one, the source
returns `errors.Wrapf(err, ...)` for an `err` that is nil, which is nil: the
loader then yields neither credentials nor an error. -/
def ecrAuthenticate (client : EcrClient) (url : String) : LoaderRun :=
  if !urlRegex.matchString url.toList then ⟨.error (.invalidUrl "ecr" url), []⟩
  else match client.getAuthorizationToken with
    | .error e => ⟨.error (.ecrToken e), []⟩
    | .ok [token] =>
      match decodeAuth (token.getD []) with
      | .error e => ⟨.error (.ecrDecode e), []⟩
      | .ok (username, password) => ⟨.ok (some ⟨username, password, []⟩), []⟩
    | .ok _ => ⟨.ok none, []⟩

/-! ## Dispatch -/

/-- The registered loaders, each of one cloud with what its services answer. -/
inductive Provider where
  | acr (env : AcrEnv)
  | gcr (env : GcrEnv)
  | ecr (client : EcrClient)

/-- The pattern each package registers its loader under. -/
def Provider.pattern : Provider → Regexp Char
  | .acr _ => acrRegex
  | .gcr _ => gcrRegex
  | .ecr _ => urlRegex

/-- The loader each package registers. -/
def Provider.authenticate : Provider → AuthLoader
  | .acr env => acrAuthenticate env
  | .gcr env => gcrAuthenticate env
  | .ecr client => ecrAuthenticate client

/-- `cloud.Registry`: its loaders with their patterns. The map is keyed by the
pattern pointer, and each package registers its own pattern once. -/
structure Registry where
  loaders : List (Regexp Char × AuthLoader)

def Registry.register (r : Registry) (re : Regexp Char) (loader : AuthLoader) : Registry :=
  ⟨r.loaders ++ [(re, loader)]⟩

/-- The registry `StartManager` builds: ECR, ACR and GCR, each when its
package found credentials. -/
def startRegistry (ecr : Option EcrClient) (acr : Option AcrEnv) (gcr : Option GcrEnv) :
    Registry :=
  let withEcr := match ecr with
    | some client => Registry.register ⟨[]⟩ urlRegex (ecrAuthenticate client)
    | none => ⟨[]⟩
  let withAcr := match acr with
    | some env => withEcr.register acrRegex (acrAuthenticate env)
    | none => withEcr
  match gcr with
  | some env => withAcr.register gcrRegex (gcrAuthenticate env)
  | none => withAcr

/-- `Registry.RetrieveAuthorization`, where `visit` lists the entries in the
order this run's `range` over the map visits them: the first loader whose
pattern matches the server answers. -/
def retrieveAuthorization (visit : List (Regexp Char × AuthLoader)) (server : String) :
    LoaderRun :=
  match visit.find? fun entry => entry.1.matchString server.toList with
  | some (_, loader) => loader server
  | none => ⟨.error .noLoader, []⟩

/-- A run of `RetrieveAuthorization` on a registry: some order of its entries. -/
def RetrievesWith (r : Registry) (server : String) (run : LoaderRun) : Prop :=
  ∃ visit, visit.Perm r.loaders ∧ run = retrieveAuthorization visit server

end Forge.Source.Cloud
