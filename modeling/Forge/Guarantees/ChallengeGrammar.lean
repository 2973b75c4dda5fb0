import Forge.Source.Cloud

/-!
# The `Www-Authenticate` grammar and `ChallengeLoginServer`

RFC 7235 writes a challenge as its scheme, a space, and comma-separated
`auth-param`s `name=value`, a value being a token or a quoted string, and a
quoted string may hold commas. `ChallengeLoginServer` splits the parameter
list at every comma and indexes `parts[1]` of each piece split at `=`: a
comma inside a quoted value leaves a piece without `=`, and the index panics.
Every challenge whose values hold no comma is parsed right
(`parseChallenge_of_commaFree`).

The grammar is rendered from its parameters with no optional white space;
quoted strings are written without escapes.
-/

namespace Forge.Guarantees.ChallengeGrammar
open Forge.Lib.Strings Forge.Source.Cloud

/-- `tchar`: ASCII letters and digits and fifteen symbols. -/
def isTokenChar (c : Char) : Bool :=
  let n := c.toNat
  (48 ≤ n && n ≤ 57) || (65 ≤ n && n ≤ 90) || (97 ≤ n && n ≤ 122) ||
    [33, 35, 36, 37, 38, 39, 42, 43, 45, 46, 94, 95, 96, 124, 126].contains n

/-- `qdtext`: what a quoted string holds besides escapes. -/
def isQdText (c : Char) : Bool :=
  let n := c.toNat
  n = 9 || n = 32 || n = 33 || (35 ≤ n && n ≤ 91) || (93 ≤ n && n ≤ 126) || (128 ≤ n && n ≤ 255)

/-- An `auth-param`: its name, its value unquoted, and how the value is written. -/
structure AuthParam where
  key : List Char
  value : List Char
  quoted : Bool
  deriving DecidableEq, Repr

/-- A token name, and a token value or a quoted string of `qdtext`. -/
def AuthParam.wellFormed (p : AuthParam) : Bool :=
  !p.key.isEmpty && p.key.all isTokenChar &&
    if p.quoted then p.value.all isQdText else !p.value.isEmpty && p.value.all isTokenChar

def AuthParam.render (p : AuthParam) : List Char :=
  p.key ++ '=' :: if p.quoted then '"' :: p.value ++ ['"'] else p.value

/-- A `Bearer` challenge with its parameters. -/
def renderChallenge (params : List AuthParam) : List Char :=
  "Bearer".toList ++ ' ' :: [','].intercalate (params.map AuthParam.render)

/-- The value of the parameter of a name, or empty. -/
def paramValue (params : List AuthParam) (key : String) : List Char :=
  ((params.find? fun p => p.key = key.toList).map AuthParam.value).getD []

/-- The single value of a 401 response is parsed with no index past the end of
a split, and on a challenge of well-formed parameters with distinct
names and a non-empty `realm`, the realm and the service (empty if absent). -/
def AcceptsGrammar : Prop :=
  ∀ (check : String → CheckResponse) (loginServerURL value : String) (error : Option String),
    check loginServerURL = .response 401 (some [value]) error →
      challengeLoginServer check loginServerURL ≠ .error .indexOutOfRange ∧
      ∀ params : List AuthParam, params.all AuthParam.wellFormed → (params.map AuthParam.key).Nodup →
        paramValue params "realm" ≠ [] → value.toList = renderChallenge params →
        challengeLoginServer check loginServerURL =
          .ok ⟨String.ofList (paramValue params "service"), String.ofList (paramValue params "realm")⟩

def scopedChallenge : List AuthParam :=
  [⟨"realm".toList, "https://registry.example/token".toList, true⟩,
    ⟨"scope".toList, "repository:app:pull,push".toList, true⟩]

def scopedValue : String := "Bearer realm=\"https://registry.example/token\",scope=\"repository:app:pull,push\""

def scopedServer : String → CheckResponse := fun _ => .response 401 (some [scopedValue]) none

theorem quoted_comma_panics : ¬ AcceptsGrammar := by
  intro accepts
  obtain ⟨-, parses⟩ := accepts scopedServer "registry.example" scopedValue none rfl
  have parsed := parses scopedChallenge (by decide +kernel) (by decide) (by decide) (by decide +kernel)
  have panics : challengeLoginServer scopedServer "registry.example" = .error .indexOutOfRange := by
    decide +kernel
  rw [panics] at parsed
  cases parsed

/-! ## What does hold: challenges without commas in their values -/

theorem isTokenChar_toNat {c : Char} (token : isTokenChar c = true) :
    33 ≤ c.toNat ∧ c.toNat ≤ 126 ∧ c.toNat ≠ 34 ∧ c.toNat ≠ 44 ∧ c.toNat ≠ 61 := by
  simp [isTokenChar] at token
  omega

theorem isSpace_of_isTokenChar {c : Char} (token : isTokenChar c = true) : isSpace c = false := by
  have range := isTokenChar_toNat token
  simp only [isSpace, Bool.or_eq_false_iff, Bool.and_eq_false_iff, decide_eq_false_iff_not]
  omega

theorem ne_of_isTokenChar {c : Char} (token : isTokenChar c = true) (other : Char)
    (excluded : other.toNat = 34 ∨ other.toNat = 44 ∨ other.toNat = 61) : c ≠ other := by
  rintro rfl
  have range := isTokenChar_toNat token
  omega

theorem ne_quote_of_isQdText {c : Char} (text : isQdText c = true) : c ≠ '"' := by
  rintro rfl
  simp [isQdText] at text

theorem AuthParam.wellFormed_spec {p : AuthParam} (formed : p.wellFormed = true) :
    p.key ≠ [] ∧ (∀ c ∈ p.key, isTokenChar c = true) ∧
      (p.quoted = true → ∀ c ∈ p.value, isQdText c = true) ∧
      (p.quoted = false → p.value ≠ [] ∧ ∀ c ∈ p.value, isTokenChar c = true) := by
  unfold AuthParam.wellFormed at formed
  cases quoted : p.quoted <;> simp_all

theorem AuthParam.comma_not_mem_render {p : AuthParam} (formed : p.wellFormed = true)
    (commaFree : ',' ∉ p.value) : ',' ∉ p.render := by
  obtain ⟨-, keyTokens, -, -⟩ := p.wellFormed_spec formed
  intro mem
  simp only [AuthParam.render, List.mem_append, List.mem_cons] at mem
  rcases mem with inKey | isEq | inValue
  · exact ne_of_isTokenChar (keyTokens _ inKey) ',' (by decide) rfl
  · cases isEq
  · split at inValue <;> simp_all

theorem AuthParam.trimSpace_render {p : AuthParam} (formed : p.wellFormed = true) :
    trimSpace p.render = p.render := by
  obtain ⟨keyNonempty, keyTokens, -, unquoted⟩ := p.wellFormed_spec formed
  obtain ⟨first, rest, keyIs⟩ := List.exists_cons_of_ne_nil keyNonempty
  apply trimSpace_of_ends
  · intro c mem
    simp only [AuthParam.render, keyIs, List.cons_append, List.head?_cons, Option.mem_def,
      Option.some.injEq] at mem
    subst mem
    exact isSpace_of_isTokenChar (keyTokens first (keyIs ▸ List.mem_cons_self))
  · intro c mem
    cases quoted : p.quoted
    · -- the last character of a token value
      obtain ⟨valueNonempty, valueTokens⟩ := unquoted quoted
      simp only [AuthParam.render, quoted, Bool.false_eq_true, if_false, List.getLast?_append,
        List.getLast?_cons, Option.mem_def] at mem
      have last := List.getLast?_eq_some_getLast valueNonempty
      rw [last] at mem
      simp only [Option.some_or, Option.getD_some, Option.some.injEq] at mem
      rw [← mem]
      exact isSpace_of_isTokenChar (valueTokens _ (List.getLast_mem valueNonempty))
    · -- the closing quote
      have closed : p.render = (p.key ++ '=' :: '"' :: p.value) ++ ['"'] := by
        simp [AuthParam.render, quoted]
      rw [closed, List.getLast?_concat, Option.mem_def, Option.some.injEq] at mem
      subst mem
      decide

theorem AuthParam.splitN2_render {p : AuthParam} (formed : p.wellFormed = true) :
    splitN2 '=' p.render = [p.key, if p.quoted then '"' :: p.value ++ ['"'] else p.value] := by
  obtain ⟨-, keyTokens, -, -⟩ := p.wellFormed_spec formed
  exact splitN2_append_cons '=' _ p.key fun mem => ne_of_isTokenChar (keyTokens _ mem) '=' (by decide) rfl

theorem AuthParam.trimChar_written {p : AuthParam} (formed : p.wellFormed = true) :
    trimChar '"' (if p.quoted then '"' :: p.value ++ ['"'] else p.value) = p.value := by
  obtain ⟨-, -, quotedText, unquoted⟩ := p.wellFormed_spec formed
  cases quoted : p.quoted
  · rw [if_neg Bool.false_ne_true]
    exact trimChar_of_not_mem '"' fun mem => ne_of_isTokenChar ((unquoted quoted).2 _ mem) '"' (by decide) rfl
  · rw [if_pos rfl]
    exact trimChar_quoted '"' fun mem => ne_quote_of_isQdText (quotedText quoted _ mem) rfl

theorem collectAuthParams_render : ∀ params : List AuthParam, (∀ p ∈ params, p.wellFormed = true) →
    collectAuthParams (params.map AuthParam.render) = .ok (params.map fun p => (p.key, p.value))
  | [], _ => rfl
  | p :: rest, formed => by
    have pFormed := formed p List.mem_cons_self
    rw [List.map_cons, collectAuthParams, p.trimSpace_render pFormed, p.splitN2_render pFormed]
    dsimp only
    rw [p.trimChar_written pFormed,
      collectAuthParams_render rest fun q mem => formed q (List.mem_cons_of_mem p mem)]
    rfl

theorem authParam_of_nodup (key : String) : ∀ params : List AuthParam, (params.map AuthParam.key).Nodup →
    authParam (params.map fun p => (p.key, p.value)) key = paramValue params key
  | [], _ => rfl
  | p :: rest, distinct => by
    obtain ⟨fresh, restDistinct⟩ := List.nodup_cons.mp distinct
    by_cases named : p.key = key.toList
    · -- no later parameter has the name
      have noLater : (rest.map fun p => (p.key, p.value)).filter (fun kv => kv.1 = key.toList) = [] := by
        rw [List.filter_eq_nil_iff]
        intro kv mem
        obtain ⟨q, inRest, rfl⟩ := List.mem_map.mp mem
        simp only [decide_eq_true_eq]
        intro same
        exact fresh (named ▸ same ▸ List.mem_map_of_mem inRest)
      simp [authParam, paramValue, named, noLater]
    · -- the parameter is skipped on both sides
      have skipped : decide (p.key = key.toList) = false := decide_eq_false named
      have later := authParam_of_nodup key rest restDistinct
      simp only [authParam, paramValue] at later ⊢
      simp only [List.map_cons, List.filter_cons, skipped, Bool.false_eq_true, if_false,
        List.find?_cons]
      exact later

/-- A `Bearer` challenge of well-formed parameters with distinct names, no
comma in a value and a non-empty realm is parsed into its realm and service. -/
theorem parseChallenge_of_commaFree (params : List AuthParam) (formed : params.all AuthParam.wellFormed)
    (distinct : (params.map AuthParam.key).Nodup) (commaFree : ∀ p ∈ params, ',' ∉ p.value)
    (realm : paramValue params "realm" ≠ []) :
    parseChallenge (renderChallenge params) =
      .ok ⟨String.ofList (paramValue params "service"), String.ofList (paramValue params "realm")⟩ := by
  have allFormed := List.all_eq_true.mp formed
  have nonempty : params.map AuthParam.render ≠ [] := by
    rintro none
    exact realm (by rw [List.map_eq_nil_iff.mp none]; rfl)
  have schemeSplit : splitN2 ' ' (renderChallenge params) =
      ["Bearer".toList, [','].intercalate (params.map AuthParam.render)] :=
    splitN2_append_cons ' ' _ _ (by decide)
  have paramsSplit : split ',' ([','].intercalate (params.map AuthParam.render)) =
      params.map AuthParam.render := by
    refine split_intercalate ',' _ nonempty fun part mem => ?_
    obtain ⟨p, inParams, rfl⟩ := List.mem_map.mp mem
    exact p.comma_not_mem_render (allFormed p inParams) (commaFree p inParams)
  unfold parseChallenge
  rw [schemeSplit]
  dsimp only
  rw [if_neg (by decide), paramsSplit, collectAuthParams_render params allFormed]
  dsimp only
  rw [authParam_of_nodup "realm" params distinct, if_neg realm, authParam_of_nodup "service" params distinct]

/-- `ChallengeLoginServer` returns the realm and service of every single
challenge of a 401 response whose parameter values hold no comma. -/
theorem comma_free_challenge_parses (check : String → CheckResponse) (loginServerURL value : String)
    (error : Option String) (answered : check loginServerURL = .response 401 (some [value]) error)
    (params : List AuthParam) (formed : params.all AuthParam.wellFormed)
    (distinct : (params.map AuthParam.key).Nodup) (commaFree : ∀ p ∈ params, ',' ∉ p.value)
    (realm : paramValue params "realm" ≠ []) (rendered : value.toList = renderChallenge params) :
    challengeLoginServer check loginServerURL =
      .ok ⟨String.ofList (paramValue params "service"), String.ofList (paramValue params "realm")⟩ := by
  rw [challengeLoginServer, answered]
  dsimp only
  rw [if_neg (by decide), rendered]
  exact parseChallenge_of_commaFree params formed distinct commaFree realm

def registryChallenge : List AuthParam :=
  [⟨"realm".toList, "https://registry.example/oauth2/token".toList, true⟩,
    ⟨"service".toList, "registry.example".toList, true⟩]

def registryValue : String := "Bearer realm=\"https://registry.example/oauth2/token\",service=\"registry.example\""

def registryServer : String → CheckResponse := fun _ => .response 401 (some [registryValue]) none

theorem registry_challenge_parses :
    challengeLoginServer registryServer "registry.example" =
      .ok ⟨"registry.example", "https://registry.example/oauth2/token"⟩ := by
  rw [comma_free_challenge_parses registryServer "registry.example" registryValue none rfl registryChallenge
    (by decide +kernel) (by decide) (by decide +kernel) (by decide) (by decide +kernel)]
  decide +kernel

end Forge.Guarantees.ChallengeGrammar
