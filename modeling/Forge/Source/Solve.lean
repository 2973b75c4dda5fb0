import Forge.Source.BuildJob
import Forge.Lib.Maps

/-!
# The solve request

Source: `internal/builder/embedded/util.go`: `solveRequestWithContext` and
`getExportMode`; `build.ParseOpt` and `attrMap` of the vendored
`moby/buildkit/cmd/buildctl/build`.

The request is built in the order of the source: the literal request, the
cache reference of the image, the registry cache when layers are cached, the
`no-cache` attribute, the parsed build arguments and the labels. Go maps are
association lists. Three things come from outside the function and are
parameters:

* `reference.ParseNormalizedNamed(image)`, `reference.WithTag(·, cacheTag)`
  and `String()` together are `cacheTagged`;
* `os.Getenv("EMBEDDED_BUILDER_CACHE_MODE")` is `cacheModeEnv`, and
  `identity.NewID()` is `ref`;
* the order in which `for k, v := range m` visits a Go map is the runtime's,
  `order m`; the theorems hold for every order that visits each entry once.
-/

namespace Forge.Source.Solve
open Forge.Source.Api Forge.Source.BuildJob Forge.Lib.Strings Forge.Lib.Maps

def cacheTag : String := "buildcache"

def defaultCacheMode : String := "max"

/-- `getExportMode`, on the value of `EMBEDDED_BUILDER_CACHE_MODE`. -/
def getExportMode (mode : String) : Except String String :=
  if mode = "" then .ok defaultCacheMode
  else if mode ≠ "min" ∧ mode ≠ "max" then .error ("invalid embedded builder cache mode: " ++ mode)
  else .ok mode

/-- The modes `getExportMode` accepts. -/
def ValidCacheMode (mode : String) : Prop :=
  mode = "" ∨ mode = "min" ∨ mode = "max"

theorem getExportMode_eq_error_iff (mode : String) :
    (∃ err, getExportMode mode = .error err) ↔ ¬ ValidCacheMode mode := by
  unfold getExportMode ValidCacheMode
  by_cases empty : mode = ""
  · simp [empty]
  · by_cases known : mode ≠ "min" ∧ mode ≠ "max"
    · simp only [if_neg empty, if_pos known]
      simp [empty, known.1, known.2]
    · simp only [if_neg empty, if_neg known]
      simp only [ne_eq, not_and, not_not] at known
      constructor
      · rintro ⟨_, ⟨⟩⟩
      · intro invalid
        by_cases isMin : mode = "min"
        · exact absurd (.inr (.inl isMin)) invalid
        · exact absurd (.inr (.inr (known isMin))) invalid

structure CacheOptionsEntry where
  type : String
  attrs : StringMap

/-- `controlapi.SolveRequest`: the fields `solveRequestWithContext` sets. -/
structure SolveRequest where
  ref : String
  session : String
  frontend : String
  frontendAttrs : StringMap
  exporter : String
  exporterAttrs : StringMap
  exports : List CacheOptionsEntry
  imports : List CacheOptionsEntry

/-- The order in which `for k, v := range m` visits the entries of `m`. -/
abbrev MapOrder := StringMap → List (Σ _ : String, String)

/-- An order that visits each entry of every map once. -/
def MapOrder.Valid (order : MapOrder) : Prop :=
  ∀ m, (order m).Perm m.entries

/-! ## `ParseOpt` -/

/-- One option of `attrMap`: the text before and after its first `=`, when
there is one. -/
def attrPair (v : String) : Option (Σ _ : String, String) :=
  match splitN2 '=' v.toList with
  | [k, value] => some ⟨String.ofList k, String.ofList value⟩
  | _ => none

/-- `attrMap`: each option assigned in turn; an option without `=` fails. -/
def attrMap (sl : List String) : Except String StringMap :=
  sl.foldlM (fun m v =>
    match attrPair v with
    | some e => .ok (m.insert e.1 e.2)
    | none => .error ("invalid value " ++ v)) ∅

/-- `ParseOpt(opts, nil)`: with no legacy options, the map of `attrMap`
copied into a new map. -/
def parseOpt (order : MapOrder) (opts : List String) : Except String StringMap :=
  match attrMap opts with
  | .error err => .error err
  | .ok modern => .ok (assignAll (order modern) ∅)

/-- The loop of `attrMap` from a map `m`: it fails at the first option
without `=`, and otherwise assigns every option's pair. -/
theorem attrMap_loop (sl : List String) :
    ∀ m : StringMap,
      (sl.foldlM (fun m v =>
          match attrPair v with
          | some e => .ok (m.insert e.1 e.2)
          | none => .error ("invalid value " ++ v)) m : Except String StringMap) =
        match sl.find? (fun v => (attrPair v).isNone) with
        | some v => .error ("invalid value " ++ v)
        | none => .ok (assignAll (sl.filterMap attrPair) m) := by
  induction sl with
  | nil => intro m; rfl
  | cons v rest ih =>
    intro m
    cases parsed : attrPair v with
    | none =>
      simp only [List.foldlM_cons, parsed, List.find?_cons, Option.isNone_none]
      rfl
    | some e =>
      simp only [List.foldlM_cons, parsed, List.find?_cons, Option.isNone_some, List.filterMap_cons,
        assignAll_cons]
      exact ih _

theorem attrMap_eq (sl : List String) :
    attrMap sl = match sl.find? (fun v => (attrPair v).isNone) with
      | some v => .error ("invalid value " ++ v)
      | none => .ok (assignAll (sl.filterMap attrPair) ∅) :=
  attrMap_loop sl ∅

theorem attrPair_eq_none_iff (v : String) : attrPair v = none ↔ '=' ∉ v.toList := by
  unfold attrPair
  by_cases present : '=' ∈ v.toList
  · obtain ⟨k, value, parts⟩ := splitN2_of_mem '=' v.toList present
    simp [parts, present]
  · simp [splitN2_of_not_mem '=' v.toList present, present]

theorem attrPair_append (p x : String) (noEq : '=' ∉ p.toList) :
    attrPair (p ++ x) = (attrPair x).map fun e => ⟨p ++ e.1, e.2⟩ := by
  have joined : ∀ k : List Char, String.ofList (p.toList ++ k) = p ++ String.ofList k := fun k =>
    String.toList_inj.mp (by simp)
  unfold attrPair
  rw [String.toList_append, splitN2_append_of_not_mem '=' x.toList p.toList noEq]
  match splitN2 '=' x.toList with
  | [] => rfl
  | [_] => rfl
  | [k, value] => simp [joined]
  | _ :: _ :: _ :: _ => rfl

theorem parseOpt_eq_error_iff (order : MapOrder) (opts : List String) :
    (∃ err, parseOpt order opts = .error err) ↔ ∃ v ∈ opts, attrPair v = none := by
  rw [parseOpt, attrMap_eq]
  cases found : opts.find? (fun v => (attrPair v).isNone) with
  | some v =>
    have unparsed := List.find?_some found
    exact iff_of_true ⟨_, rfl⟩ ⟨v, List.mem_of_find?_eq_some found, by simpa using unparsed⟩
  | none =>
    rw [List.find?_eq_none] at found
    exact iff_of_false (by simp) fun ⟨v, mem, unparsed⟩ => found v mem (by simp [unparsed])

/-- On success, `ParseOpt` maps each key to the value of its last option,
whatever order copies the map. -/
theorem lookup_parseOpt {order : MapOrder} (valid : order.Valid) {opts : List String} {m : StringMap}
    (parsed : parseOpt order opts = .ok m) (key : String) :
    m.lookup key = ((opts.filterMap attrPair).reverse.dlookup key) := by
  rw [parseOpt, attrMap_eq] at parsed
  cases found : opts.find? (fun v => (attrPair v).isNone) with
  | some v => simp [found] at parsed
  | none =>
    simp only [found, Except.ok.injEq] at parsed
    subst parsed
    rw [lookup_assignAll_of_perm (valid _), AList.lookup_empty, Option.or_none, lookup_assignAll,
      AList.lookup_empty, Option.or_none]

/-! ## `solveRequestWithContext` -/

/-- The request literal of `solveRequestWithContext`. -/
def initialRequest (ref sessionID image : String) : SolveRequest where
  ref := ref
  session := sessionID
  frontend := "dockerfile.v0"
  frontendAttrs := AList.insert "filename" "Dockerfile" ∅
  exporter := "image"
  exporterAttrs := AList.insert "name" image ∅
  exports := []
  imports := []

/-- The registry cache, when image layers are cached: the export of the
layers with `cache-from`, unless layer cache export is disabled, and the
import, unless the build cache is. -/
def withRegistryCache (cacheModeEnv cacheTagRef : String) (opts : BuildOptions) (req : SolveRequest) :
    Except String SolveRequest :=
  let exported : Except String SolveRequest :=
    if !opts.disableLayerCacheExport then
      match getExportMode cacheModeEnv with
      | .error err => .error err
      | .ok cacheMode => .ok { req with
          exports := [⟨"registry", (AList.insert "mode" cacheMode ∅).insert "ref" cacheTagRef⟩]
          frontendAttrs := req.frontendAttrs.insert "cache-from" cacheTagRef }
    else .ok req
  exported.map fun req =>
    if !opts.disableBuildCache then { req with imports := [⟨"registry", AList.insert "ref" cacheTagRef ∅⟩] }
    else req

/-- `no-cache` when the build cache is disabled. -/
def withNoCache (opts : BuildOptions) (req : SolveRequest) : SolveRequest :=
  if opts.disableBuildCache then { req with frontendAttrs := req.frontendAttrs.insert "no-cache" "" }
  else req

/-- The build arguments, each prefixed `build-arg:` and parsed by `ParseOpt`,
assigned to the frontend attributes. -/
def withBuildArgs (order : MapOrder) (opts : BuildOptions) (req : SolveRequest) :
    Except String SolveRequest :=
  if opts.buildArgs.length ≠ 0 then
    match parseOpt order (opts.buildArgs.map ("build-arg:" ++ ·)) with
    | .error err => .error err
    | .ok attrsArgs => .ok { req with frontendAttrs := assignAll (order attrsArgs) req.frontendAttrs }
  else .ok req

/-- The labels, each as `label:` and its key. -/
def withLabels (order : MapOrder) (opts : BuildOptions) (req : SolveRequest) : SolveRequest :=
  { req with frontendAttrs :=
      assignAll ((order opts.labels).map fun e => ⟨"label:" ++ e.1, e.2⟩) req.frontendAttrs }

/-- The registry cache, only when image layers are cached. -/
def withCache (cacheImageLayers : Bool) (cacheModeEnv cacheTagRef : String) (opts : BuildOptions)
    (req : SolveRequest) : Except String SolveRequest :=
  if cacheImageLayers then withRegistryCache cacheModeEnv cacheTagRef opts req else .ok req

def solveRequestWithContext (order : MapOrder) (ref : String) (cacheTagged : String → Except String String)
    (cacheModeEnv sessionID image : String) (cacheImageLayers : Bool) (opts : BuildOptions) :
    Except String SolveRequest :=
  match cacheTagged image with
  | .error err => .error err
  | .ok cacheTagRef =>
    match withCache cacheImageLayers cacheModeEnv cacheTagRef opts (initialRequest ref sessionID image) with
    | .error err => .error err
    | .ok req =>
      match withBuildArgs order opts (withNoCache opts req) with
      | .error err => .error err
      | .ok req => .ok (withLabels order opts req)

/-! ## What each step does -/

theorem solveRequestWithContext_eq_ok {order : MapOrder} {ref : String}
    {cacheTagged : String → Except String String} {cacheModeEnv sessionID image : String}
    {cacheImageLayers : Bool} {opts : BuildOptions} {req : SolveRequest}
    (built : solveRequestWithContext order ref cacheTagged cacheModeEnv sessionID image cacheImageLayers opts =
      .ok req) :
    ∃ cacheTagRef cached argued, cacheTagged image = .ok cacheTagRef ∧
      withCache cacheImageLayers cacheModeEnv cacheTagRef opts (initialRequest ref sessionID image) = .ok cached ∧
      withBuildArgs order opts (withNoCache opts cached) = .ok argued ∧ req = withLabels order opts argued := by
  unfold solveRequestWithContext at built
  split at built
  · cases built
  · rename_i cacheTagRef tagged
    split at built
    · cases built
    · rename_i cached cachedOk
      split at built
      · cases built
      · rename_i argued arguedOk
        exact ⟨cacheTagRef, cached, argued, tagged, cachedOk, arguedOk, (Except.ok.inj built).symm⟩

/-- The registry cache step keeps the literal's other fields, sets the
exports and `cache-from` exactly when layer cache export is on, and the
imports exactly when the build cache is. -/
theorem withRegistryCache_eq_ok {cacheModeEnv cacheTagRef : String} {opts : BuildOptions}
    {req cached : SolveRequest} (done : withRegistryCache cacheModeEnv cacheTagRef opts req = .ok cached) :
    (opts.disableLayerCacheExport = false → ∃ cacheMode, getExportMode cacheModeEnv = .ok cacheMode ∧
        cached.exports = [⟨"registry", (AList.insert "mode" cacheMode ∅).insert "ref" cacheTagRef⟩]) ∧
      (opts.disableLayerCacheExport = true → cached.exports = req.exports) ∧
      cached.frontendAttrs =
        (if opts.disableLayerCacheExport then req.frontendAttrs
          else req.frontendAttrs.insert "cache-from" cacheTagRef) ∧
      cached.imports =
        (if opts.disableBuildCache then req.imports else [⟨"registry", AList.insert "ref" cacheTagRef ∅⟩]) ∧
      cached.ref = req.ref ∧ cached.session = req.session ∧ cached.frontend = req.frontend ∧
      cached.exporter = req.exporter ∧ cached.exporterAttrs = req.exporterAttrs := by
  unfold withRegistryCache at done
  cases exporting : opts.disableLayerCacheExport with
  | true =>
    simp only [exporting, Bool.not_true, Bool.false_eq_true, if_false, Except.map] at done
    cases building : opts.disableBuildCache <;>
      simp only [building, Bool.not_false, Bool.not_true, if_true, Bool.false_eq_true, if_false,
        Except.ok.injEq] at done <;>
      subst done <;> simp
  | false =>
    simp only [exporting, Bool.not_false, if_true] at done
    cases mode : getExportMode cacheModeEnv with
    | error err => simp [mode, Except.map] at done
    | ok cacheMode =>
      simp only [mode, Except.map, Except.ok.injEq] at done
      cases building : opts.disableBuildCache <;>
        simp only [building, Bool.not_false, Bool.not_true, if_true, Bool.false_eq_true, if_false] at done <;>
        subst done <;> simp

theorem withRegistryCache_eq_error_iff (cacheModeEnv cacheTagRef : String) (opts : BuildOptions)
    (req : SolveRequest) :
    (∃ err, withRegistryCache cacheModeEnv cacheTagRef opts req = .error err) ↔
      opts.disableLayerCacheExport = false ∧ ¬ ValidCacheMode cacheModeEnv := by
  rw [← getExportMode_eq_error_iff]
  unfold withRegistryCache
  cases exporting : opts.disableLayerCacheExport with
  | true => simp [Except.map]
  | false =>
    cases mode : getExportMode cacheModeEnv <;> simp [Except.map]

theorem withBuildArgs_eq_error_iff (order : MapOrder) (opts : BuildOptions) (req : SolveRequest) :
    (∃ err, withBuildArgs order opts req = .error err) ↔ ∃ arg ∈ opts.buildArgs, '=' ∉ arg.toList := by
  have noEq : '=' ∉ "build-arg:".toList := by decide
  have prefixed : (∃ v ∈ opts.buildArgs.map ("build-arg:" ++ ·), attrPair v = none) ↔
      ∃ arg ∈ opts.buildArgs, '=' ∉ arg.toList := by
    simp only [List.mem_map, exists_exists_and_eq_and, attrPair_eq_none_iff, String.toList_append,
      List.mem_append, noEq, false_or]
  unfold withBuildArgs
  by_cases empty : opts.buildArgs = []
  · simp [empty]
  · rw [if_pos (by simpa using empty), ← prefixed, ← parseOpt_eq_error_iff order]
    cases parseOpt order (opts.buildArgs.map ("build-arg:" ++ ·)) <;> simp

/-! ## The frontend attributes of each step -/

theorem lookup_initialRequest (ref sessionID image key : String) :
    (initialRequest ref sessionID image).frontendAttrs.lookup key =
      if key = "filename" then some "Dockerfile" else none := by
  unfold initialRequest
  by_cases same : key = "filename"
  · rw [if_pos same, same]
    exact AList.lookup_insert _
  · rw [if_neg same]
    exact (AList.lookup_insert_ne same).trans (AList.lookup_empty _)

theorem lookup_withNoCache (opts : BuildOptions) (req : SolveRequest) (key : String) :
    (withNoCache opts req).frontendAttrs.lookup key =
      if opts.disableBuildCache ∧ key = "no-cache" then some "" else req.frontendAttrs.lookup key := by
  unfold withNoCache
  cases opts.disableBuildCache with
  | false => simp
  | true =>
    by_cases same : key = "no-cache"
    · subst same
      simp
    · simp [AList.lookup_insert_ne same, same]

theorem lookup_withCache {cacheImageLayers : Bool} {cacheModeEnv cacheTagRef : String} {opts : BuildOptions}
    {req cached : SolveRequest} (done : withCache cacheImageLayers cacheModeEnv cacheTagRef opts req = .ok cached)
    (key : String) :
    cached.frontendAttrs.lookup key =
      if cacheImageLayers ∧ opts.disableLayerCacheExport = false ∧ key = "cache-from" then some cacheTagRef
      else req.frontendAttrs.lookup key := by
  unfold withCache at done
  cases cacheImageLayers with
  | false =>
    cases done
    simp
  | true =>
    rw [if_pos rfl] at done
    rw [(withRegistryCache_eq_ok done).2.2.1]
    cases opts.disableLayerCacheExport with
    | true => simp
    | false =>
      by_cases same : key = "cache-from"
      · subst same
        simp
      · simp [AList.lookup_insert_ne same, same]

theorem filterMap_attrPair_buildArgs (buildArgs : List String) :
    (buildArgs.map ("build-arg:" ++ ·)).filterMap attrPair =
      (buildArgs.filterMap attrPair).map fun e => ⟨"build-arg:" ++ e.1, e.2⟩ := by
  rw [List.filterMap_map, List.map_filterMap]
  congr 1
  funext arg
  exact attrPair_append "build-arg:" arg (by decide)

theorem withBuildArgs_fields {order : MapOrder} {opts : BuildOptions} {req argued : SolveRequest}
    (done : withBuildArgs order opts req = .ok argued) :
    argued = { req with frontendAttrs := argued.frontendAttrs } := by
  unfold withBuildArgs at done
  split at done
  · split at done
    · cases done
    · cases done
      rfl
  · cases done
    rfl

theorem withBuildArgs_eq_ok {order : MapOrder} (valid : order.Valid) {opts : BuildOptions}
    {req argued : SolveRequest} (done : withBuildArgs order opts req = .ok argued) :
    argued = { req with frontendAttrs := argued.frontendAttrs } ∧ ∀ key,
      argued.frontendAttrs.lookup key =
        ((((opts.buildArgs.filterMap attrPair).map fun e => (⟨"build-arg:" ++ e.1, e.2⟩ : Σ _ : String, String)).reverse.dlookup key).or
          (req.frontendAttrs.lookup key)) := by
  unfold withBuildArgs at done
  by_cases empty : opts.buildArgs = []
  · rw [if_neg (by simp [empty])] at done
    cases done
    simp [empty]
  · rw [if_pos (by simpa using empty)] at done
    cases parsing : parseOpt order (opts.buildArgs.map ("build-arg:" ++ ·)) with
    | error err => simp [parsing] at done
    | ok attrsArgs =>
      simp only [parsing, Except.ok.injEq] at done
      subst done
      refine ⟨rfl, fun key => ?_⟩
      rw [lookup_assignAll_of_perm (valid _), lookup_parseOpt valid parsing, filterMap_attrPair_buildArgs]

theorem lookup_withLabels {order : MapOrder} (valid : order.Valid) (opts : BuildOptions) (req : SolveRequest)
    (key : String) :
    (withLabels order opts req).frontendAttrs.lookup key =
      (((opts.labels.entries.map fun e => (⟨"label:" ++ e.1, e.2⟩ : Σ _ : String, String)).dlookup key).or
        (req.frontendAttrs.lookup key)) := by
  have reordered : ((order opts.labels).map fun e => (⟨"label:" ++ e.1, e.2⟩ : Σ _ : String, String)).Perm
      (opts.labels.entries.map fun e => ⟨"label:" ++ e.1, e.2⟩) := (valid opts.labels).map _
  have distinct : (opts.labels.entries.map fun e => (⟨"label:" ++ e.1, e.2⟩ : Σ _ : String, String)).NodupKeys := by
    have renamed : ((opts.labels.entries.map Sigma.fst).map ("label:" ++ ·)).Nodup :=
      opts.labels.nodupKeys.map fun a b same => (String.append_right_inj "label:").mp same
    simpa [List.NodupKeys, List.keys, List.map_map, Function.comp_def] using renamed
  unfold withLabels
  rw [lookup_assignAll, List.perm_dlookup key distinct ((List.reverse_perm _).trans reordered).symm |>.symm]

end Forge.Source.Solve
