import Forge.Source.Solve

/-!
# What the solve request holds

`solveRequestWithContext` turns the build options into the request BuildKit
solves. Its frontend attributes are exactly these: `filename` is
`Dockerfile`; `cache-from` is the image's `buildcache` reference when layers
are cached and their export is on; `no-cache` is empty when the build cache is
disabled; `build-arg:NAME` is the value the last build argument naming `NAME`
gives it; `label:KEY` is the label of `KEY`; and nothing else is set
(`FrontendAttrsFollow`). No build argument or label can set or replace one of
the fixed attributes, since their keys start with other letters, and Go's
random order of map iteration does not change the request. The request fails
only when the image has no cache reference, when an export needs a cache mode
that is not `min` or `max`, or when a build argument has no `=`.
-/

namespace Forge.Guarantees.SolveAttributes
open Forge.Source.Api Forge.Source.BuildJob Forge.Source.Solve Forge.Lib.Strings Forge.Lib.Maps

/-- The value the last build argument naming `name` gives it: the text
after its first `=`. -/
def lastBuildArg (name : String) (buildArgs : List String) : Option String :=
  (buildArgs.filterMap fun arg =>
    match splitN2 '=' arg.toList with
    | [key, value] => if String.ofList key = name then some (String.ofList value) else none
    | _ => none).getLast?

/-- The frontend attributes the options call for. -/
structure FrontendAttrsFollow (cacheImageLayers : Bool) (cacheTagRef : String) (opts : BuildOptions)
    (attrs : StringMap) : Prop where
  filename : attrs.lookup "filename" = some "Dockerfile"
  cacheFrom : attrs.lookup "cache-from" =
    if cacheImageLayers ∧ opts.disableLayerCacheExport = false then some cacheTagRef else none
  noCache : attrs.lookup "no-cache" = if opts.disableBuildCache then some "" else none
  buildArg : ∀ name, attrs.lookup ("build-arg:" ++ name) = lastBuildArg name opts.buildArgs
  label : ∀ name, attrs.lookup ("label:" ++ name) = opts.labels.lookup name
  others : ∀ key, key ≠ "filename" → key ≠ "cache-from" → key ≠ "no-cache" →
    (∀ name, key ≠ "build-arg:" ++ name) → (∀ name, key ≠ "label:" ++ name) → attrs.lookup key = none

/-! ## Keys -/

theorem ne_append_of_head {s p : String} (x : String) (differ : s.toList.head? ≠ p.toList.head?)
    (nonempty : p.toList ≠ []) : s ≠ p ++ x := by
  intro same
  obtain ⟨c, cs, spelled⟩ := List.exists_cons_of_ne_nil nonempty
  apply differ
  rw [same, String.toList_append, spelled]
  rfl

theorem append_injective (p : String) : Function.Injective (p ++ ·) :=
  fun _ _ same => (String.append_right_inj p).mp same

theorem buildArg_ne_label (a b : String) : "build-arg:" ++ a ≠ "label:" ++ b :=
  ne_append_of_head b (by simp) (by decide)

/-- The `build-arg:` entries of the parsed build arguments. -/
def buildArgEntries (buildArgs : List String) : List (Σ _ : String, String) :=
  (buildArgs.filterMap attrPair).map fun e => ⟨"build-arg:" ++ e.1, e.2⟩

theorem dlookup_buildArgEntries (buildArgs : List String) (name : String) :
    (buildArgEntries buildArgs).reverse.dlookup ("build-arg:" ++ name) = lastBuildArg name buildArgs := by
  rw [buildArgEntries, ← List.map_reverse, dlookup_map_key (append_injective "build-arg:"),
    dlookup_reverse, lastBuildArg, List.filterMap_filterMap]
  congr 2
  funext arg
  unfold attrPair
  rcases splitN2 '=' arg.toList with _ | ⟨k, _ | ⟨value, _ | _⟩⟩ <;> rfl

theorem dlookup_buildArgEntries_of_unnamed (buildArgs : List String) {key : String}
    (unnamed : ∀ name, key ≠ "build-arg:" ++ name) : (buildArgEntries buildArgs).reverse.dlookup key = none := by
  rw [buildArgEntries, ← List.map_reverse]
  exact dlookup_map_key_of_not_mem _ fun name same => unnamed name same.symm

/-- The `label:` entries of the labels. -/
def labelEntries (labels : StringMap) : List (Σ _ : String, String) :=
  labels.entries.map fun e => ⟨"label:" ++ e.1, e.2⟩

theorem dlookup_labelEntries (labels : StringMap) (name : String) :
    (labelEntries labels).dlookup ("label:" ++ name) = labels.lookup name :=
  dlookup_map_key (append_injective "label:") _ _

theorem dlookup_labelEntries_of_unnamed (labels : StringMap) {key : String}
    (unnamed : ∀ name, key ≠ "label:" ++ name) : (labelEntries labels).dlookup key = none :=
  dlookup_map_key_of_not_mem _ fun name same => unnamed name same.symm

theorem fixed_ne_prefixed (name : String) :
    ("filename" ≠ "build-arg:" ++ name ∧ "cache-from" ≠ "build-arg:" ++ name ∧ "no-cache" ≠ "build-arg:" ++ name) ∧
      ("filename" ≠ "label:" ++ name ∧ "cache-from" ≠ "label:" ++ name ∧ "no-cache" ≠ "label:" ++ name) :=
  ⟨⟨ne_append_of_head name (by decide) (by decide), ne_append_of_head name (by decide) (by decide),
      ne_append_of_head name (by decide) (by decide)⟩,
    ⟨ne_append_of_head name (by decide) (by decide), ne_append_of_head name (by decide) (by decide),
      ne_append_of_head name (by decide) (by decide)⟩⟩

/-! ## The frontend attributes -/

/-- The attributes `solveRequestWithContext` sets before the build arguments
and labels. -/
def fixedAttr (cacheImageLayers : Bool) (cacheTagRef : String) (opts : BuildOptions) (key : String) :
    Option String :=
  if opts.disableBuildCache ∧ key = "no-cache" then some ""
  else if cacheImageLayers ∧ opts.disableLayerCacheExport = false ∧ key = "cache-from" then some cacheTagRef
  else if key = "filename" then some "Dockerfile" else none

theorem lookup_solveRequest {order : MapOrder} (valid : order.Valid) {ref : String}
    {cacheTagged : String → Except String String} {cacheModeEnv sessionID image : String}
    {cacheImageLayers : Bool} {opts : BuildOptions} {req : SolveRequest}
    (built : solveRequestWithContext order ref cacheTagged cacheModeEnv sessionID image cacheImageLayers opts =
      .ok req) :
    ∃ cacheTagRef, cacheTagged image = .ok cacheTagRef ∧ ∀ key,
      req.frontendAttrs.lookup key =
        ((labelEntries opts.labels).dlookup key).or
          (((buildArgEntries opts.buildArgs).reverse.dlookup key).or (fixedAttr cacheImageLayers cacheTagRef opts key)) := by
  obtain ⟨cacheTagRef, cached, argued, tagged, cachedOk, arguedOk, rfl⟩ := solveRequestWithContext_eq_ok built
  refine ⟨cacheTagRef, tagged, fun key => ?_⟩
  rw [lookup_withLabels valid, (withBuildArgs_eq_ok valid arguedOk).2, lookup_withNoCache,
    lookup_withCache cachedOk, lookup_initialRequest]
  rfl

/-- For every order of map iteration, a request `solveRequestWithContext`
builds has the frontend attributes the options call for. -/
theorem frontend_attrs_follow_options {order : MapOrder} (valid : order.Valid) {ref : String}
    {cacheTagged : String → Except String String} {cacheModeEnv sessionID image : String}
    {cacheImageLayers : Bool} {opts : BuildOptions} {req : SolveRequest}
    (built : solveRequestWithContext order ref cacheTagged cacheModeEnv sessionID image cacheImageLayers opts =
      .ok req) :
    ∃ cacheTagRef, cacheTagged image = .ok cacheTagRef ∧
      FrontendAttrsFollow cacheImageLayers cacheTagRef opts req.frontendAttrs := by
  obtain ⟨cacheTagRef, tagged, attrs⟩ := lookup_solveRequest valid built
  have fixedKey : ∀ key, (∀ name, key ≠ "build-arg:" ++ name) → (∀ name, key ≠ "label:" ++ name) →
      req.frontendAttrs.lookup key = fixedAttr cacheImageLayers cacheTagRef opts key := by
    intro key unnamedArg unnamedLabel
    rw [attrs, dlookup_labelEntries_of_unnamed _ unnamedLabel, dlookup_buildArgEntries_of_unnamed _ unnamedArg]
    rfl
  have notFixed : ∀ key, key ≠ "filename" → key ≠ "cache-from" → key ≠ "no-cache" →
      fixedAttr cacheImageLayers cacheTagRef opts key = none := by
    intro key notFile notCache notNoCache
    simp [fixedAttr, notFile, notCache, notNoCache]
  refine ⟨cacheTagRef, tagged, ⟨?_, ?_, ?_, fun name => ?_, fun name => ?_, ?_⟩⟩
  · rw [fixedKey _ (fun name => (fixed_ne_prefixed name).1.1) (fun name => (fixed_ne_prefixed name).2.1)]
    simp [fixedAttr]
  · rw [fixedKey _ (fun name => (fixed_ne_prefixed name).1.2.1) (fun name => (fixed_ne_prefixed name).2.2.1)]
    by_cases exported : cacheImageLayers ∧ opts.disableLayerCacheExport = false
    · simp [fixedAttr, exported]
    · simp only [fixedAttr, if_neg exported]
      simp [exported]
  · rw [fixedKey _ (fun name => (fixed_ne_prefixed name).1.2.2) (fun name => (fixed_ne_prefixed name).2.2.2)]
    cases building : opts.disableBuildCache <;> simp [fixedAttr, building]
  · have unnamedLabel : ∀ other, "build-arg:" ++ name ≠ "label:" ++ other := buildArg_ne_label name
    obtain ⟨notFile, notCache, notNoCache⟩ := (fixed_ne_prefixed name).1
    rw [attrs, dlookup_labelEntries_of_unnamed _ unnamedLabel, dlookup_buildArgEntries,
      notFixed _ notFile.symm notCache.symm notNoCache.symm, Option.none_or, Option.or_none]
  · have unnamedArg : ∀ other, "label:" ++ name ≠ "build-arg:" ++ other := fun other same =>
      buildArg_ne_label other name same.symm
    obtain ⟨notFile, notCache, notNoCache⟩ := (fixed_ne_prefixed name).2
    rw [attrs, dlookup_labelEntries, dlookup_buildArgEntries_of_unnamed _ unnamedArg,
      notFixed _ notFile.symm notCache.symm notNoCache.symm, Option.none_or, Option.or_none]
  · intro key notFile notCache notNoCache unnamedArg unnamedLabel
    rw [fixedKey key unnamedArg unnamedLabel, notFixed key notFile notCache notNoCache]

def releaseBuild : BuildOptions where
  contextURL := "https://ctx.example/app.tgz"
  contextTimeoutSeconds := 0
  imageName := "app"
  imageSizeLimit := 0
  labels := AList.insert "team" "ml" ∅
  buildArgs := ["VERSION=1", "FLAGS=a=b", "VERSION=2"]
  disableBuildCache := false
  disableLayerCacheExport := false
  timeoutSeconds := 0
  registries := []
  pushRegistries := ["registry.example"]
  pluginData := ∅

def releaseCacheRef : String → Except String String := fun _ => .ok "registry.example/app:buildcache"

theorem release_build_attrs :
    MapOrder.Valid AList.entries ∧
      ∃ req, solveRequestWithContext AList.entries "ref" releaseCacheRef "" "session"
          "registry.example/app:latest" true releaseBuild = .ok req ∧
        ∃ cacheTagRef, releaseCacheRef "registry.example/app:latest" = .ok cacheTagRef ∧
          FrontendAttrsFollow true cacheTagRef releaseBuild req.frontendAttrs := by
  have valid : MapOrder.Valid AList.entries := fun _ => List.Perm.refl _
  obtain ⟨req, built⟩ : ∃ req, solveRequestWithContext AList.entries "ref" releaseCacheRef "" "session"
      "registry.example/app:latest" true releaseBuild = .ok req := ⟨_, rfl⟩
  exact ⟨valid, req, built, frontend_attrs_follow_options valid built⟩

/-! ## When the request fails, and its cache -/

theorem cacheOptions_withCache {cacheImageLayers : Bool} {cacheModeEnv cacheTagRef ref sessionID image : String}
    {opts : BuildOptions} {cached : SolveRequest}
    (done : withCache cacheImageLayers cacheModeEnv cacheTagRef opts (initialRequest ref sessionID image) =
      .ok cached) :
    (cacheImageLayers = true → opts.disableLayerCacheExport = false → ∃ cacheMode,
        getExportMode cacheModeEnv = .ok cacheMode ∧
          cached.exports = [⟨"registry", (AList.insert "mode" cacheMode ∅).insert "ref" cacheTagRef⟩]) ∧
      (cacheImageLayers = false ∨ opts.disableLayerCacheExport = true → cached.exports = []) ∧
      cached.imports =
        if cacheImageLayers ∧ opts.disableBuildCache = false then [⟨"registry", AList.insert "ref" cacheTagRef ∅⟩]
        else [] := by
  unfold withCache at done
  cases cacheImageLayers with
  | false =>
    cases done
    exact ⟨fun layers => absurd layers (by decide), fun _ => rfl, by simp [initialRequest]⟩
  | true =>
    rw [if_pos rfl] at done
    obtain ⟨exported, notExported, -, imported, -⟩ := withRegistryCache_eq_ok done
    refine ⟨fun _ => exported, fun off => ?_, ?_⟩
    · exact notExported (off.resolve_left (by decide))
    · rw [imported]
      cases opts.disableBuildCache <;> rfl

theorem exists_ok_iff_not {ε α : Type} {x : Except ε α} {P : Prop} (failing : (∃ e, x = .error e) ↔ P) :
    (∃ a, x = .ok a) ↔ ¬ P := by
  rw [← failing]
  cases x <;> simp

theorem withCache_ok_iff (cacheImageLayers : Bool) (cacheModeEnv cacheTagRef : String) (opts : BuildOptions)
    (req : SolveRequest) :
    (∃ cached, withCache cacheImageLayers cacheModeEnv cacheTagRef opts req = .ok cached) ↔
      (cacheImageLayers = true → opts.disableLayerCacheExport = false → ValidCacheMode cacheModeEnv) := by
  unfold withCache
  cases cacheImageLayers with
  | false => simp
  | true =>
    rw [if_pos rfl, exists_ok_iff_not (withRegistryCache_eq_error_iff cacheModeEnv cacheTagRef opts req)]
    simp

theorem withBuildArgs_ok_iff (order : MapOrder) (opts : BuildOptions) (req : SolveRequest) :
    (∃ argued, withBuildArgs order opts req = .ok argued) ↔ ∀ arg ∈ opts.buildArgs, '=' ∈ arg.toList := by
  rw [exists_ok_iff_not (withBuildArgs_eq_error_iff order opts req)]
  simp

/-- `solveRequestWithContext` fails exactly when the image has no cache
reference, when an export of the layers meets a cache mode other than `min`
or `max`, or when a build argument has no `=`; a request it builds exports
and imports the registry cache of the image's cache reference as the flags
say. -/
theorem solve_request_errors_and_cache (order : MapOrder) (ref : String)
    (cacheTagged : String → Except String String) (cacheModeEnv sessionID image : String)
    (cacheImageLayers : Bool) (opts : BuildOptions) :
    ((∃ req, solveRequestWithContext order ref cacheTagged cacheModeEnv sessionID image cacheImageLayers opts =
        .ok req) ↔
      (∃ cacheTagRef, cacheTagged image = .ok cacheTagRef) ∧
        (cacheImageLayers = true → opts.disableLayerCacheExport = false → ValidCacheMode cacheModeEnv) ∧
        ∀ arg ∈ opts.buildArgs, '=' ∈ arg.toList) ∧
    ∀ req, solveRequestWithContext order ref cacheTagged cacheModeEnv sessionID image cacheImageLayers opts =
        .ok req →
      ∃ cacheTagRef, cacheTagged image = .ok cacheTagRef ∧
        (cacheImageLayers = true → opts.disableLayerCacheExport = false → ∃ cacheMode,
          getExportMode cacheModeEnv = .ok cacheMode ∧
            req.exports = [⟨"registry", (AList.insert "mode" cacheMode ∅).insert "ref" cacheTagRef⟩]) ∧
        (cacheImageLayers = false ∨ opts.disableLayerCacheExport = true → req.exports = []) ∧
        req.imports =
          if cacheImageLayers ∧ opts.disableBuildCache = false then [⟨"registry", AList.insert "ref" cacheTagRef ∅⟩]
          else [] := by
  refine ⟨⟨fun ⟨req, built⟩ => ?_, fun ⟨⟨cacheTagRef, tagged⟩, modeOk, argsOk⟩ => ?_⟩, fun req built => ?_⟩
  · obtain ⟨cacheTagRef, cached, argued, tagged, cachedOk, arguedOk, -⟩ := solveRequestWithContext_eq_ok built
    exact ⟨⟨cacheTagRef, tagged⟩, (withCache_ok_iff _ _ _ _ _).mp ⟨cached, cachedOk⟩,
      (withBuildArgs_ok_iff _ _ _).mp ⟨argued, arguedOk⟩⟩
  · obtain ⟨cached, cachedOk⟩ := (withCache_ok_iff cacheImageLayers cacheModeEnv cacheTagRef opts
      (initialRequest ref sessionID image)).mpr modeOk
    obtain ⟨argued, arguedOk⟩ := (withBuildArgs_ok_iff order opts (withNoCache opts cached)).mpr argsOk
    refine ⟨withLabels order opts argued, ?_⟩
    rw [solveRequestWithContext, tagged]
    dsimp only
    rw [cachedOk]
    dsimp only
    rw [arguedOk]
  · obtain ⟨cacheTagRef, cached, argued, tagged, cachedOk, arguedOk, rfl⟩ := solveRequestWithContext_eq_ok built
    have kept : (withLabels order opts argued).exports = cached.exports ∧
        (withLabels order opts argued).imports = cached.imports := by
      rw [withBuildArgs_fields arguedOk]
      unfold withNoCache withLabels
      split <;> exact ⟨rfl, rfl⟩
    obtain ⟨exported, notExported, imported⟩ := cacheOptions_withCache cachedOk
    exact ⟨cacheTagRef, tagged, fun layers exporting => kept.1 ▸ exported layers exporting,
      fun off => kept.1 ▸ notExported off, kept.2 ▸ imported⟩

end Forge.Guarantees.SolveAttributes
