import Forge.Source.BuildJob

/-!
# The embedded image builder

Source: `internal/builder/embedded/driver.go`: `BuildAndPush`, `build`,
`tag`, `push` and `validateImageSize`.

The context extractor, the preparer plugins and the BuildKit client are
oracles. Each call the driver makes on them is recorded with its arguments,
in order, and answered by the oracle: `build`'s session, solve request, solve
and progress display give one answer, and so do the session and `PushImage`
of `push`; the answers of `TagImage` and `push` may differ from one iteration
of the loop to the next. `reference.ParseNormalizedNamed` followed by
`TagNameOnly` and `String()` is the parameter `normalize`.

The module's `go 1.17` directive fixes the meaning of `for … range`: the loop
has one variable, assigned at each iteration, and a closure that `build`
defers inside the loop reads that variable when it runs, at `build`'s return.
Errors of `Cleanup` are only logged.
-/

namespace Forge.Source.Driver
open Forge.Source.Api Forge.Source.BuildJob Forge.Lib.Strings

/-- A call of the driver on the extractor, a plugin or the BuildKit client. -/
inductive Call (P : Type) where
  | configureHosts (registries : List RegistryConfig)
  | resetHostConfigurations
  | extract (url : String)
  | prepare (plugin : P) (contextPath : String)
  | cleanup (plugin : P)
  | solve (image : String)
  | getImage (image : String)
  | tag (image target : String)
  | push (image : String)
  deriving DecidableEq, Repr

/-- What the extractor, the plugins and the BuildKit client answer. -/
structure Buildkit (P : Type) where
  /-- `contextExtractor`: the directory the context was unpacked into -/
  extract : Except String String
  prepare : P → Except String Unit
  /-- the session, the solve request and the solve of `build` -/
  solve : Except String Unit
  /-- `GetImage`: the image's `ContentSize` -/
  getImage : String → Except String Nat
  /-- `TagImage` at an iteration of the loop -/
  tag : Nat → String → String → Except String Unit
  /-- the session and `PushImage` at an iteration of the loop -/
  push : Nat → String → Except String Unit

variable {P : Type}

/-! ## `build` -/

/-- The frame of `build` as its loop leaves it: the loop's one variable
`preparerPlugin`, and the deferred calls, most recent first. A deferred call
is given the variable's value when it runs. -/
structure Frame (P : Type) where
  preparerPlugin : Option P
  deferred : List (Option P → List (Call P))

/-- The closure deferred inside the loop: `preparerPlugin.Cleanup()`, on the
plugin the variable holds when the closure runs. The variable is set before
the first closure is deferred, so it is never nil there. -/
def cleanupClosure (current : Option P) : List (Call P) :=
  current.toList.map .cleanup

/-- The range loop of `build`: assign the variable, defer the cleanup, call
`Prepare`; an error of `Prepare` returns from `build` at once. -/
def prepareLoop (bk : Buildkit P) (contextPath : String) :
    List P → Frame P → List (Call P) × Frame P × Except String Unit
  | [], frame => ([], frame, .ok ())
  | plugin :: rest, frame =>
    let frame : Frame P := ⟨some plugin, cleanupClosure :: frame.deferred⟩
    match bk.prepare plugin with
    | .error err => ([.prepare plugin contextPath], frame, .error err)
    | .ok () =>
      let (calls, frame, result) := prepareLoop bk contextPath rest frame
      (.prepare plugin contextPath :: calls, frame, result)

/-- The deferred calls at the return of `build`, the most recent first. -/
def Frame.runDeferred (frame : Frame P) : List (Call P) :=
  frame.deferred.flatMap fun closure => closure frame.preparerPlugin

def build (bk : Buildkit P) (plugins : List P) (image : String) (opts : BuildOptions) :
    List (Call P) × Except String Unit :=
  match bk.extract with
  | .error err => ([.extract opts.contextURL], .error err)
  | .ok contentsDir =>
    let (prepared, frame, looped) := prepareLoop bk contentsDir plugins ⟨none, []⟩
    let (solved, result) : List (Call P) × Except String Unit :=
      match looped with
      | .error err => ([], .error err)
      | .ok () => ([.solve image], bk.solve)
    (.extract opts.contextURL :: prepared ++ solved ++ frame.runDeferred, result)

/-! ## What the loop of `build` leaves -/

/-- The plugins whose `Prepare` the loop calls: every one up to and
including the first that fails. -/
def preparedPlugins (bk : Buildkit P) : List P → List P
  | [] => []
  | plugin :: rest =>
    match bk.prepare plugin with
    | .error _ => [plugin]
    | .ok () => plugin :: preparedPlugins bk rest

theorem getLast?_or_cons (plugin : P) (rest : List P) (fallback : Option P) :
    (plugin :: rest).getLast?.or fallback = rest.getLast?.or (some plugin) := by
  rw [List.getLast?_cons]
  cases rest.getLast? <;> rfl

/-- The loop calls `Prepare` on the prepared plugins, leaves its variable on
the last of them, defers one cleanup closure for each, and fails with the
first error of `Prepare`. -/
theorem prepareLoop_eq (bk : Buildkit P) (contextPath : String) :
    ∀ (plugins : List P) (frame : Frame P),
      prepareLoop bk contextPath plugins frame =
        ((preparedPlugins bk plugins).map (.prepare · contextPath),
          ⟨(preparedPlugins bk plugins).getLast?.or frame.preparerPlugin,
            List.replicate (preparedPlugins bk plugins).length cleanupClosure ++ frame.deferred⟩,
          plugins.forM bk.prepare)
  | [], frame => by
    simp [prepareLoop, preparedPlugins, pure, Except.pure]
  | plugin :: rest, frame => by
    unfold prepareLoop preparedPlugins
    cases prepared : bk.prepare plugin with
    | error err => simp [List.forM_eq_forM, List.forM_cons, prepared, bind, Except.bind]
    | ok u =>
      obtain ⟨⟩ := u
      dsimp only
      rw [prepareLoop_eq bk contextPath rest, getLast?_or_cons]
      simp only [List.map_cons, List.length_cons, List.replicate_succ', List.append_assoc,
        List.singleton_append, List.forM_eq_forM, List.forM_cons, prepared, bind, Except.bind]

/-- At `build`'s return every deferred closure of the loop reads the same
variable: each cleans the last prepared plugin. -/
theorem runDeferred_of_replicate (last : P) (n : Nat) :
    (⟨some last, List.replicate n cleanupClosure⟩ : Frame P).runDeferred =
      List.replicate n (.cleanup last) := by
  induction n with
  | zero => rfl
  | succ n ih =>
    simp only [Frame.runDeferred, List.replicate_succ, List.flatMap_cons] at ih ⊢
    rw [ih]
    rfl

/-- The cleanups `build`'s deferred closures make: one for each prepared
plugin, each on the last of them. -/
def deferredCleanups (prepared : List P) : List (Call P) :=
  match prepared.getLast? with
  | none => []
  | some last => List.replicate prepared.length (.cleanup last)

/-- Once the context is extracted, `build` prepares the plugins up to the
first failure, solves if none failed, and returns through the deferred
cleanups. -/
theorem build_of_extracted (bk : Buildkit P) (plugins : List P) (image : String)
    (opts : BuildOptions) {contentsDir : String} (extracted : bk.extract = .ok contentsDir) :
    build bk plugins image opts =
      (.extract opts.contextURL :: (preparedPlugins bk plugins).map (.prepare · contentsDir) ++
          (if (plugins.forM bk.prepare).toBool then [.solve image] else []) ++
          deferredCleanups (preparedPlugins bk plugins),
        plugins.forM bk.prepare >>= fun () => bk.solve) := by
  have cleanups : (⟨(preparedPlugins bk plugins).getLast?.or none,
      List.replicate (preparedPlugins bk plugins).length cleanupClosure ++ []⟩ : Frame P).runDeferred =
      deferredCleanups (preparedPlugins bk plugins) := by
    rw [Option.or_none, List.append_nil, deferredCleanups]
    cases lastIs : (preparedPlugins bk plugins).getLast? with
    | none => simp [List.getLast?_eq_none_iff.mp lastIs, Frame.runDeferred]
    | some last => exact runDeferred_of_replicate last _
  unfold build
  rw [extracted]
  dsimp only
  rw [prepareLoop_eq, cleanups]
  cases looped : plugins.forM bk.prepare with
  | error err => simp [Except.toBool, bind, Except.bind]
  | ok u => simp [Except.toBool, bind, Except.bind]

/-- Whether a call is a solve. -/
def Call.isSolve : Call P → Bool
  | .solve _ => true
  | _ => false

theorem mem_deferredCleanups {prepared : List P} {call : Call P}
    (mem : call ∈ deferredCleanups prepared) : ∃ plugin, call = .cleanup plugin := by
  unfold deferredCleanups at mem
  split at mem
  · cases mem
  · exact ⟨_, List.eq_of_mem_replicate mem⟩

theorem mem_build {bk : Buildkit P} {plugins : List P} {image : String} {opts : BuildOptions}
    {call : Call P} (mem : call ∈ (build bk plugins image opts).1) :
    call = .extract opts.contextURL ∨ (∃ plugin contextPath, call = .prepare plugin contextPath) ∨
      call = .solve image ∨ ∃ plugin, call = .cleanup plugin := by
  cases extracted : bk.extract with
  | error err =>
    simp only [build, extracted, List.mem_singleton] at mem
    exact .inl mem
  | ok contentsDir =>
    rw [build_of_extracted bk plugins image opts extracted] at mem
    simp only [List.mem_cons, List.mem_append, List.mem_map] at mem
    rcases mem with ((extracting | ⟨plugin, -, rfl⟩) | solved) | cleaned
    · exact .inl extracting
    · exact .inr (.inl ⟨plugin, contentsDir, rfl⟩)
    · split at solved
      · exact .inr (.inr (.inl (List.mem_singleton.mp solved)))
      · cases solved
    · exact .inr (.inr (.inr (mem_deferredCleanups cleaned)))

theorem calls_build (bk : Buildkit P) (plugins : List P) (image : String) (opts : BuildOptions) :
    (build bk plugins image opts).1.countP Call.isSolve ≤ 1 ∧
      ∀ call ∈ (build bk plugins image opts).1,
        (∀ solved, call = .solve solved → solved = image) ∧ ∀ source target, call ≠ .tag source target := by
  refine ⟨?_, fun call mem => ?_⟩
  · cases extracted : bk.extract with
    | error err => simp [build, extracted, Call.isSolve]
    | ok contentsDir =>
      rw [build_of_extracted bk plugins image opts extracted]
      have quietCount : (deferredCleanups (preparedPlugins bk plugins)).countP Call.isSolve = 0 :=
        List.countP_eq_zero.mpr fun call mem => by
          obtain ⟨plugin, rfl⟩ := mem_deferredCleanups mem
          exact Bool.false_ne_true
      dsimp only
      rw [List.countP_append, quietCount]
      split <;> simp [Call.isSolve, List.countP_map, Function.comp_def]
  · rcases mem_build mem with rfl | ⟨_, _, rfl⟩ | rfl | ⟨_, rfl⟩
    · exact ⟨by rintro _ ⟨⟩, by rintro _ _ ⟨⟩⟩
    · exact ⟨by rintro _ ⟨⟩, by rintro _ _ ⟨⟩⟩
    · exact ⟨fun _ same => (Call.solve.inj same).symm, by rintro _ _ ⟨⟩⟩
    · exact ⟨by rintro _ ⟨⟩, by rintro _ _ ⟨⟩⟩

/-! ## `BuildAndPush` -/

def validateImageSize (bk : Buildkit P) (name : String) (limit : Nat) : Except String Nat :=
  match bk.getImage name with
  | .error err => .error ("cannot validate image size: " ++ err)
  | .ok imageSize =>
    if limit > 0 ∧ imageSize > limit then
      .error ("image " ++ quote name ++ " is too large to push to registry (size: " ++
        toString imageSize ++ ", limit: " ++ toString limit ++ ")")
    else .ok imageSize

/-- The step of an iteration before its push: the first builds the head
image and checks its size, the others tag the head image. It returns the
head image and the size the loop carries on with. -/
def headStep (bk : Buildkit P) (plugins : List P) (opts : BuildOptions) (idx : Nat)
    (headImg : String) (imageSize : Nat) (image : String) :
    List (Call P) × Except String (String × Nat) :=
  if idx = 0 then
    match build bk plugins image opts with
    | (calls, .error err) => (calls, .error err)
    | (calls, .ok ()) =>
      match validateImageSize bk image opts.imageSizeLimit with
      | .error err => (calls ++ [.getImage image], .error err)
      | .ok size => (calls ++ [.getImage image], .ok (image, size))
  else
    match bk.tag idx headImg image with
    | .error err => ([.tag headImg image], .error err)
    | .ok () => ([.tag headImg image], .ok (headImg, imageSize))

/-- The loop of `BuildAndPush` over the push registries, from iteration
`idx`, with the head image, the images pushed and the size so far. -/
def pushLoop (bk : Buildkit P) (plugins : List P) (normalize : String → Except String String)
    (opts : BuildOptions) :
    Nat → String → List String → Nat → List String → List (Call P) × Except String Image
  | _, _, images, imageSize, [] => ([], .ok ⟨images, imageSize⟩)
  | idx, headImg, images, imageSize, registry :: rest =>
    let named := registry ++ "/" ++ opts.imageName
    match normalize named with
    | .error err => ([], .error ("parsing image name " ++ quote named ++ " failed: " ++ err))
    | .ok image =>
      match headStep bk plugins opts idx headImg imageSize image with
      | (calls, .error err) => (calls, .error err)
      | (calls, .ok (headImg, imageSize)) =>
        match bk.push idx image with
        | .error err => (calls ++ [.push image], .error err)
        | .ok () =>
          let (later, result) :=
            pushLoop bk plugins normalize opts (idx + 1) headImg (images ++ [image]) imageSize rest
          (calls ++ [.push image] ++ later, result)

/-- `BuildAndPush(ctx, opts)`, with the hosts reset by its deferred call. -/
def buildAndPush (bk : Buildkit P) (plugins : List P) (normalize : String → Except String String)
    (opts : BuildOptions) : List (Call P) × Except String Image :=
  if opts.pushRegistries = [] then ([], .error "image builds require at least one push registry")
  else
    let (calls, result) := pushLoop bk plugins normalize opts 0 "" [] 0 opts.pushRegistries
    (.configureHosts opts.registries :: calls ++ [.resetHostConfigurations], result)

/-! ## What the loop of `BuildAndPush` calls -/

theorem headStep_of_ne_zero (bk : Buildkit P) (plugins : List P) (opts : BuildOptions)
    {idx : Nat} (later : idx ≠ 0) (headImg : String) (imageSize : Nat) (image : String) :
    headStep bk plugins opts idx headImg imageSize image =
      ([.tag headImg image], (bk.tag idx headImg image).map fun () => (headImg, imageSize)) := by
  rw [headStep, if_neg later]
  cases bk.tag idx headImg image <;> rfl

/-- The calls of one iteration of the loop: none when the registry's name does
not normalize; otherwise the step's calls, then the push and the later
iterations, which run only after the step succeeded. -/
theorem calls_pushLoop_cons (bk : Buildkit P) (plugins : List P) (normalize : String → Except String String)
    (opts : BuildOptions) (registry : String) (rest : List String) (idx : Nat) (headImg : String)
    (images : List String) (imageSize : Nat) :
    (pushLoop bk plugins normalize opts idx headImg images imageSize (registry :: rest)).1 = [] ∨
      ∃ image, normalize (registry ++ "/" ++ opts.imageName) = .ok image ∧ ∃ tail,
        (pushLoop bk plugins normalize opts idx headImg images imageSize (registry :: rest)).1 =
          (headStep bk plugins opts idx headImg imageSize image).1 ++ tail ∧
        ∀ call ∈ tail, ∃ head size, (headStep bk plugins opts idx headImg imageSize image).2 = .ok (head, size) ∧
          (call = .push image ∨
            call ∈ (pushLoop bk plugins normalize opts (idx + 1) head (images ++ [image]) size rest).1) := by
  rw [pushLoop.eq_2]
  dsimp only
  split
  · exact .inl rfl
  · rename_i image normalized
    refine .inr ⟨image, normalized, ?_⟩
    cases stepped : headStep bk plugins opts idx headImg imageSize image with
    | mk calls result =>
      cases result with
      | error err => exact ⟨[], by simp, by simp⟩
      | ok carried =>
        obtain ⟨head, size⟩ := carried
        cases pushed : bk.push idx image with
        | error err =>
          exact ⟨[.push image], by simp, fun call mem => ⟨head, size, rfl, .inl (List.mem_singleton.mp mem)⟩⟩
        | ok u =>
          cases continued : pushLoop bk plugins normalize opts (idx + 1) head (images ++ [image]) size rest with
          | mk later result =>
            refine ⟨.push image :: later, by simp [continued], fun call mem => ⟨head, size, rfl, ?_⟩⟩
            rcases List.mem_cons.mp mem with here | there
            · exact .inl here
            · exact .inr (by rw [continued]; exact there)

theorem calls_pushLoop_of_ne_zero (bk : Buildkit P) (plugins : List P)
    (normalize : String → Except String String) (opts : BuildOptions) :
    ∀ (registries : List String) (idx : Nat) (headImg : String) (images : List String)
      (imageSize : Nat), idx ≠ 0 →
      ∀ call ∈ (pushLoop bk plugins normalize opts idx headImg images imageSize registries).1,
        call.isSolve = false ∧ ∀ source target, call = .tag source target → source = headImg
  | [], _, _, _, _, _ => by simp [pushLoop]
  | registry :: rest, idx, headImg, images, imageSize, later => by
    intro call mem
    rcases calls_pushLoop_cons bk plugins normalize opts registry rest idx headImg images imageSize with
      empty | ⟨image, -, tail, shape, tailCalls⟩
    · rw [empty] at mem
      cases mem
    simp only [shape, headStep_of_ne_zero bk plugins opts later, List.singleton_append, List.mem_cons] at mem
    rcases mem with rfl | inTail
    · exact ⟨rfl, fun _ _ same => (Call.tag.inj same).1.symm⟩
    rcases tailCalls call inTail with ⟨head, size, carried, rfl | next⟩
    · exact ⟨rfl, by rintro _ _ ⟨⟩⟩
    · -- a successful tag carries the head image on unchanged
      rw [headStep_of_ne_zero bk plugins opts later] at carried
      cases tagged : bk.tag idx headImg image with
      | error err => simp [tagged, Except.map] at carried
      | ok u =>
        simp only [tagged, Except.map, Except.ok.injEq, Prod.mk.injEq] at carried
        obtain ⟨rfl, rfl⟩ := carried
        exact calls_pushLoop_of_ne_zero bk plugins normalize opts rest (idx + 1) headImg _ _
          (Nat.succ_ne_zero idx) call next

theorem calls_headStep_zero (bk : Buildkit P) (plugins : List P) (opts : BuildOptions)
    (headImg : String) (imageSize : Nat) (image : String) :
    (headStep bk plugins opts 0 headImg imageSize image).1.countP Call.isSolve ≤ 1 ∧
      (∀ call ∈ (headStep bk plugins opts 0 headImg imageSize image).1,
        (∀ solved, call = .solve solved → solved = image) ∧ ∀ source target, call ≠ .tag source target) ∧
      ∀ head size, (headStep bk plugins opts 0 headImg imageSize image).2 = .ok (head, size) →
        head = image := by
  obtain ⟨once, shapes⟩ := calls_build bk plugins image opts
  have checked : ∀ calls : List (Call P), calls = (build bk plugins image opts).1 →
      (calls ++ [Call.getImage image]).countP Call.isSolve ≤ 1 ∧
        ∀ call ∈ calls ++ [Call.getImage image],
          (∀ solved, call = .solve solved → solved = image) ∧ ∀ source target, call ≠ .tag source target := by
    rintro calls rfl
    refine ⟨by simpa [Call.isSolve] using once, fun call mem => ?_⟩
    rcases List.mem_append.mp mem with built | sized
    · exact shapes call built
    · rw [List.mem_singleton.mp sized]
      exact ⟨nofun, nofun⟩
  rw [headStep, if_pos rfl]
  split
  · rename_i calls err built
    rw [built] at once shapes
    exact ⟨once, shapes, nofun⟩
  · rename_i calls built
    have afterBuild := checked calls (by rw [built])
    split
    · exact ⟨afterBuild.1, afterBuild.2, nofun⟩
    · exact ⟨afterBuild.1, afterBuild.2, fun head size same => (Prod.mk.inj (Except.ok.inj same)).1.symm⟩

theorem calls_pushLoop_zero (bk : Buildkit P) (plugins : List P)
    (normalize : String → Except String String) (opts : BuildOptions) (registry : String)
    (rest : List String) (headImg : String) (images : List String) (imageSize : Nat) :
    (pushLoop bk plugins normalize opts 0 headImg images imageSize (registry :: rest)).1.countP
        Call.isSolve ≤ 1 ∧
      ∀ call ∈ (pushLoop bk plugins normalize opts 0 headImg images imageSize (registry :: rest)).1,
        (∀ solved, call = .solve solved → normalize (registry ++ "/" ++ opts.imageName) = .ok solved) ∧
        ∀ source target, call = .tag source target →
          normalize (registry ++ "/" ++ opts.imageName) = .ok source := by
  rcases calls_pushLoop_cons bk plugins normalize opts registry rest 0 headImg images imageSize with
    empty | ⟨image, normalized, tail, shape, tailCalls⟩
  · simp [empty]
  obtain ⟨once, shapes, carried⟩ := calls_headStep_zero bk plugins opts headImg imageSize image
  have tailShapes : ∀ call ∈ tail,
      call.isSolve = false ∧ ∀ source target, call = .tag source target → source = image := by
    intro call inTail
    rcases tailCalls call inTail with ⟨head, size, stepped, rfl | next⟩
    · exact ⟨rfl, by rintro _ _ ⟨⟩⟩
    · obtain rfl := carried head size stepped
      exact calls_pushLoop_of_ne_zero bk plugins normalize opts rest 1 head _ size Nat.one_ne_zero call next
  rw [shape]
  refine ⟨?_, fun call mem => ?_⟩
  · rw [List.countP_append,
      List.countP_eq_zero.mpr fun call inTail => Bool.eq_false_iff.mp (tailShapes call inTail).1, Nat.add_zero]
    exact once
  · rcases List.mem_append.mp mem with stepped | inTail
    · obtain ⟨solves, tags⟩ := shapes call stepped
      exact ⟨fun solved same => solves solved same ▸ normalized,
        fun source target same => absurd same (tags source target)⟩
    · obtain ⟨quiet, tags⟩ := tailShapes call inTail
      refine ⟨fun solved same => ?_, fun source target same => tags source target same ▸ normalized⟩
      rw [same] at quiet
      cases quiet

/-! ## What the loop of `BuildAndPush` pushes -/

/-- The image a call pushes. -/
def Call.pushed : Call P → Option String
  | .push image => some image
  | _ => none

theorem pushed_build (bk : Buildkit P) (plugins : List P) (image : String) (opts : BuildOptions) :
    (build bk plugins image opts).1.filterMap Call.pushed = [] := by
  rw [List.filterMap_eq_nil_iff]
  intro call mem
  rcases mem_build mem with rfl | ⟨_, _, rfl⟩ | rfl | ⟨_, rfl⟩ <;> rfl

theorem pushed_headStep (bk : Buildkit P) (plugins : List P) (opts : BuildOptions) (idx : Nat)
    (headImg : String) (imageSize : Nat) (image : String) :
    (headStep bk plugins opts idx headImg imageSize image).1.filterMap Call.pushed = [] := by
  have built := pushed_build bk plugins image opts
  unfold headStep
  split
  · split
    · rename_i calls err ran
      rw [ran] at built
      exact built
    · rename_i calls ran
      rw [ran] at built
      split <;> simp [built, Call.pushed]
  · split <;> rfl

/-- A loop that returns an image has normalized every registry's name, pushed
each normalized name once, in order, and returns them after the earlier
images. -/
theorem pushLoop_of_ok (bk : Buildkit P) (plugins : List P) (normalize : String → Except String String)
    (opts : BuildOptions) :
    ∀ (registries : List String) (idx : Nat) (headImg : String) (images : List String)
      (imageSize : Nat) (calls : List (Call P)) (img : Image),
      pushLoop bk plugins normalize opts idx headImg images imageSize registries = (calls, .ok img) →
      ∃ urls, List.Forall₂ (fun registry url => normalize (registry ++ "/" ++ opts.imageName) = .ok url)
          registries urls ∧ img.urls = images ++ urls ∧ calls.filterMap Call.pushed = urls
  | [], _, _, images, imageSize, calls, img, ran => by
    simp only [pushLoop, Prod.mk.injEq, Except.ok.injEq] at ran
    obtain ⟨rfl, rfl⟩ := ran
    exact ⟨[], .nil, by simp, rfl⟩
  | registry :: rest, idx, headImg, images, imageSize, calls, img, ran => by
    unfold pushLoop at ran
    dsimp only at ran
    split at ran
    · simp at ran
    · rename_i image named
      split at ran
      · simp at ran
      · rename_i stepCalls head size stepped
        have quietStep := pushed_headStep bk plugins opts idx headImg imageSize image
        rw [stepped] at quietStep
        split at ran
        · simp at ran
        · -- the iteration pushes `image`, and the rest of the loop the later names
          cases continued : pushLoop bk plugins normalize opts (idx + 1) head (images ++ [image]) size rest with
          | mk laterCalls result =>
            rw [continued] at ran
            obtain ⟨rfl, rfl⟩ := Prod.mk.inj ran
            obtain ⟨urls, normalized, returned, pushed⟩ :=
              pushLoop_of_ok bk plugins normalize opts rest (idx + 1) head (images ++ [image]) size laterCalls img
                continued
            refine ⟨image :: urls, .cons named normalized, by simp [returned], ?_⟩
            simp [quietStep, pushed, Call.pushed]

theorem validateImageSize_of_oversized (bk : Buildkit P) {name : String} {limit size : Nat}
    (sized : bk.getImage name = .ok size) (positive : 0 < limit) (exceeds : limit < size) :
    validateImageSize bk name limit =
      .error ("image " ++ quote name ++ " is too large to push to registry (size: " ++
        toString size ++ ", limit: " ++ toString limit ++ ")") := by
  rw [validateImageSize, sized]
  exact if_pos ⟨positive, exceeds⟩

theorem headStep_zero_of_oversized (bk : Buildkit P) (plugins : List P) (opts : BuildOptions)
    (headImg : String) (imageSize : Nat) {image : String} {size : Nat}
    (sized : bk.getImage image = .ok size) (positive : 0 < opts.imageSizeLimit)
    (exceeds : opts.imageSizeLimit < size) :
    ∃ err, (headStep bk plugins opts 0 headImg imageSize image).2 = .error err := by
  rw [headStep, if_pos rfl]
  split
  · exact ⟨_, rfl⟩
  · rw [validateImageSize_of_oversized bk sized positive exceeds]
    exact ⟨_, rfl⟩

theorem pushed_pushLoop_of_oversized (bk : Buildkit P) (plugins : List P)
    (normalize : String → Except String String) (opts : BuildOptions) {registry head : String}
    (rest : List String) (headImg : String) (images : List String) (imageSize : Nat) {size : Nat}
    (named : normalize (registry ++ "/" ++ opts.imageName) = .ok head)
    (sized : bk.getImage head = .ok size) (positive : 0 < opts.imageSizeLimit)
    (exceeds : opts.imageSizeLimit < size) :
    (pushLoop bk plugins normalize opts 0 headImg images imageSize (registry :: rest)).1.filterMap
      Call.pushed = [] := by
  obtain ⟨err, failed⟩ := headStep_zero_of_oversized bk plugins opts headImg imageSize sized positive exceeds
  rcases calls_pushLoop_cons bk plugins normalize opts registry rest 0 headImg images imageSize with
    empty | ⟨image, normalized, tail, shape, tailCalls⟩
  · rw [empty]
    rfl
  rw [named, Except.ok.injEq] at normalized
  subst normalized
  have noTail : tail = [] := List.eq_nil_iff_forall_not_mem.mpr fun call inTail => by
    obtain ⟨_, _, stepped, -⟩ := tailCalls call inTail
    rw [failed] at stepped
    cases stepped
  rw [shape, noTail, List.append_nil]
  exact pushed_headStep bk plugins opts 0 headImg imageSize head

end Forge.Source.Driver
