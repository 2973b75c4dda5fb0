import Forge.Source.ImageStore

/-!
# What `BuildAndPush` pushes

The driver's calls, replayed on the BuildKit client from whatever its store
and its hosts hold, find the image the solve built wherever they read the
store: every `TagImage` succeeds, `GetImage` measures the built image, and
every `PushImage` sends the built image's target under the name it is given
(`build_and_push_pushes_built_image`). When the driver returns its images,
the store holds the built image under each of them; an image an earlier build
left under one of those names is replaced before it is pushed.
-/

namespace Forge.Guarantees.PushedImage
open Forge.Source.Api Forge.Source.BuildJob Forge.Source.Driver Forge.Source.ImageStore
  Forge.Source.AuthProvider Forge.Lib.Replay

variable {P : Type}

/-! ## What one iteration of the loop can do -/

/-- An iteration of `BuildAndPush`'s loop stops at a name that does not
normalize, stops after a failed step before its push, stops after a failed
push, or pushes and goes on with the head image and size the step returned. -/
theorem pushLoop_cons_cases (bk : Buildkit P) (plugins : List P)
    (normalize : String → Except String String) (opts : BuildOptions) (registry : String)
    (rest : List String) (idx : Nat) (head : String) (images : List String) (size : Nat) :
    (∃ err, pushLoop bk plugins normalize opts idx head images size (registry :: rest) = ([], .error err)) ∨
      ∃ image, normalize (registry ++ "/" ++ opts.imageName) = .ok image ∧
        ((∃ err, (headStep bk plugins opts idx head size image).2 = .error err ∧
            pushLoop bk plugins normalize opts idx head images size (registry :: rest) =
              ((headStep bk plugins opts idx head size image).1, .error err)) ∨
          ∃ head' size', (headStep bk plugins opts idx head size image).2 = .ok (head', size') ∧
            ((∃ err, pushLoop bk plugins normalize opts idx head images size (registry :: rest) =
                ((headStep bk plugins opts idx head size image).1 ++ [.push image], .error err)) ∨
              pushLoop bk plugins normalize opts idx head images size (registry :: rest) =
                ((headStep bk plugins opts idx head size image).1 ++ [.push image] ++
                    (pushLoop bk plugins normalize opts (idx + 1) head' (images ++ [image]) size' rest).1,
                  (pushLoop bk plugins normalize opts (idx + 1) head' (images ++ [image]) size' rest).2))) := by
  rw [pushLoop.eq_2]
  dsimp only
  split
  · exact .inl ⟨_, rfl⟩
  · rename_i image normalized
    refine .inr ⟨image, normalized, ?_⟩
    cases stepped : headStep bk plugins opts idx head size image with
    | mk calls result =>
      cases result with
      | error err => exact .inl ⟨err, rfl, rfl⟩
      | ok carried =>
        obtain ⟨head', size'⟩ := carried
        refine .inr ⟨head', size', rfl, ?_⟩
        cases bk.push idx image with
        | error err => exact .inl ⟨err, rfl⟩
        | ok u => exact .inr rfl

/-! ## What a call finds on the client -/

/-- What a call of the driver finds on the client, with `built` the image the
solve built: a tag succeeds, and `GetImage` and `PushImage` read the built
image under the name they are given. -/
structure SeesBuilt (normalize : String → Except String String) (built : Descriptor)
    (x : Call P × Client) : Prop where
  tagged : ∀ src dest, x.1 = .tag src dest → (x.2.tagImage normalize src dest).2 = .ok ()
  sized : ∀ image, x.1 = .getImage image → ∀ size contentSize, size built = .ok contentSize →
    x.2.getImage normalize size image = .ok (built, contentSize)
  pushed : ∀ image, x.1 = .push image → ∀ push,
    x.2.pushImage normalize push image = push x.2.hosts.registryHosts built image

/-- The calls that read the store. -/
def readsStore : Call P → Bool
  | .tag _ _ | .getImage _ | .push _ => true
  | _ => false

section
variable {normalize : String → Except String String} {built : Descriptor}

theorem seesBuilt_of_readsStore {call : Call P} (quiet : readsStore call = false) (c : Client) :
    SeesBuilt normalize built (call, c) := by
  refine ⟨?_, ?_, ?_⟩
  · rintro src dest rfl
    cases quiet
  · rintro image rfl
    cases quiet
  · rintro image rfl
    cases quiet

theorem seesBuilt_tag {src dest : String} {c : Client} (tagged : (c.tagImage normalize src dest).2 = .ok ()) :
    SeesBuilt normalize built ((.tag src dest : Call P), c) := by
  refine ⟨?_, ?_, ?_⟩
  · rintro _ _ ⟨⟩
    exact tagged
  · rintro _ ⟨⟩
  · rintro _ ⟨⟩

theorem seesBuilt_stored (normalizes : Normalizes normalize) {call : Call P} {named image : String}
    (normalized : normalize named = .ok image) (reads : call = .getImage image ∨ call = .push image)
    {c : Client} (stored : c.imageStore.lookup image = some built) :
    SeesBuilt normalize built (call, c) := by
  rcases reads with rfl | rfl
  · refine ⟨by rintro _ _ ⟨⟩, ?_, by rintro _ ⟨⟩⟩
    rintro _ ⟨⟩ size contentSize sized
    exact c.getImage_of_lookup normalizes normalized stored sized
  · refine ⟨by rintro _ _ ⟨⟩, by rintro _ ⟨⟩, ?_⟩
    rintro _ ⟨⟩ push
    exact c.pushImage_of_lookup normalizes normalized stored push

theorem readsStore_build {bk : Buildkit P} {plugins : List P} {image : String} {opts : BuildOptions}
    {call : Call P} (mem : call ∈ (build bk plugins image opts).1) : readsStore call = false := by
  rcases mem_build mem with rfl | ⟨_, _, rfl⟩ | rfl | ⟨_, rfl⟩ <;> rfl

end

/-! ## The loop's store -/

/-- The store an iteration after the first finds: the head image is a normal
name, and the store holds the built image under it and under every image
pushed so far. -/
structure LoopStore (normalize : String → Except String String) (built : Descriptor) (head : String)
    (images : List String) (c : Client) : Prop where
  normal : normalize head = .ok head
  stored : ∀ name ∈ head :: images, c.imageStore.lookup name = some built

section
variable {normalize : String → Except String String} (normalizes : Normalizes normalize)
  {exported : Option Descriptor} {built : Descriptor}
include normalizes

theorem loopStore_tag {head : String} {images : List String} {c : Client} (holds : LoopStore normalize built head images c)
    {named image : String} (normalized : normalize named = .ok image) :
    (c.tagImage normalize head image).2 = .ok () ∧
      LoopStore normalize built head (images ++ [image]) (c.apply normalize exported (.tag head image : Call P)) := by
  have tagged := c.tagImage_of_lookup normalizes holds.normal normalized
    (holds.stored head (List.mem_cons_self ..))
  refine ⟨by rw [tagged], holds.normal, fun name mem => ?_⟩
  simp only [Client.apply, tagged]
  by_cases same : name = image
  · rw [same, AList.lookup_insert]
  · rw [AList.lookup_insert_ne same]
    have older : name ∈ head :: images := by
      simpa [same] using mem
    exact holds.stored name older

theorem push_sees_built {calls : List (Call P)} {c : Client} {head : String} {images : List String}
    {named image : String} (normalized : normalize named = .ok image)
    (before : ∀ x ∈ along (Client.apply normalize exported) c calls, SeesBuilt normalize built x)
    (holds : LoopStore normalize built head images (calls.foldl (Client.apply normalize exported) c))
    (listed : image ∈ head :: images) :
    (∀ x ∈ along (Client.apply normalize exported) c (calls ++ [Call.push image]), SeesBuilt normalize built x) ∧
      (calls ++ [Call.push image]).foldl (Client.apply normalize exported) c =
        calls.foldl (Client.apply normalize exported) c := by
  have pushSees : SeesBuilt normalize built
      ((.push image : Call P), calls.foldl (Client.apply normalize exported) c) :=
    seesBuilt_stored normalizes normalized (.inr rfl) (holds.stored image listed)
  refine ⟨?_, by rw [List.foldl_append, List.foldl_cons, List.foldl_nil, Client.apply_of_readsOnly _ _ _ rfl]⟩
  rw [forall_mem_along_append]
  exact ⟨before, by simpa using pushSees⟩

/-- After the first iteration, every call of the loop finds the built image,
and when the loop returns its images the store holds the built image under
each. The induction is on the registries left, with the loop's store carried
from one iteration to the next. -/
theorem later_iterations_see_built (bk : Buildkit P) (plugins : List P) (opts : BuildOptions) :
    ∀ (registries : List String) (idx : Nat) (head : String) (images : List String) (size : Nat)
      (c : Client), idx ≠ 0 → LoopStore normalize built head images c →
      (∀ x ∈ along (Client.apply normalize exported) c
          (pushLoop bk plugins normalize opts idx head images size registries).1,
          SeesBuilt normalize built x) ∧
        ∀ pushed, (pushLoop bk plugins normalize opts idx head images size registries).2 = .ok pushed →
          ∀ name ∈ pushed.urls,
            ((pushLoop bk plugins normalize opts idx head images size registries).1.foldl
              (Client.apply normalize exported) c).imageStore.lookup name = some built
  | [], idx, head, images, size, c, _, holds => by
    refine ⟨by simp [pushLoop], fun pushed returned name mem => ?_⟩
    simp only [pushLoop, Except.ok.injEq] at returned
    subst returned
    exact holds.stored name (List.mem_cons_of_mem head mem)
  | registry :: rest, idx, head, images, size, c, later, holds => by
    rcases pushLoop_cons_cases bk plugins normalize opts registry rest idx head images size with
      ⟨err, stopped⟩ | ⟨image, normalized, stepCases⟩
    · rw [stopped]
      exact ⟨by simp, by rintro _ ⟨⟩⟩
    have stepIs := headStep_of_ne_zero bk plugins opts later head size image
    obtain ⟨tagged, tagHolds⟩ : _ ∧ LoopStore normalize built head (images ++ [image])
        (c.apply normalize exported (.tag head image : Call P)) := loopStore_tag normalizes holds normalized
    have tagSees : SeesBuilt normalize built ((.tag head image : Call P), c) := seesBuilt_tag tagged
    rcases stepCases with ⟨err, -, stopped⟩ | ⟨head', size', stepped, pushes⟩
    · rw [stopped, stepIs]
      exact ⟨by simpa using tagSees, by rintro _ ⟨⟩⟩
    rw [stepIs] at stepped pushes
    have carried : head = head' ∧ size = size' := by
      cases answered : bk.tag idx head image with
      | error e => simp [answered, Except.map] at stepped
      | ok u => simpa [answered, Except.map] using stepped
    obtain ⟨rfl, rfl⟩ := carried
    have tagAlong : ∀ x ∈ along (Client.apply normalize exported) c [(.tag head image : Call P)],
        SeesBuilt normalize built x := by
      simpa using tagSees
    obtain ⟨pushSees, afterPush⟩ := push_sees_built normalizes normalized tagAlong tagHolds (by simp)
    rcases pushes with ⟨err, stopped⟩ | continued
    · rw [stopped]
      exact ⟨pushSees, by rintro _ ⟨⟩⟩
    · obtain ⟨laterSees, laterStores⟩ := later_iterations_see_built bk plugins opts rest (idx + 1) head
        (images ++ [image]) size (c.apply normalize exported (.tag head image : Call P)) (Nat.succ_ne_zero idx)
        tagHolds
      rw [continued]
      dsimp only
      refine ⟨?_, fun pushed returned name mem => ?_⟩
      · rw [forall_mem_along_append, afterPush]
        exact ⟨pushSees, laterSees⟩
      · rw [List.foldl_append, afterPush]
        exact laterStores pushed returned name mem

theorem build_stores (bk : Buildkit P) (plugins : List P) (opts : BuildOptions)
    (solvedBuilt : bk.solve = .ok () → exported = some built) {named image : String}
    (normalized : normalize named = .ok image) (succeeded : (build bk plugins image opts).2 = .ok ())
    (c : Client) :
    ((build bk plugins image opts).1.foldl (Client.apply normalize exported) c).imageStore =
      c.imageStore.insert image built := by
  cases extracted : bk.extract with
  | error err => simp [build, extracted] at succeeded
  | ok contentsDir =>
    rw [build_of_extracted bk plugins image opts extracted] at succeeded ⊢
    cases looped : plugins.forM bk.prepare with
    | error err => simp [looped, bind, Except.bind] at succeeded
    | ok u =>
      simp only [looped, bind, Except.bind] at succeeded
      have preparing : ∀ call ∈ Call.extract opts.contextURL ::
          (preparedPlugins bk plugins).map (.prepare · contentsDir), readsOnly call = true := by
        intro call mem
        rcases List.mem_cons.mp mem with rfl | prepared
        · rfl
        · obtain ⟨plugin, -, rfl⟩ := List.mem_map.mp prepared
          rfl
      have cleaning : ∀ call ∈ deferredCleanups (preparedPlugins bk plugins), readsOnly call = true := by
        intro call mem
        obtain ⟨plugin, rfl⟩ := mem_deferredCleanups mem
        rfl
      simp only [Except.toBool, ↓reduceIte]
      rw [List.foldl_append, Client.foldl_apply_of_readsOnly normalize exported cleaning, List.foldl_append,
        Client.foldl_apply_of_readsOnly normalize exported preparing, List.foldl_cons, List.foldl_nil]
      simp only [Client.apply, solvedBuilt succeeded, exportImage_of_normal normalizes normalized]

theorem headStep_zero_sees_built (bk : Buildkit P) (plugins : List P) (opts : BuildOptions)
    (solvedBuilt : bk.solve = .ok () → exported = some built) {named image : String}
    (normalized : normalize named = .ok image) (head : String) (size : Nat) (c : Client) :
    (∀ x ∈ along (Client.apply normalize exported) c (headStep bk plugins opts 0 head size image).1,
        SeesBuilt normalize built x) ∧
      ∀ head' size', (headStep bk plugins opts 0 head size image).2 = .ok (head', size') →
        image = head' ∧ LoopStore normalize built image []
          ((headStep bk plugins opts 0 head size image).1.foldl (Client.apply normalize exported) c) := by
  have buildSees : ∀ x ∈ along (Client.apply normalize exported) c (build bk plugins image opts).1,
      SeesBuilt normalize built x :=
    forall_mem_along_of_calls _ (fun call mem s => seesBuilt_of_readsStore (readsStore_build mem) s) c
  rw [headStep, if_pos rfl]
  cases builtIs : build bk plugins image opts with
  | mk buildCalls result =>
    rw [builtIs] at buildSees
    cases result with
    | error err => exact ⟨buildSees, by rintro _ _ ⟨⟩⟩
    | ok u =>
      obtain ⟨⟩ := u
      have stored := build_stores normalizes bk plugins opts solvedBuilt normalized (by rw [builtIs]) c
      rw [builtIs] at stored
      have sizeSees : SeesBuilt normalize built
          ((.getImage image : Call P), buildCalls.foldl (Client.apply normalize exported) c) :=
        seesBuilt_stored normalizes normalized (.inl rfl) (by rw [stored, AList.lookup_insert])
      have checked : (buildCalls ++ [(.getImage image : Call P)]).foldl (Client.apply normalize exported) c =
          buildCalls.foldl (Client.apply normalize exported) c := by
        rw [List.foldl_append, List.foldl_cons, List.foldl_nil, Client.apply_of_readsOnly _ _ _ rfl]
      have alongSees : ∀ x ∈ along (Client.apply normalize exported) c (buildCalls ++ [(.getImage image : Call P)]),
          SeesBuilt normalize built x := by
        rw [forall_mem_along_append]
        exact ⟨buildSees, by simpa using sizeSees⟩
      have holds : LoopStore normalize built image []
          ((buildCalls ++ [(.getImage image : Call P)]).foldl (Client.apply normalize exported) c) :=
        ⟨normalizes.idempotent normalized, fun name mem => by
          rw [checked, stored, List.mem_singleton.mp mem, AList.lookup_insert]⟩
      dsimp only
      cases validateImageSize bk image opts.imageSizeLimit with
      | error err => exact ⟨alongSees, by rintro _ _ ⟨⟩⟩
      | ok checkedSize =>
        exact ⟨alongSees, fun head' size' same => ⟨(Prod.mk.inj (Except.ok.inj same)).1, holds⟩⟩

/-- The first iteration, and the loop after it: every call finds the built
image, and when the loop returns its images the store holds the built image
under each. -/
theorem first_iteration_sees_built (bk : Buildkit P) (plugins : List P) (opts : BuildOptions)
    (solvedBuilt : bk.solve = .ok () → exported = some built) (registry : String) (rest : List String)
    (head : String) (size : Nat) (c : Client) :
    (∀ x ∈ along (Client.apply normalize exported) c
        (pushLoop bk plugins normalize opts 0 head [] size (registry :: rest)).1, SeesBuilt normalize built x) ∧
      ∀ pushed, (pushLoop bk plugins normalize opts 0 head [] size (registry :: rest)).2 = .ok pushed →
        ∀ name ∈ pushed.urls,
          ((pushLoop bk plugins normalize opts 0 head [] size (registry :: rest)).1.foldl
            (Client.apply normalize exported) c).imageStore.lookup name = some built := by
  rcases pushLoop_cons_cases bk plugins normalize opts registry rest 0 head [] size with
    ⟨err, stopped⟩ | ⟨image, normalized, ⟨err, -, stopped⟩ | ⟨head', size', stepped, pushes⟩⟩
  · rw [stopped]
    exact ⟨by simp, by rintro _ ⟨⟩⟩
  · obtain ⟨stepSees, -⟩ := headStep_zero_sees_built normalizes bk plugins opts solvedBuilt normalized head size c
    rw [stopped]
    exact ⟨stepSees, by rintro _ ⟨⟩⟩
  obtain ⟨stepSees, carried⟩ := headStep_zero_sees_built normalizes bk plugins opts solvedBuilt normalized head size c
  obtain ⟨rfl, holds⟩ := carried head' size' stepped
  obtain ⟨pushSees, afterPush⟩ := push_sees_built normalizes normalized stepSees holds (List.mem_cons_self ..)
  rcases pushes with ⟨err, stopped⟩ | continued
  · rw [stopped]
    exact ⟨pushSees, by rintro _ ⟨⟩⟩
  · have laterHolds : LoopStore normalize built image ([] ++ [image])
        ((headStep bk plugins opts 0 head size image).1.foldl (Client.apply normalize exported) c) :=
      ⟨holds.normal, fun name mem => holds.stored name (by simpa using mem)⟩
    obtain ⟨laterSees, laterStores⟩ := later_iterations_see_built normalizes bk plugins opts rest (0 + 1) image
      ([] ++ [image]) size' _ (Nat.succ_ne_zero 0) laterHolds
    rw [continued]
    dsimp only
    refine ⟨?_, fun pushed returned name mem => ?_⟩
    · rw [forall_mem_along_append, afterPush]
      exact ⟨pushSees, laterSees⟩
    · rw [List.foldl_append, afterPush]
      exact laterStores pushed returned name mem

end

/-! ## `BuildAndPush` on the client -/

/-- `BuildAndPush` fails at once without a push registry; otherwise its calls
are the loop's between `ConfigureHosts` and the deferred
`ResetHostConfigurations`, and its result is the loop's. -/
theorem buildAndPush_cases (bk : Buildkit P) (plugins : List P) (normalize : String → Except String String)
    (opts : BuildOptions) :
    (opts.pushRegistries = [] ∧
        buildAndPush bk plugins normalize opts = ([], .error "image builds require at least one push registry")) ∨
      ∃ registry rest, opts.pushRegistries = registry :: rest ∧
        buildAndPush bk plugins normalize opts =
          (.configureHosts opts.registries ::
              (pushLoop bk plugins normalize opts 0 "" [] 0 (registry :: rest)).1 ++ [.resetHostConfigurations],
            (pushLoop bk plugins normalize opts 0 "" [] 0 (registry :: rest)).2) := by
  unfold buildAndPush
  split
  · rename_i none
    exact .inl ⟨none, rfl⟩
  · rename_i named
    obtain ⟨registry, rest, registries⟩ := List.exists_cons_of_ne_nil named
    exact .inr ⟨registry, rest, registries, by rw [registries]⟩

theorem stores_after_build_and_push {normalize : String → Except String String}
    (normalizes : Normalizes normalize) (bk : Buildkit P) (plugins : List P) (opts : BuildOptions)
    {exported : Option Descriptor} {built : Descriptor} (solvedBuilt : bk.solve = .ok () → exported = some built)
    (c : Client) :
    ∀ pushed, (buildAndPush bk plugins normalize opts).2 = .ok pushed → ∀ name ∈ pushed.urls,
      ((buildAndPush bk plugins normalize opts).1.foldl (Client.apply normalize exported) c).imageStore.lookup
        name = some built := by
  rcases buildAndPush_cases bk plugins normalize opts with ⟨-, stopped⟩ | ⟨registry, rest, -, ran⟩
  · rw [stopped]
    rintro _ ⟨⟩
  · intro pushed returned name mem
    rw [ran] at returned ⊢
    simp only [List.foldl_append, List.foldl_cons, List.foldl_nil]
    exact (first_iteration_sees_built normalizes bk plugins opts solvedBuilt registry rest "" 0
      (c.apply normalize exported (.configureHosts opts.registries : Call P))).2 pushed returned name mem

/-- Replayed on the client from any state, every call of `BuildAndPush` that
reads the store finds the image the solve built: each tag succeeds, the size
check measures the built image, and each push sends the built image's target
under the name it is given. When `BuildAndPush` returns its images, the store
holds the built image under each. -/
theorem build_and_push_pushes_built_image {normalize : String → Except String String}
    (normalizes : Normalizes normalize) (bk : Buildkit P) (plugins : List P) (opts : BuildOptions)
    {exported : Option Descriptor} {built : Descriptor} (solvedBuilt : bk.solve = .ok () → exported = some built)
    (c : Client) :
    (∀ x ∈ along (Client.apply normalize exported) c (buildAndPush bk plugins normalize opts).1,
        SeesBuilt normalize built x) ∧
      ∀ pushed, (buildAndPush bk plugins normalize opts).2 = .ok pushed → ∀ name ∈ pushed.urls,
        ((buildAndPush bk plugins normalize opts).1.foldl (Client.apply normalize exported) c).imageStore.lookup
          name = some built := by
  refine ⟨?_, stores_after_build_and_push normalizes bk plugins opts solvedBuilt c⟩
  rcases buildAndPush_cases bk plugins normalize opts with ⟨-, stopped⟩ | ⟨registry, rest, -, ran⟩
  · rw [stopped]
    simp
  · have loopSees := (first_iteration_sees_built normalizes bk plugins opts solvedBuilt registry rest "" 0
      (c.apply normalize exported (.configureHosts opts.registries : Call P))).1
    rw [ran]
    dsimp only
    rw [forall_mem_along_append, along_cons, List.forall_mem_cons]
    exact ⟨⟨seesBuilt_of_readsStore rfl c, loopSees⟩, by simpa using seesBuilt_of_readsStore rfl _⟩

/-- A reference grammar that keeps a name as it is, and refuses an empty name
or one with a comma. -/
def keepNames (image : String) : Except String String :=
  if image = "" ∨ image.toList.contains ',' = true then .error "invalid reference format" else .ok image

theorem keepNames_eq_ok {image name : String} (kept : keepNames image = .ok name) :
    name = image ∧ name ≠ "" ∧ ',' ∉ name.toList := by
  unfold keepNames at kept
  split at kept
  · cases kept
  · rename_i fine
    have same : image = name := Except.ok.inj kept
    subst same
    exact ⟨rfl, fun empty => fine (.inl empty), fun mem => fine (.inr (List.contains_iff_mem.mpr mem))⟩

theorem keepNames_normalizes : Normalizes keepNames where
  nonempty := fun kept => (keepNames_eq_ok kept).2.1
  commaFree := fun kept => (keepNames_eq_ok kept).2.2
  idempotent := fun kept => by
    obtain ⟨rfl, -, -⟩ := keepNames_eq_ok kept
    exact kept

def builtImage : Descriptor := ⟨"sha256:1111", ∅⟩

def staleImage : Descriptor := ⟨"sha256:0000", ∅⟩

def staleClient : Client := ⟨resetHostConfigurations, (∅ : Images).insert "b.example/app" staleImage⟩

def twoRegistries : BuildOptions :=
  ⟨"https://ctx.example/app.tgz", 0, "app", 0, ∅, [], false, false, 0, [], ["a.example", "b.example"], ∅⟩

def cooperative : Buildkit Nat where
  extract := .ok "/mnt/build/extracted"
  prepare := fun _ => .ok ()
  solve := .ok ()
  getImage := fun _ => .ok 0
  tag := fun _ _ _ => .ok ()
  push := fun _ _ => .ok ()

theorem stale_image_replaced_before_push :
    Normalizes keepNames ∧ (cooperative.solve = .ok () → some builtImage = some builtImage) ∧
      (∀ x ∈ along (Client.apply keepNames (some builtImage)) staleClient
          (buildAndPush cooperative [] keepNames twoRegistries).1, SeesBuilt keepNames builtImage x) ∧
        ∀ pushed, (buildAndPush cooperative [] keepNames twoRegistries).2 = .ok pushed → ∀ name ∈ pushed.urls,
          ((buildAndPush cooperative [] keepNames twoRegistries).1.foldl
            (Client.apply keepNames (some builtImage)) staleClient).imageStore.lookup name = some builtImage :=
  ⟨keepNames_normalizes, fun _ => rfl,
    build_and_push_pushes_built_image keepNames_normalizes cooperative [] twoRegistries (fun _ => rfl) staleClient⟩

example : (((buildAndPush cooperative [] keepNames twoRegistries).1.foldl
    (Client.apply keepNames (some builtImage)) staleClient).imageStore.lookup "b.example/app").map
      Descriptor.digest = some "sha256:1111" := by
  decide

end Forge.Guarantees.PushedImage
