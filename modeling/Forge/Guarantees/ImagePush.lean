import Forge.Source.Driver

/-!
# The head image and its copies

`BuildAndPush` builds one image, the one it names for the first push
registry, and gives the other registries tags of it. Over every run of its
loop, whatever the BuildKit client answers, it solves at most once, for that
image, and every `TagImage` copies that image. The first iteration is the
only one that builds (`calls_headStep_zero`); the later ones carry its image
as the head (`calls_pushLoop_of_ne_zero`).
-/

namespace Forge.Guarantees.ImagePush
open Forge.Source.BuildJob Forge.Source.Driver

/-- The image `BuildAndPush` names for the first push registry. -/
def HeadImage (normalize : String → Except String String) (opts : BuildOptions) (image : String) :
    Prop :=
  ∃ registry rest, opts.pushRegistries = registry :: rest ∧
    normalize (registry ++ "/" ++ opts.imageName) = .ok image

/-- `BuildAndPush` solves at most once, for the head image, and every tag
copies the head image. -/
theorem build_and_push_solves_head_once {P : Type} (bk : Buildkit P) (plugins : List P)
    (normalize : String → Except String String) (opts : BuildOptions) :
    (buildAndPush bk plugins normalize opts).1.countP Call.isSolve ≤ 1 ∧
      ∀ call ∈ (buildAndPush bk plugins normalize opts).1,
        (∀ image, call = .solve image → HeadImage normalize opts image) ∧
        ∀ source target, call = .tag source target → HeadImage normalize opts source := by
  unfold buildAndPush
  split
  · simp
  · rename_i nonempty
    obtain ⟨registry, rest, registries⟩ := List.exists_cons_of_ne_nil nonempty
    obtain ⟨once, shapes⟩ := calls_pushLoop_zero bk plugins normalize opts registry rest "" [] 0
    have head : ∀ image, normalize (registry ++ "/" ++ opts.imageName) = .ok image →
        HeadImage normalize opts image :=
      fun image named => ⟨registry, rest, registries, named⟩
    rw [registries]
    dsimp only
    refine ⟨by simpa [Call.isSolve] using once, fun call mem => ?_⟩
    simp only [List.cons_append, List.mem_cons, List.mem_append, List.not_mem_nil, or_false] at mem
    rcases mem with rfl | looped | rfl
    · exact ⟨by rintro _ ⟨⟩, by rintro _ _ ⟨⟩⟩
    · obtain ⟨solves, tags⟩ := shapes call looped
      exact ⟨fun image same => head image (solves image same),
        fun source target same => head source (tags source target same)⟩
    · exact ⟨by rintro _ ⟨⟩, by rintro _ _ ⟨⟩⟩

def twoRegistries : BuildOptions where
  contextURL := "https://ctx.example/app.tgz"
  contextTimeoutSeconds := 0
  imageName := "app"
  imageSizeLimit := 0
  labels := ∅
  buildArgs := []
  disableBuildCache := false
  disableLayerCacheExport := false
  timeoutSeconds := 0
  registries := []
  pushRegistries := ["registry-1.example", "registry-2.example"]
  pluginData := ∅

def succeeding : Buildkit Unit :=
  ⟨.ok "/mnt/build/extracted", fun _ => .ok (), .ok (), fun _ => .ok 1024, fun _ _ _ => .ok (),
    fun _ _ => .ok ()⟩

/-- `TagNameOnly` for names without a tag. -/
def tagLatest (name : String) : Except String String := .ok (name ++ ":latest")

theorem second_registry_tags_head :
    Call.tag "registry-1.example/app:latest" "registry-2.example/app:latest" ∈
        (buildAndPush succeeding [] tagLatest twoRegistries).1 ∧
      HeadImage tagLatest twoRegistries "registry-1.example/app:latest" := by
  have tagged : Call.tag "registry-1.example/app:latest" "registry-2.example/app:latest" ∈
      (buildAndPush succeeding [] tagLatest twoRegistries).1 := by
    decide +kernel
  exact ⟨tagged, ((build_and_push_solves_head_once succeeding [] tagLatest twoRegistries).2 _
    tagged).2 _ _ rfl⟩

/-- The image size limit gates every push: if the head image is over a
positive limit nothing is pushed, and a run that returns an image has pushed
the normalized name of every push registry once, in order, and returns those
names. -/
theorem image_size_gates_every_push {P : Type} (bk : Buildkit P) (plugins : List P)
    (normalize : String → Except String String) (opts : BuildOptions) :
    (0 < opts.imageSizeLimit → ∀ head size, HeadImage normalize opts head →
        bk.getImage head = .ok size → opts.imageSizeLimit < size →
        (buildAndPush bk plugins normalize opts).1.filterMap Call.pushed = []) ∧
      ∀ img, (buildAndPush bk plugins normalize opts).2 = .ok img →
        List.Forall₂ (fun registry url => normalize (registry ++ "/" ++ opts.imageName) = .ok url)
          opts.pushRegistries img.urls ∧
        (buildAndPush bk plugins normalize opts).1.filterMap Call.pushed = img.urls := by
  refine ⟨fun positive head size isHead sized exceeds => ?_, fun img returned => ?_⟩
  · obtain ⟨registry, rest, registries, named⟩ := isHead
    have quiet := pushed_pushLoop_of_oversized bk plugins normalize opts rest "" [] 0 named sized positive exceeds
    simp only [buildAndPush, registries, reduceCtorEq, if_false]
    simp only [List.cons_append, List.filterMap_cons, List.filterMap_append, Call.pushed, quiet,
      List.filterMap_nil, List.append_nil]
  · have nonempty : opts.pushRegistries ≠ [] := by
      intro empty
      simp [buildAndPush, empty] at returned
    simp only [buildAndPush, if_neg nonempty] at returned ⊢
    cases looped : pushLoop bk plugins normalize opts 0 "" [] 0 opts.pushRegistries with
    | mk calls result =>
      rw [looped] at returned
      dsimp only at returned
      subst returned
      obtain ⟨urls, normalized, urlsAre, pushed⟩ :=
        pushLoop_of_ok bk plugins normalize opts opts.pushRegistries 0 "" [] 0 calls img looped
      rw [List.nil_append] at urlsAre
      rw [urlsAre]
      refine ⟨normalized, ?_⟩
      simp only [List.cons_append, List.filterMap_cons, List.filterMap_append, Call.pushed, pushed,
        List.filterMap_nil, List.append_nil]

def limitedTwoRegistries : BuildOptions := { twoRegistries with imageSizeLimit := 512 }

theorem oversized_head_pushes_nothing :
    (buildAndPush succeeding [] tagLatest limitedTwoRegistries).1.filterMap Call.pushed = [] ∧
      (buildAndPush succeeding [] tagLatest twoRegistries).1.filterMap Call.pushed =
        ["registry-1.example/app:latest", "registry-2.example/app:latest"] :=
  ⟨(image_size_gates_every_push succeeding [] tagLatest limitedTwoRegistries).1 (by decide)
      "registry-1.example/app:latest" 1024 ⟨_, _, rfl, rfl⟩ rfl (by decide),
    ((image_size_gates_every_push succeeding [] tagLatest twoRegistries).2
      ⟨["registry-1.example/app:latest", "registry-2.example/app:latest"], 1024⟩ rfl).2⟩

end Forge.Guarantees.ImagePush
