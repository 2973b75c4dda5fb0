import Forge.Guarantees.PushedImage

/-!
# What a completed build records

`Job.Run` with the embedded driver as its builder: a run that returns without
error has marked the build `Completed` with the image URLs `BuildAndPush`
returned, and those are the normalized names of the spec's push registries,
in the spec's order, each pushed once by the driver; replayed on the BuildKit
client, the driver leaves the built image under every one of them
(`completed_build_records_pushed_images`). So the URLs the status records are
the names the registries were sent the built image under.
-/

namespace Forge.Guarantees.CompletedBuild
open Forge.Source.Api Forge.Source.BuildJob Forge.Source.Driver Forge.Source.ImageStore
  Forge.Guarantees.PushedImage

/-! ## What a run that returns without error did -/

theorem publish_stored (update : StatusUpdate) (c : Cluster) : (publish update c).1.stored = c.stored := by
  unfold publish
  split
  · rfl
  · split <;> rfl

theorem updateStatus_eq_ok {cib written : ContainerImageBuild} {c c' : Cluster}
    (ran : updateStatus cib c = (c', .ok written)) :
    written = { c.stored with status := cib.status.persisted } ∧ c'.stored = written := by
  unfold updateStatus at ran
  split at ran
  · cases ran
  · -- the write is followed by the publish of what it stored, which keeps it
    dsimp only at ran
    split at ran
    · cases ran
    · rename_i c'' published
      obtain ⟨rfl, returned⟩ := Prod.mk.inj ran
      have kept := publish_stored (statusUpdate { c.stored with status := cib.status.persisted })
        { c with stored := { c.stored with status := cib.status.persisted }, statusAnswers := c.statusAnswers.tail }
      rw [published] at kept
      have same := Except.ok.inj returned
      exact ⟨same.symm, kept.trans same⟩

theorem transitionToComplete_stored {now : Int} {cib : ContainerImageBuild} {urls : List String} {size : Nat}
    {c c' : Cluster} (ran : transitionToComplete now cib urls size c = (c', .ok ())) :
    c'.stored.status.state = .completed ∧ c'.stored.status.imageURLs = urls := by
  unfold transitionToComplete at ran
  dsimp only at ran
  split at ran
  · cases ran
  · rename_i c'' written updated
    obtain ⟨rfl, -⟩ := Prod.mk.inj ran
    obtain ⟨rfl, stored⟩ := updateStatus_eq_ok updated
    rw [stored]
    exact ⟨rfl, rfl⟩

theorem failWith_ne_ok (env : Environment) (cib : ContainerImageBuild) (err : String) (c : Cluster) :
    (failWith env cib err c).2 ≠ .ok () := by
  unfold failWith
  split <;> exact fun same => by cases same

/-- A run that returns without error generated the build options, got an
image from the builder, and stored the build `Completed` with that image's
URLs. -/
theorem run_eq_ok {env : Environment} {name : String} {c : Cluster} (finished : (run env name c).2 = .ok ()) :
    ∃ opts image, generateBuildOptions env.sources c.stored = .ok opts ∧ env.buildAndPush opts = .ok image ∧
      (run env name c).1.stored.status.state = .completed ∧
      (run env name c).1.stored.status.imageURLs = image.urls := by
  cases found : env.getError with
  | some err => simp [run, found] at finished
  | none =>
    simp only [run, found] at finished ⊢
    cases building : transitionToBuilding env.startedAt { c.stored with status := c.stored.status.persisted } c with
    | mk c₁ result =>
      cases result with
      | error err => simp [building] at finished
      | ok cib =>
        obtain ⟨written, -⟩ := updateStatus_eq_ok building
        simp only [building, written, generateBuildOptions_status] at finished ⊢
        cases generating : generateBuildOptions env.sources c.stored with
        | error err =>
          simp only [generating] at finished
          exact absurd finished (failWith_ne_ok _ _ _ _)
        | ok opts =>
          simp only [generating] at finished ⊢
          cases pushing : env.buildAndPush opts with
          | error err =>
            simp only [pushing] at finished
            exact absurd finished (failWith_ne_ok _ _ _ _)
          | ok image =>
            simp only [pushing] at finished ⊢
            exact ⟨opts, image, rfl, pushing, transitionToComplete_stored (Prod.ext rfl finished)⟩

/-! ## The job with the embedded driver -/

theorem pushed_buildAndPush {P : Type} (bk : Buildkit P) (plugins : List P)
    (normalize : String → Except String String) (opts : BuildOptions) (registry : String) (rest : List String) :
    (Call.configureHosts opts.registries ::
        (pushLoop bk plugins normalize opts 0 "" [] 0 (registry :: rest)).1 ++ [Call.resetHostConfigurations]).filterMap
      Call.pushed = (pushLoop bk plugins normalize opts 0 "" [] 0 (registry :: rest)).1.filterMap Call.pushed := by
  rw [List.cons_append, List.filterMap_cons_none rfl, List.filterMap_append, List.filterMap_cons_none rfl,
    List.filterMap_nil, List.append_nil]

/-- With the embedded driver as its builder, a run of the job that returns
without error has stored the build `Completed` with, as its image URLs, the
normalized names of the spec's push registries in the spec's order. The driver
pushed exactly those names, in that order, and, replayed on the BuildKit
client from any state, left the built image under each. -/
theorem completed_build_records_pushed_images {normalize : String → Except String String}
    (normalizes : Normalizes normalize) {P : Type} (bk : Buildkit P) (plugins : List P) {env : Environment}
    (driven : ∀ opts, env.buildAndPush opts = (buildAndPush bk plugins normalize opts).2)
    {exported : Option Descriptor} {built : Descriptor} (solvedBuilt : bk.solve = .ok () → exported = some built)
    {name : String} {c : Cluster} (finished : (run env name c).2 = .ok ()) (client : Client) :
    ∃ opts, generateBuildOptions env.sources c.stored = .ok opts ∧
      (run env name c).1.stored.status.state = .completed ∧
      List.Forall₂ (fun registry url => normalize (registry ++ "/" ++ opts.imageName) = .ok url)
        opts.pushRegistries (run env name c).1.stored.status.imageURLs ∧
      (buildAndPush bk plugins normalize opts).1.filterMap Call.pushed = (run env name c).1.stored.status.imageURLs ∧
      ∀ url ∈ (run env name c).1.stored.status.imageURLs,
        ((buildAndPush bk plugins normalize opts).1.foldl (Client.apply normalize exported) client).imageStore.lookup
          url = some built := by
  obtain ⟨opts, image, generated, returned, completed, recorded⟩ := run_eq_ok finished
  rw [driven] at returned
  refine ⟨opts, generated, completed, ?_⟩
  rw [recorded]
  rcases buildAndPush_cases bk plugins normalize opts with ⟨-, stopped⟩ | ⟨registry, rest, registries, ran⟩
  · rw [stopped] at returned
    cases returned
  have looped : pushLoop bk plugins normalize opts 0 "" [] 0 (registry :: rest) =
      ((pushLoop bk plugins normalize opts 0 "" [] 0 (registry :: rest)).1, .ok image) := by
    rw [ran] at returned
    exact Prod.ext rfl returned
  obtain ⟨urls, normalized, urlsAre, pushes⟩ := pushLoop_of_ok bk plugins normalize opts _ 0 "" [] 0 _ image looped
  rw [List.nil_append] at urlsAre
  refine ⟨by rw [registries, urlsAre]; exact normalized, ?_,
    stores_after_build_and_push normalizes bk plugins opts solvedBuilt client image returned⟩
  rw [ran, urlsAre]
  exact (pushed_buildAndPush bk plugins normalize opts registry rest).trans pushes

def twoRegistryBuild : ContainerImageBuild where
  metadata := ⟨"build", "default", ∅, ∅, 0,
    "/apis/forge.dominodatalab.com/v1alpha1/namespaces/default/containerimagebuilds/build/status"⟩
  spec := ⟨"app", "https://ctx.example/app.tgz", 0, ["a.example", "b.example"], [], [], ∅, "", "",
    ⟨∅, ∅⟩, 0, 0, ∅, false, false, "", []⟩
  status := ⟨.unset, .unset, [], 0, "", none, none⟩

def drivenJob : Environment where
  getError := none
  sources := ⟨fun _ _ => .ok ∅, .ok ∅⟩
  buildAndPush := fun opts => (buildAndPush cooperative [] keepNames opts).2
  startedAt := 100
  completedAt := 200

def acceptingCluster : Cluster := ⟨twoRegistryBuild, [], some [], []⟩

theorem driven_job_records_both_registries :
    Normalizes keepNames ∧
      (∀ opts, drivenJob.buildAndPush opts = (buildAndPush cooperative [] keepNames opts).2) ∧
      (cooperative.solve = .ok () → some builtImage = some builtImage) ∧
      (run drivenJob "build" acceptingCluster).2 = .ok () ∧
      ∃ opts, generateBuildOptions drivenJob.sources acceptingCluster.stored = .ok opts ∧
        (run drivenJob "build" acceptingCluster).1.stored.status.state = .completed ∧
        List.Forall₂ (fun registry url => keepNames (registry ++ "/" ++ opts.imageName) = .ok url)
          opts.pushRegistries (run drivenJob "build" acceptingCluster).1.stored.status.imageURLs ∧
        (buildAndPush cooperative [] keepNames opts).1.filterMap Call.pushed =
          (run drivenJob "build" acceptingCluster).1.stored.status.imageURLs ∧
        ∀ url ∈ (run drivenJob "build" acceptingCluster).1.stored.status.imageURLs,
          ((buildAndPush cooperative [] keepNames opts).1.foldl (Client.apply keepNames (some builtImage))
            staleClient).imageStore.lookup url = some builtImage :=
  ⟨keepNames_normalizes, fun _ => rfl, fun _ => rfl, by decide,
    completed_build_records_pushed_images keepNames_normalizes cooperative [] (fun _ => rfl) (fun _ => rfl)
      (by decide) staleClient⟩

example : (run drivenJob "build" acceptingCluster).1.stored.status.imageURLs = ["a.example/app", "b.example/app"] := by
  decide

end Forge.Guarantees.CompletedBuild
