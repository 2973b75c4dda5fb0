import Forge.Source.Driver
import Forge.Source.AuthProvider
import Forge.Lib.Replay

/-!
# The BuildKit client's image store

Source: `internal/builder/embedded/bkimage`: `parseImageName` (`util.go`),
`TagImage` (`tag.go`), `GetImage` (`get.go`), `PushImage` (`push.go`), and
`ConfigureHosts` and `ResetHostConfigurations` (`hosts.go`). The image store
they use is containerd's (`metadata/images.go`: `Get`, `Update` of a whole
image, `Create`); the image a solve builds is named by BuildKit's image
exporter (`exporter/containerimage/export.go`), under the `name` attribute of
the driver's solve request.

An image is kept as its target descriptor: the digest and the annotations
that `PushImage` hands to `push.Push`. Its `CreatedAt` and labels, which
`Update` and `Create` set themselves, are read by nothing here. The store is
used by one process, so a `Create` after `Update` found no image does not meet
one. The reference grammar (`ParseNormalizedNamed`, `TagNameOnly`, `String()`)
is the parameter `normalize`, as in the driver; the content store's size of a
target and the session and registry answers of a push are oracles.

The client's state is its registry hosts and its image store. Replaying the
driver's log of calls on it (`Client.apply`) says what the store holds, and
which hosts are in effect, when each call runs.
-/

namespace Forge.Source.ImageStore
open Forge.Source.Api Forge.Source.Driver Forge.Source.AuthProvider Forge.Lib.Strings

/-- An image's target descriptor, as `push.Push` is given it. -/
structure Descriptor where
  digest : String
  annotations : StringMap
  deriving DecidableEq

/-- The image store: each image name with its target. -/
abbrev Images := AList fun _ : String => Descriptor

/-- The errors of the image store, by their `errdefs` class. -/
inductive StoreError where
  | notFound (name : String)
  | alreadyExists (name : String)
  | invalidArgument (message : String)
  deriving DecidableEq, Repr

/-- The text of a store error: the store's message, wrapped around the class. -/
def StoreError.message : StoreError → String
  | .notFound name => "image " ++ quote name ++ ": not found"
  | .alreadyExists name => "image " ++ quote name ++ ": already exists"
  | .invalidArgument message => message ++ ": invalid argument"

/-! ## containerd's image store -/

def get (images : Images) (name : String) : Except StoreError Descriptor :=
  match images.lookup name with
  | some target => .ok target
  | none => .error (.notFound name)

/-- `imageStore.Update(ctx, image)` with no field paths: the whole image is
replaced. -/
def update (images : Images) (name : String) (target : Descriptor) : Images × Except StoreError Unit :=
  if name = "" then (images, .error (.invalidArgument "image name is required for update"))
  else
    match images.lookup name with
    | none => (images, .error (.notFound name))
    | some _ => (images.insert name target, .ok ())

def create (images : Images) (name : String) (target : Descriptor) : Images × Except StoreError Unit :=
  if name = "" then (images, .error (.invalidArgument "image name must not be empty"))
  else
    match images.lookup name with
    | some _ => (images, .error (.alreadyExists name))
    | none => (images.insert name target, .ok ())

/-- For a name that is not empty, `Update` replaces the image, or finds none and
`Create` adds it: either way the name's target is set. -/
theorem update_or_create (images : Images) {name : String} (named : name ≠ "") (target : Descriptor) :
    update images name target = (images.insert name target, .ok ()) ∨
      (update images name target = (images, .error (.notFound name)) ∧
        create images name target = (images.insert name target, .ok ())) := by
  unfold update create
  rw [if_neg named, if_neg named]
  cases images.lookup name with
  | none => exact .inr ⟨rfl, rfl⟩
  | some _ => exact .inl rfl

/-! ## The exporter's naming -/

/-- The exporter's loop over the names it is given: each gets the built
image as its target, by `Update`, or by `Create` where `Update` finds none. -/
def exportNames (desc : Descriptor) : Images → List String → Images × Except String Unit
  | images, [] => (images, .ok ())
  | images, name :: rest =>
    match update images name desc with
    | (images, .ok ()) => exportNames desc images rest
    | (images, .error (.notFound _)) =>
      match create images name desc with
      | (images, .ok ()) => exportNames desc images rest
      | (images, .error err) => (images, .error err.message)
    | (images, .error err) => (images, .error err.message)

/-- The naming of the image exporter: the comma-separated names of its target
name, when there is one, each name the built image. -/
def exportImage (images : Images) (targetName : String) (desc : Descriptor) : Images × Except String Unit :=
  if targetName = "" then (images, .ok ())
  else exportNames desc images ((split ',' targetName.toList).map String.ofList)

theorem exportNames_singleton (desc : Descriptor) (images : Images) {name : String} (named : name ≠ "") :
    exportNames desc images [name] = (images.insert name desc, .ok ()) := by
  rcases update_or_create images named desc with updated | ⟨missing, created⟩
  · rw [exportNames, updated]
    rfl
  · rw [exportNames, missing]
    simp only [created]
    rfl

/-! ## Image names -/

def parseImageName (normalize : String → Except String String) (image : String) : Except String String :=
  match normalize image with
  | .error err => .error ("parsing image name " ++ quote image ++ " failed: " ++ err)
  | .ok named => .ok named

/-- What the reference grammar gives `parseImageName`: a name it returns is not
empty, has no comma, and is its own normal form. -/
structure Normalizes (normalize : String → Except String String) : Prop where
  nonempty : ∀ {image name}, normalize image = .ok name → name ≠ ""
  commaFree : ∀ {image name}, normalize image = .ok name → ',' ∉ name.toList
  idempotent : ∀ {image name}, normalize image = .ok name → normalize name = .ok name

theorem parseImageName_of_ok {normalize : String → Except String String} {image name : String}
    (normalized : normalize image = .ok name) : parseImageName normalize image = .ok name := by
  rw [parseImageName, normalized]

theorem parseImageName_normal {normalize : String → Except String String} (normalizes : Normalizes normalize)
    {image name : String} (normalized : normalize image = .ok name) :
    parseImageName normalize name = .ok name :=
  parseImageName_of_ok (normalizes.idempotent normalized)

/-- The exporter names the image under a name `normalize` returned, and under
that name only. -/
theorem exportImage_of_normal {normalize : String → Except String String} (normalizes : Normalizes normalize)
    {image name : String} (normalized : normalize image = .ok name) (images : Images) (desc : Descriptor) :
    exportImage images name desc = (images.insert name desc, .ok ()) := by
  have named := normalizes.nonempty normalized
  rw [exportImage, if_neg named, split_of_not_mem ',' name.toList (normalizes.commaFree normalized),
    List.map_singleton, String.ofList_toList]
  exact exportNames_singleton desc images named

/-! ## The client -/

/-- The state of the BuildKit client that its calls read and write: its
registry hosts with their credentials, and its image store. -/
structure Client where
  hosts : Hosts
  imageStore : Images

def Client.tagImage (c : Client) (normalize : String → Except String String) (src dest : String) :
    Images × Except String Unit :=
  match parseImageName normalize src with
  | .error err => (c.imageStore, .error err)
  | .ok src =>
    match parseImageName normalize dest with
    | .error err => (c.imageStore, .error err)
    | .ok dest =>
      match get c.imageStore src with
      | .error err =>
        (c.imageStore, .error ("getting image " ++ quote src ++ " from image store failed: " ++ err.message))
      | .ok target =>
        match update c.imageStore dest target with
        | (images, .ok ()) => (images, .ok ())
        | (images, .error (.notFound _)) =>
          match create images dest target with
          | (images, .ok ()) => (images, .ok ())
          | (images, .error err) =>
            (images, .error ("creating image " ++ quote dest ++ " in image store failed: " ++ err.message))
        | (images, .error err) =>
          (images, .error ("updating image store with " ++ quote dest ++ " failed: " ++ err.message))

/-- `GetImage(ctx, name)`: the image's target with its `ContentSize`, which the
content store's `size` gives for the target. -/
def Client.getImage (c : Client) (normalize : String → Except String String)
    (size : Descriptor → Except String Nat) (name : String) : Except String (Descriptor × Nat) :=
  match parseImageName normalize name with
  | .error err => .error err
  | .ok name =>
    match get c.imageStore name with
    | .error err => .error ("getting image " ++ quote name ++ " from image store failed: " ++ err.message)
    | .ok target =>
      match size target with
      | .error err => .error ("calculating image size of " ++ quote name ++ " failed: " ++ err)
      | .ok contentSize => .ok (target, contentSize)

/-- `PushImage(ctx, id, image)`: `push.Push` of the stored target under the
parsed name, through the client's registry hosts; `push` is the answer of the
session manager and of the push. -/
def Client.pushImage (c : Client) (normalize : String → Except String String)
    (push : RegistryHosts → Descriptor → String → Except String Unit) (image : String) :
    Except String Unit :=
  match parseImageName normalize image with
  | .error err => .error err
  | .ok image =>
    match get c.imageStore image with
    | .error err => .error ("getting image " ++ quote image ++ " from image store failed: " ++ err.message)
    | .ok target => push c.hosts.registryHosts target image

theorem Client.tagImage_of_lookup (c : Client) {normalize : String → Except String String}
    (normalizes : Normalizes normalize) {src dest srcImage destImage : String} {target : Descriptor}
    (srcNormal : normalize srcImage = .ok src) (destNormal : normalize destImage = .ok dest)
    (stored : c.imageStore.lookup src = some target) :
    c.tagImage normalize src dest = (c.imageStore.insert dest target, .ok ()) := by
  unfold Client.tagImage
  rw [parseImageName_normal normalizes srcNormal, parseImageName_normal normalizes destNormal]
  simp only [get, stored]
  rcases update_or_create c.imageStore (normalizes.nonempty destNormal) target with
    updated | ⟨missing, created⟩
  · rw [updated]
  · rw [missing]
    simp only [created]

theorem Client.getImage_of_lookup (c : Client) {normalize : String → Except String String}
    (normalizes : Normalizes normalize) {image name : String} {target : Descriptor}
    (normalized : normalize image = .ok name) (stored : c.imageStore.lookup name = some target)
    {size : Descriptor → Except String Nat} {contentSize : Nat} (sized : size target = .ok contentSize) :
    c.getImage normalize size name = .ok (target, contentSize) := by
  rw [Client.getImage, parseImageName_normal normalizes normalized]
  simp only [get, stored, sized]

theorem Client.pushImage_of_lookup (c : Client) {normalize : String → Except String String}
    (normalizes : Normalizes normalize) {image name : String} {target : Descriptor}
    (normalized : normalize image = .ok name) (stored : c.imageStore.lookup name = some target)
    (push : RegistryHosts → Descriptor → String → Except String Unit) :
    c.pushImage normalize push name = push c.hosts.registryHosts target name := by
  rw [Client.pushImage, parseImageName_normal normalizes normalized]
  simp only [get, stored]

/-! ## The driver's calls on the client -/

variable {P : Type}

/-- What a call of the driver does to the client. `ConfigureHosts` and
`ResetHostConfigurations` set the hosts; the solve's exporter names the image
it built, `exported`, when it ran; `TagImage` writes the store. The other
calls of the client only read it, and those on the extractor and the plugins
do not reach it. -/
def Client.apply (normalize : String → Except String String) (exported : Option Descriptor)
    (c : Client) : Call P → Client
  | .configureHosts registries => { c with hosts := hostsFor registries }
  | .resetHostConfigurations => { c with hosts := resetHostConfigurations }
  | .solve image =>
    match exported with
    | some desc => { c with imageStore := (exportImage c.imageStore image desc).1 }
    | none => c
  | .tag src dest => { c with imageStore := (c.tagImage normalize src dest).1 }
  | .extract _ | .prepare _ _ | .cleanup _ | .getImage _ | .push _ => c

/-- The calls on the extractor and the plugins, and those of the client that
only read its state, leave the client as it is. -/
def readsOnly : Call P → Bool
  | .extract _ | .prepare _ _ | .cleanup _ | .getImage _ | .push _ => true
  | _ => false

theorem Client.apply_of_readsOnly (normalize : String → Except String String) (exported : Option Descriptor)
    (c : Client) {call : Call P} (reading : readsOnly call = true) : c.apply normalize exported call = c := by
  cases call <;> first | rfl | cases reading

theorem Client.foldl_apply_of_readsOnly (normalize : String → Except String String)
    (exported : Option Descriptor) {calls : List (Call P)} (reading : ∀ call ∈ calls, readsOnly call = true)
    (c : Client) : calls.foldl (Client.apply normalize exported) c = c :=
  Forge.Lib.Replay.foldl_eq_of_keeps id (Client.apply normalize exported)
    (fun call mem s => Client.apply_of_readsOnly normalize exported s (reading call mem)) c

end Forge.Source.ImageStore
