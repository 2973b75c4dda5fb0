import Forge.Lib.Regex
import Forge.Lib.Strings
import Forge.Lib.FilePath
import Forge.Lib.Files
import Forge.Lib.Maps
import Forge.Lib.Base64
import Forge.Lib.Shell
import Forge.Lib.Threads
import Forge.Lib.Walk
import Forge.Lib.Replay
import Forge.Source.Api
import Forge.Source.Cloud
import Forge.Source.JobResources
import Forge.Source.Archive
import Forge.Source.Amqp
import Forge.Source.BuildJob
import Forge.Source.Reconciler
import Forge.Source.Driver
import Forge.Source.Solve
import Forge.Source.AuthProvider
import Forge.Source.Plugins
import Forge.Source.JobSetup
import Forge.Source.ImageStore
import Forge.Guarantees.CloudHosts
import Forge.Guarantees.JobCommand
import Forge.Guarantees.ArchiveConfinement
import Forge.Guarantees.PublisherReconnect
import Forge.Guarantees.BuildJobStatus
import Forge.Guarantees.RegistryPrecedence
import Forge.Guarantees.DynamicCredentials
import Forge.Guarantees.GarbageCollection
import Forge.Guarantees.ImagePush
import Forge.Guarantees.PluginCleanup
import Forge.Guarantees.ArchiveContents
import Forge.Guarantees.ChallengeGrammar
import Forge.Guarantees.EcrToken
import Forge.Guarantees.SolveAttributes
import Forge.Guarantees.SessionAuth
import Forge.Guarantees.PluginRpc
import Forge.Guarantees.PluginLoading
import Forge.Guarantees.JobTeardown
import Forge.Guarantees.PushedImage
import Forge.Guarantees.CompletedBuild
import Forge.Guarantees.BuildLifecycle
import Forge.Guarantees.AcrRetry
import Forge.Guarantees.JobPrerequisites
