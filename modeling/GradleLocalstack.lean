import GradleLocalstack.Analysis.SnsListing
import GradleLocalstack.Analysis.S3Paging
import GradleLocalstack.Analysis.DeadletterQueue
import GradleLocalstack.Analysis.Deletion
import GradleLocalstack.Analysis.S3Purge
import GradleLocalstack.Analysis.Creation
import GradleLocalstack.Analysis.Options
import GradleLocalstack.Analysis.Publish
import GradleLocalstack.Analysis.SnsEndpoint
import GradleLocalstack.Analysis.TableInitializer
import GradleLocalstack.Analysis.ComposeFile
import GradleLocalstack.Analysis.ClientBinding
import GradleLocalstack.Analysis.RestartOrder
import GradleLocalstack.Analysis.RetryLaw
import GradleLocalstack.Analysis.SqsListing
import GradleLocalstack.Analysis.PublishOrder
import GradleLocalstack.Analysis.Archive
import GradleLocalstack.Analysis.StackRequest
import GradleLocalstack.Analysis.BootRunArguments
import GradleLocalstack.Analysis.SetupIndependence
import GradleLocalstack.Analysis.MessagingSession
import GradleLocalstack.Analysis.S3Session
import GradleLocalstack.Analysis.PluginLoad
import GradleLocalstack.Analysis.CatalogNotifications
import GradleLocalstack.Analysis.FileSession
import GradleLocalstack.Analysis.Termination
