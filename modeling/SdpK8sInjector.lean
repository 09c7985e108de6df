import SdpK8sInjector.Lib.Merge
import SdpK8sInjector.IdentityService.Mirror
import SdpK8sInjector.IdentityService.Isolation
import SdpK8sInjector.IdentityService.Agreement
import SdpK8sInjector.IdentityService.Recreation
import SdpK8sInjector.IdentityService.Startup
import SdpK8sInjector.IdentityService.Barrier
import SdpK8sInjector.IdentityService.Confluence
import SdpK8sInjector.IdentityService.Credentials
import SdpK8sInjector.IdentityService.EmptyPool
import SdpK8sInjector.IdentityService.Ownership
import SdpK8sInjector.IdentityService.Exclusive
import SdpK8sInjector.IdentityService.Announcements
import SdpK8sInjector.IdentityService.ClientProfiles
import SdpK8sInjector.Lib.Patch
import SdpK8sInjector.Injector.Deployments
import SdpK8sInjector.Injector.RoundTrip
import SdpK8sInjector.IdentityService.Replenishment
import SdpK8sInjector.IdentityService.Recording
import SdpK8sInjector.IdentityService.DeletedUsers
import SdpK8sInjector.Recycling.Exclusivity
import SdpK8sInjector.IdentityService.UserDeletion
import SdpK8sInjector.IdentityService.Clusters
import SdpK8sInjector.IdentityService.Initialization
import SdpK8sInjector.IdentityService.Restart
import SdpK8sInjector.Injector.IdentityStore
import SdpK8sInjector.IdentityService.FailedRequests
import SdpK8sInjector.IdentityService.BoundedQueues
import SdpK8sInjector.IdentityService.FailedLookups
import SdpK8sInjector.IdentityService.PoolUsers
import SdpK8sInjector.IdentityService.ActivationEffects
import SdpK8sInjector.IdentityService.Idempotence
import SdpK8sInjector.IdentityService.PrefixNames
import SdpK8sInjector.Injector.Registrations
import SdpK8sInjector.Injector.ServiceKeys
import SdpK8sInjector.Injector.PodNames
import SdpK8sInjector.Injector.DnsSearches
import SdpK8sInjector.Injector.ImageVersions
import SdpK8sInjector.Injector.DeviceIdUse
import SdpK8sInjector.Injector.Attempts
import SdpK8sInjector.Injector.Serializability
import SdpK8sInjector.Injector.DistinctNames
import SdpK8sInjector.Recycling.Rounds
import SdpK8sInjector.Recycling.Releases
import SdpK8sInjector.Common.Refinement
import SdpK8sInjector.IdentityService.ProfileUrls
import SdpK8sInjector.Injector.CertReload
import SdpK8sInjector.Injector.PodCredentials
import SdpK8sInjector.IdentityService.ReleaseCommand
