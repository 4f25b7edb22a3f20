import EnvoyGatewayExtension.Actuator.CRDRetention
import EnvoyGatewayExtension.Actuator.Calls
import EnvoyGatewayExtension.Actuator.Completion
import EnvoyGatewayExtension.Actuator.Configuration
import EnvoyGatewayExtension.Actuator.ControllerPair
import EnvoyGatewayExtension.Actuator.Custody
import EnvoyGatewayExtension.Actuator.Declarative
import EnvoyGatewayExtension.Actuator.Defaults
import EnvoyGatewayExtension.Actuator.DeleteSafety
import EnvoyGatewayExtension.Actuator.Deliveries
import EnvoyGatewayExtension.Actuator.Disabling
import EnvoyGatewayExtension.Actuator.Drain
import EnvoyGatewayExtension.Actuator.EndToEnd
import EnvoyGatewayExtension.Actuator.ErrorReasons
import EnvoyGatewayExtension.Actuator.Footprints
import EnvoyGatewayExtension.Actuator.GatewayGuard
import EnvoyGatewayExtension.Actuator.Metrics
import EnvoyGatewayExtension.Actuator.Migration
import EnvoyGatewayExtension.Actuator.Operations
import EnvoyGatewayExtension.Actuator.OrphanSweep
import EnvoyGatewayExtension.Actuator.PrunePaths
import EnvoyGatewayExtension.Actuator.Retries
import EnvoyGatewayExtension.Actuator.Rotation
import EnvoyGatewayExtension.Actuator.Runs
import EnvoyGatewayExtension.Actuator.SweepRetries
import EnvoyGatewayExtension.Actuator.TLSMaterial
import EnvoyGatewayExtension.Admission.Agreement
import EnvoyGatewayExtension.Admission.Replicas
import EnvoyGatewayExtension.Admission.Shoot
import EnvoyGatewayExtension.Admission.Specification
import EnvoyGatewayExtension.Cel.Evaluation
import EnvoyGatewayExtension.Cel.Syntax
import EnvoyGatewayExtension.Effects.Attempts
import EnvoyGatewayExtension.Effects.Completion
import EnvoyGatewayExtension.Effects.Counting
import EnvoyGatewayExtension.Effects.Execution
import EnvoyGatewayExtension.Effects.Interference
import EnvoyGatewayExtension.Effects.Labelled
import EnvoyGatewayExtension.Effects.Polling
import EnvoyGatewayExtension.Effects.Programs
import EnvoyGatewayExtension.Effects.Transitions
import EnvoyGatewayExtension.Effects.Triples
import EnvoyGatewayExtension.EnvoyGateway.Access
import EnvoyGatewayExtension.EnvoyGateway.Config
import EnvoyGatewayExtension.EnvoyGateway.Constants
import EnvoyGatewayExtension.EnvoyGateway.CustomResources
import EnvoyGatewayExtension.EnvoyGateway.Deployer
import EnvoyGatewayExtension.EnvoyGateway.EnvoyProxy
import EnvoyGatewayExtension.EnvoyGateway.Identity
import EnvoyGatewayExtension.EnvoyGateway.Listing
import EnvoyGatewayExtension.EnvoyGateway.Policies
import EnvoyGatewayExtension.EnvoyGateway.ProxyGuard
import EnvoyGatewayExtension.EnvoyGateway.ProxyTemplate
import EnvoyGatewayExtension.EnvoyGateway.References
import EnvoyGatewayExtension.EnvoyGateway.Secrets
import EnvoyGatewayExtension.EnvoyGateway.XdsHop
import EnvoyGatewayExtension.Kubernetes.AdmissionPolicies
import EnvoyGatewayExtension.Kubernetes.Authorization
import EnvoyGatewayExtension.Kubernetes.Connectivity
import EnvoyGatewayExtension.Kubernetes.Errors
import EnvoyGatewayExtension.Kubernetes.Manifests
import EnvoyGatewayExtension.Kubernetes.NetworkPolicies
import EnvoyGatewayExtension.Kubernetes.Objects
import EnvoyGatewayExtension.Kubernetes.References
import EnvoyGatewayExtension.Kubernetes.Selectors
import EnvoyGatewayExtension.NetpolController.Bookkeeping
import EnvoyGatewayExtension.NetpolController.Convergence
import EnvoyGatewayExtension.NetpolController.GatewayFeed
import EnvoyGatewayExtension.NetpolController.Permissions
import EnvoyGatewayExtension.NetpolController.Progress
import EnvoyGatewayExtension.NetpolController.Reconciler
import EnvoyGatewayExtension.NetpolController.Runs
import EnvoyGatewayExtension.NetpolController.SelfHeal
import EnvoyGatewayExtension.NetpolController.Stability
import EnvoyGatewayExtension.NetpolController.System
import EnvoyGatewayExtension.NetpolController.Traffic
import EnvoyGatewayExtension.NetpolController.Watches
import EnvoyGatewayExtension.NetpolController.Writes
import EnvoyGatewayExtension.Stores.Informer
import EnvoyGatewayExtension.Stores.ObjectStore
import EnvoyGatewayExtension.Text.Indentation
import EnvoyGatewayExtension.Text.Occurrences
