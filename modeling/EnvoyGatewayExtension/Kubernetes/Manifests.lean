import EnvoyGatewayExtension.Kubernetes.Objects

namespace EnvoyGatewayExtension.Kubernetes

abbrev Bytes : Type := List UInt8

abbrev Data : Type := Finmap (fun _ : String => Bytes)

def Data.ofList (l : List (String × Bytes)) : Data :=
  (l.map (fun e => (⟨e.1, e.2⟩ : Sigma (fun _ : String => Bytes)))).toFinmap

def Data.value (d : Data) (key : String) : Bytes := (d.lookup key).getD []

structure PodSecurityContext where
  runAsNonRoot : Bool
  runAsUser : Int64
  runAsGroup : Int64
  fsGroup : Int64
  deriving DecidableEq

structure SecurityContext where
  allowPrivilegeEscalation : Bool
  readOnlyRootFilesystem : Bool
  dropCapabilities : List String
  deriving DecidableEq

structure ResourceRequirements where
  requests : Labels
  limits : Labels
  deriving DecidableEq

inductive VolumeSource
  | configMap (name : String)
  | secret (name : String)
  | emptyDir (sizeLimit : String)
  deriving DecidableEq

structure Volume where
  name : String
  source : VolumeSource
  deriving DecidableEq

structure VolumeMount where
  name : String
  mountPath : String
  readOnly : Bool := false
  deriving DecidableEq

inductive EnvValue
  | value (v : String)
  | fieldRef (path : String)
  deriving DecidableEq

structure ContainerPort where
  name : String
  containerPort : Int32
  protocol : Protocol
  deriving DecidableEq

structure Probe where
  path : String
  port : Int32
  initialDelaySeconds : Int32
  periodSeconds : Int32
  deriving DecidableEq

structure Container where
  name : String
  image : String
  args : List String
  env : List (String × EnvValue) := []
  volumeMounts : List VolumeMount := []
  ports : List ContainerPort := []
  livenessProbe : Option Probe := none
  readinessProbe : Option Probe := none
  resources : ResourceRequirements
  securityContext : SecurityContext
  deriving DecidableEq

structure PodAffinityTerm where
  weight : Int32
  topologyKey : String
  labelSelector : LabelSelector
  deriving DecidableEq

structure TopologySpreadConstraint where
  maxSkew : Int32
  topologyKey : String
  whenUnsatisfiable : String
  labelSelector : LabelSelector
  deriving DecidableEq

structure PodSpec where
  serviceAccountName : String := ""
  preferredAntiAffinity : List PodAffinityTerm := []
  topologySpreadConstraints : List TopologySpreadConstraint := []
  securityContext : PodSecurityContext
  volumes : List Volume := []
  containers : List Container
  deriving DecidableEq

structure PodTemplateSpec where
  labels : Labels
  spec : PodSpec
  deriving DecidableEq

structure DeploymentSpec where
  replicas : Option Int32
  selector : LabelSelector
  template : PodTemplateSpec
  deriving DecidableEq

structure Deployment where
  «namespace» : String
  name : String
  labels : Labels
  spec : DeploymentSpec
  deriving DecidableEq

structure PolicyRule where
  apiGroups : List String
  resources : List String
  verbs : List String
  deriving DecidableEq

structure RoleRef where
  apiGroup : String
  kind : String
  name : String
  deriving DecidableEq

structure Subject where
  kind : String
  name : String
  «namespace» : String
  deriving DecidableEq

structure ServicePort where
  name : String
  port : Int32
  targetPort : IntOrString
  protocol : Protocol
  deriving DecidableEq

structure ParametersReference where
  group : String
  kind : String
  name : String
  «namespace» : Option String
  deriving DecidableEq

structure Validation where
  expression : String
  reason : String
  message : String
  deriving DecidableEq

structure ResourceRule where
  operations : List String
  apiGroups : List String
  apiVersions : List String
  resources : List String
  deriving DecidableEq

structure AdmissionVariable where
  name : String
  expression : String
  deriving DecidableEq

structure ObjectKey where
  group : String
  kind : String
  «namespace» : String
  name : String
  deriving DecidableEq, Repr

inductive Body
  | serviceAccount
  | configMap (data : Labels)
  | secret (type : String) (data : Data)
  | role (rules : List PolicyRule)
  | roleBinding (roleRef : RoleRef) (subjects : List Subject)
  | deployment (spec : DeploymentSpec)
  | service (type : String) (selector : Labels) (ports : List ServicePort)
  | podDisruptionBudget (minAvailable : IntOrString) (selector : LabelSelector)
      (unhealthyPodEvictionPolicy : String)
  | networkPolicy (spec : NetworkPolicySpec)
  | gatewayClass (controllerName : String) (parametersRef : ParametersReference)
  | yaml (text : String)
  | validatingAdmissionPolicy (failurePolicy : String) (resourceRules : List ResourceRule)
      («variables» : List AdmissionVariable) (validations : List Validation)
  | validatingAdmissionPolicyBinding (policyName : String) (validationActions : List String)
      (namespaceSelector : LabelSelector)
  | customResourceDefinition (group kind : String)
  deriving DecidableEq

structure Manifest where
  key : ObjectKey
  labels : Labels
  annotations : Labels := .ofList []
  body : Body
  deriving DecidableEq

end EnvoyGatewayExtension.Kubernetes
