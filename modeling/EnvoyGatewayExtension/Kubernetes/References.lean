import EnvoyGatewayExtension.Kubernetes.Authorization
import EnvoyGatewayExtension.Kubernetes.Selectors

namespace EnvoyGatewayExtension.Kubernetes

def VolumeSource.reference (ns : String) : VolumeSource → Option ObjectKey
  | configMap name => some ⟨"", "ConfigMap", ns, name⟩
  | secret name => some ⟨"", "Secret", ns, name⟩
  | emptyDir _ => none

def PodSpec.references (ns : String) (spec : PodSpec) : List ObjectKey :=
  ⟨"", "ServiceAccount", ns, spec.serviceAccountName⟩ :: spec.volumes.filterMap fun v =>
    v.source.reference ns

namespace Manifest

def podSpec (m : Manifest) : Option PodSpec :=
  match m.body with
  | .deployment spec => some spec.template.spec
  | _ => none

def references (m : Manifest) : List ObjectKey :=
  match m.body with
  | .roleBinding ref subjects =>
    roleKey ref m.key.namespace :: subjects.map fun s => ⟨"", s.kind, s.namespace, s.name⟩
  | .deployment spec => spec.template.spec.references m.key.namespace
  | .gatewayClass _ ref => [⟨ref.group, ref.kind, ref.namespace.getD "", ref.name⟩]
  | .validatingAdmissionPolicyBinding policyName _ _ =>
    [⟨"admissionregistration.k8s.io", "ValidatingAdmissionPolicy", "", policyName⟩]
  | _ => []

def podSelectors (m : Manifest) : List LabelSelector :=
  match m.body with
  | .deployment spec =>
    spec.selector :: (spec.template.spec.preferredAntiAffinity.map PodAffinityTerm.labelSelector ++
      spec.template.spec.topologySpreadConstraints.map TopologySpreadConstraint.labelSelector)
  | .service _ selector _ => [⟨selector, []⟩]
  | .podDisruptionBudget _ selector _ => [selector]
  | .networkPolicy spec => [spec.podSelector]
  | _ => []

def podPorts (m : Manifest) : List (IntOrString × Protocol) :=
  match m.body with
  | .service _ _ ports => ports.map fun p => (p.targetPort, p.protocol)
  | .networkPolicy spec => spec.ingress.flatMap fun rule =>
      rule.ports.filterMap fun p => p.port.map fun port => (port, p.protocol.getD .tcp)
  | _ => []

def fileNames (m : Manifest) : Finset String :=
  match m.body with
  | .configMap data => data.keys
  | .secret _ data => data.keys
  | _ => ∅

end Manifest

def Closed (objects : List Manifest) : Prop :=
  ∀ m ∈ objects, ∀ k ∈ m.references, k ∈ objects.map Manifest.key

def Container.Listens (c : Container) : IntOrString × Protocol → Prop
  | (.int n, protocol) => ∃ p ∈ c.ports, p.containerPort = n ∧ p.protocol = protocol
  | (.str name, protocol) => ∃ p ∈ c.ports, p.name = name ∧ p.protocol = protocol

def Provides (objects : List Manifest) (ns : String) (spec : PodSpec) (c : Container)
    (path : String) : Prop :=
  ∃ mount ∈ c.volumeMounts, ∃ v ∈ spec.volumes, v.name = mount.name ∧ ∃ m ∈ objects,
    v.source.reference ns = some m.key ∧ ∃ file ∈ m.fileNames, path = mount.mountPath ++ "/" ++ file

structure PodSpec.Coherent (spec : PodSpec) : Prop where
  volumes : (spec.volumes.map Volume.name).Nodup
  mounts : ∀ c ∈ spec.containers, ∀ mount ∈ c.volumeMounts,
    mount.name ∈ spec.volumes.map Volume.name
  probes : ∀ c ∈ spec.containers, ∀ probe, c.livenessProbe = some probe ∨
    c.readinessProbe = some probe → c.Listens (.int probe.port, .tcp)

def Defined (objects : List Manifest) (group kind : String) : Prop :=
  ∃ m ∈ objects, m.body = .customResourceDefinition group kind

end EnvoyGatewayExtension.Kubernetes
