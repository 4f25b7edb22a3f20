import EnvoyGatewayExtension.Kubernetes.Manifests
import EnvoyGatewayExtension.Kubernetes.Selectors

namespace EnvoyGatewayExtension.Kubernetes

structure Pod where
  «namespace» : String
  labels : Labels
  /-- The container port behind a port name. -/
  namedPort : String → Protocol → Option Int32 := fun _ _ => none

section Semantics

variable (nsLabels : String → Labels) (policyNamespace : String)

/-- Both selectors of a peer have to match; without one of namespaces it is the policy's own. -/
structure NetworkPolicyPeer.Matches (peer : NetworkPolicyPeer) (pod : Pod) : Prop where
  own : peer.namespaceSelector = none → pod.namespace = policyNamespace
  namespaces : ∀ s, peer.namespaceSelector = some s → s.Matches (nsLabels pod.namespace)
  pods : ∀ s, peer.podSelector = some s → s.Matches pod.labels

def NetworkPolicyPort.Matches (p : NetworkPolicyPort) (dst : Pod) (protocol : Protocol)
    (port : Int32) : Prop :=
  protocol = p.protocol.getD .tcp ∧
    match p.port with
    | none => True
    | some (.int n) => port = n
    | some (.str name) => dst.namedPort name protocol = some port

structure NetworkPolicyRule.Allows (rule : NetworkPolicyRule) (peer dst : Pod) (protocol : Protocol)
    (port : Int32) : Prop where
  peers : rule.peers = [] ∨ ∃ p ∈ rule.peers, p.Matches nsLabels policyNamespace peer
  ports : rule.ports = [] ∨ ∃ p ∈ rule.ports, p.Matches dst protocol port

structure NetworkPolicy.Governs (np : NetworkPolicy) (direction : PolicyType) (pod : Pod) :
    Prop where
  «namespace» : pod.namespace = np.namespace
  pods : np.spec.podSelector.Matches pod.labels
  direction : direction ∈ np.spec.policyTypes

def NetworkPolicy.AllowsEgress (np : NetworkPolicy) (dst : Pod) (protocol : Protocol)
    (port : Int32) : Prop :=
  ∃ rule ∈ np.spec.egress, rule.Allows nsLabels np.namespace dst dst protocol port

def NetworkPolicy.AllowsIngress (np : NetworkPolicy) (src dst : Pod) (protocol : Protocol)
    (port : Int32) : Prop :=
  ∃ rule ∈ np.spec.ingress, rule.Allows nsLabels np.namespace src dst protocol port

end Semantics

def Manifest.networkPolicy (m : Manifest) : Option NetworkPolicy :=
  match m.body with
  | .networkPolicy spec => some ⟨m.key.namespace, m.key.name, m.labels, spec⟩
  | _ => none

def Manifest.Creates (m : Manifest) (pod : Pod) : Prop :=
  match m.body with
  | .deployment spec => pod.namespace = m.key.namespace ∧
    ∀ k v, spec.template.labels.lookup k = some v → pod.labels.lookup k = some v
  | _ => False

variable {nsLabels : String → Labels} {ns : String} {pod : Pod} {s t : LabelSelector}

lemma matches_both : NetworkPolicyPeer.Matches nsLabels ns ⟨some t, some s⟩ pod ↔
    s.Matches (nsLabels pod.namespace) ∧ t.Matches pod.labels := by
  constructor
  · intro h
    exact ⟨h.namespaces s rfl, h.pods t rfl⟩
  · rintro ⟨hs, ht⟩
    exact ⟨fun h => (by cases h), fun _ h => Option.some.inj h ▸ hs,
      fun _ h => Option.some.inj h ▸ ht⟩

lemma matches_namespaces : NetworkPolicyPeer.Matches nsLabels ns ⟨none, some s⟩ pod ↔
    s.Matches (nsLabels pod.namespace) := by
  constructor
  · intro h
    exact h.namespaces s rfl
  · intro hs
    exact ⟨fun h => (by cases h), fun _ h => Option.some.inj h ▸ hs, fun _ h => (by cases h)⟩

lemma matches_port {dst : Pod} {protocol q : Protocol} {port n : Int32} :
    NetworkPolicyPort.Matches ⟨some q, some (.int n)⟩ dst protocol port ↔ protocol = q ∧
    port = n := Iff.rfl

lemma allows_iff {peer : NetworkPolicyPeer} {q : NetworkPolicyPort} {qs : List NetworkPolicyPort}
    {src dst : Pod} {protocol : Protocol} {port : Int32} :
    NetworkPolicyRule.Allows nsLabels ns ⟨[peer], q :: qs⟩ src dst protocol port ↔
      peer.Matches nsLabels ns src ∧ ∃ p ∈ q :: qs, p.Matches dst protocol port := by
  constructor
  · intro h
    refine ⟨?_, h.ports.resolve_left (List.cons_ne_nil q qs)⟩
    obtain ⟨p, hp, hm⟩ := h.peers.resolve_left (List.cons_ne_nil peer [])
    rw [List.mem_singleton.mp hp] at hm
    exact hm
  · rintro ⟨hpeer, hport⟩
    exact ⟨Or.inr ⟨peer, List.mem_singleton.mpr rfl, hpeer⟩, Or.inr hport⟩

end EnvoyGatewayExtension.Kubernetes
