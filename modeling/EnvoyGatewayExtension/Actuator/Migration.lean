import EnvoyGatewayExtension.Actuator.Custody
import EnvoyGatewayExtension.Actuator.Retries

/-! The migration of a shoot's control plane from one seed to another: Migrate on the source,
retried until it succeeds, then Restore on the target, with the resource-managers of both at
work. -/

namespace EnvoyGatewayExtension.Actuator

open Effects Kubernetes EnvoyGateway Stores World Relation

variable {lib : Libraries} {generate : Generator} {w w' : World} {ex : Invocation}

section Landscape

structure SeedSide where
  cluster : Option Cluster
  managedResource : Option ManagedResource
  deployment : Option Deployment
  secrets : Store String String
  ca : CAState

structure ShootSide where
  objects : Store ObjectKey Manifest
  gateways : List Gateway
  gatewayClassFinalizers : Option (List String)
  infra : Store (InfraKind × NamespacedName) Labels
  policies : Store NamespacedName NetworkPolicy

def World.shootSide (w : World) : ShootSide :=
  ⟨w.objects, w.gateways, w.gatewayClassFinalizers, w.infra, w.policies⟩

def SeedSide.world (seed : SeedSide) (shoot : ShootSide) : World where
  cluster := seed.cluster
  managedResource := seed.managedResource
  deployment := seed.deployment
  secrets := seed.secrets
  ca := seed.ca
  objects := shoot.objects
  gateways := shoot.gateways
  gatewayClassFinalizers := shoot.gatewayClassFinalizers
  infra := shoot.infra
  policies := shoot.policies

end Landscape

section Kept

structure Kept (s t : ShootSide) : Prop where
  objects : ∀ k, (s.objects.lookup k).isSome = true → (t.objects.lookup k).isSome = true
  gateways : ∀ g ∈ s.gateways, g ∈ t.gateways

variable {s t u : ShootSide} {mr : ManagedResource}

lemma Kept.refl (s : ShootSide) : Kept s s := ⟨fun _ h => h, fun _ h => h⟩

lemma Kept.trans (h : Kept s t) (h' : Kept t u) : Kept s u :=
  ⟨fun k hk => h'.objects k (h.objects k hk), fun g hg => h'.gateways g (h.gateways g hg)⟩

end Kept

section Source

lemma Untouched.disabled (h : Untouched w w') (hd : Disabled w) : Disabled w' := by
  refine ⟨h.1.trans hd.1, ?_⟩
  rw [accessSecret, h.2]
  exact hd.2

end Source

section Target

variable {cl : Option Cluster} {ca : CAState} {ms : List Manifest}

def Rendering (lib : Libraries) (generate : Generator) (ex : Invocation) (cl : Option Cluster)
    (ca : CAState) (ms : List Manifest) : Prop :=
  ∃ cluster shoot config tls resources, cl = some cluster ∧ cluster.shoot = some shoot ∧
    readConfig lib shoot.kubernetesVersion ex.providerConfig = .ok config ∧
    bundled generate ex ca = .ok tls ∧
    buildResources lib config tls = .ok resources ∧ ms = manifestsOf resources

structure Arriving (lib : Libraries) (generate : Generator) (ex : Invocation) (cl : Option Cluster)
    (ca : CAState) (w : World) : Prop where
  found : w.cluster = cl
  issued : w.ca = ca
  live : ∀ mr, w.managedResource = some mr → mr.terminating = false
  rendered : ∀ mr, w.managedResource = some mr → Rendering lib generate ex cl ca mr.manifests
  applied : ∀ mr, w.managedResource = some mr → mr.applied = [] ∨ mr.applied = mr.manifests
  present : ∀ mr, w.managedResource = some mr → ∀ m ∈ mr.applied,
    (w.objects.lookup m.key).isSome = true

end Target

section DataPlane

/-- Of the data plane only what the sweep and the prune of the policies look for has gone. -/
structure OnlySwept (s t : ShootSide) : Prop where
  infra : ∀ kind k labels, s.infra.lookup (kind, k) = some labels → ¬ Target ⟨kind, k, labels⟩ →
    t.infra.lookup (kind, k) = some labels
  policies : ∀ k np, s.policies.lookup k = some np → managedDataPlanePolicy np.labels = false →
    t.policies.lookup k = some np
  keyed : ∀ k np, t.policies.lookup k = some np → np.key = k

variable {s t : ShootSide} {α : Type} {p : Op α}

lemma OnlySwept.congr (h : OnlySwept s w.shootSide) (hi : w'.infra = w.infra)
    (hp : w'.policies = w.policies) : OnlySwept s w'.shootSide := by
  obtain ⟨hinfra, hpolicies, hkeyed⟩ := h
  constructor
  · change ∀ kind k labels, _ → _ → w'.infra.lookup (kind, k) = some labels
    rw [hi]
    exact hinfra
  · change ∀ k np, _ → _ → w'.policies.lookup k = some np
    rw [hp]
    exact hpolicies
  · change ∀ k np, w'.policies.lookup k = some np → _
    rw [hp]
    exact hkeyed

end DataPlane

section Protocol

variable {l₀ l l' : Landscape}

lemma Arriving.shootSide {seed : SeedSide} {s t : ShootSide} {cl : Option Cluster} {ca : CAState}
    (h : Arriving lib generate ex cl ca (seed.world s)) (hk : Kept s t) :
    Arriving lib generate ex cl ca (seed.world t) :=
  ⟨h.found, h.issued, h.live, h.rendered, h.applied, fun mr hm m hmem =>
    hk.objects _ (h.present mr hm m hmem)⟩

end Protocol

section Migrated

end Migrated

end EnvoyGatewayExtension.Actuator
