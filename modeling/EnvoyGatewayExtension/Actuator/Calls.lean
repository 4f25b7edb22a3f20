import EnvoyGatewayExtension.Actuator.GatewayGuard
import EnvoyGatewayExtension.EnvoyGateway.Deployer
import EnvoyGatewayExtension.EnvoyGateway.Policies

namespace EnvoyGatewayExtension.Actuator

open Effects Kubernetes EnvoyGateway Stores

structure Cluster where
  shoot : Option Shoot
  genericTokenKubeconfigSecretName : String := "generic-token-kubeconfig"
  deriving DecidableEq, Repr

inductive InfraKind
  | service
  | deployment
  | serviceAccount
  | configMap
  | podDisruptionBudget
  | horizontalPodAutoscaler
  deriving DecidableEq, Repr

structure InfraObject where
  kind : InfraKind
  key : NamespacedName
  labels : Labels
  deriving DecidableEq

inductive Call
  | getCluster
  | newClientForShoot
  | listGateways
  | deleteGateway (k : NamespacedName)
  | getGatewayClass (name : String)
  | removeFinalizers (name finalizer : String)
  | listInfra (kind : InfraKind) (ns key value : String)
  | deleteInfra (kind : InfraKind) (k : NamespacedName)
  | listPolicies
  | deletePolicy (k : NamespacedName)
  | reconcileAccessSecret (name serviceAccount : String)
  | deleteSecret (name : String)
  | getDeployment
  | createDeployment (d : Deployment)
  | updateDeployment (d : Deployment)
  | patchReplicas (n : Int32)
  | deleteDeployment
  | newSecretsManager (configs : List SecretConfigWithOptions)
  | generateAllSecrets (configs : List SecretConfigWithOptions)
  | cleanupSecrets (configs : List SecretConfigWithOptions)
  | createForShoot (keepObjects : Bool) (manifests : List Manifest)
  | setKeepObjects (keepObjects : Bool)
  | deleteManagedResource
  | waitUntilDeleted

@[reducible] def Call.Result : Call → Type
  | getCluster => Cluster
  | listGateways => List Gateway
  | listInfra _ _ _ _ => List InfraObject
  | listPolicies => List NetworkPolicy
  | getDeployment => Deployment
  | generateAllSecrets _ => Store String Data
  | _ => Unit

def Call.reads : Call → Bool
  | getCluster => true
  | newClientForShoot => true
  | listGateways => true
  | getGatewayClass _ => true
  | listInfra _ _ _ _ => true
  | listPolicies => true
  | getDeployment => true
  | _ => false

abbrev clusters : Interface where
  Call := Call
  Result := Call.Result

abbrev Op (α : Type) : Type := Prog clusters GoError α

def send (c : Call) : Op c.Result := Prog.request (I := clusters) c

structure ManagedResource where
  keepObjects : Bool
  terminating : Bool := false
  manifests : List Manifest
  /-- What the resource-manager has applied last. -/
  applied : List Manifest := []
  deriving DecidableEq

/-- The newest CA of the secrets-manager, and the one a rotation still keeps beside it. -/
structure CAState where
  newest : ℕ
  old : Option ℕ := none
  old_lt : ∀ n, old = some n → n < newest := by simp

def CAState.first : CAState := { newest := 0 }

structure World where
  cluster : Option Cluster
  managedResource : Option ManagedResource := none
  deployment : Option Deployment := none
  /-- Shoot-access secrets of the control-plane namespace with their service accounts. -/
  secrets : Store String String := ∅
  ca : CAState := .first
  objects : Store ObjectKey Manifest := ∅
  gateways : List Gateway := []
  gatewayClassFinalizers : Option (List String) := none
  infra : Store (InfraKind × NamespacedName) Labels := ∅
  policies : Store NamespacedName NetworkPolicy := ∅

abbrev Generator : Type :=
  CAState → List SecretConfigWithOptions → Except GoError (Store String Data)

namespace World

def infraObjects (w : World) : List InfraObject := w.infra.items.map fun e => ⟨e.1.1, e.1.2, e.2⟩

lemma mem_infraObjects {w : World} {o : InfraObject} :
    o ∈ w.infraObjects ↔ w.infra.lookup (o.kind, o.key) = some o.labels := by
  rw [infraObjects, List.mem_map]
  constructor
  · rintro ⟨⟨⟨kind, k⟩, labels⟩, hm, rfl⟩
    exact Store.mem_items.mp hm
  · intro h
    exact ⟨((o.kind, o.key), o.labels), Store.mem_items.mpr h, rfl⟩

def removeObjects (w : World) (keys : List ObjectKey) : World :=
  { w with
    objects := keys.foldl (fun o k => o.erase k) w.objects
    gateways := if gatewayCRDKey ∈ keys then [] else w.gateways }

def keepObjectAnnotation : String := "resources.gardener.cloud/keep-object"

def keepObject (m : Manifest) : Bool := m.annotations.lookup keepObjectAnnotation == some "true"

def dropped (mr : ManagedResource) : List ObjectKey :=
  (mr.applied.filter fun m => !keepObject m && !(mr.manifests.map Manifest.key).contains m.key).map
    Manifest.key

/-- The resource-manager applies a ManagedResource: what it lists no longer is deleted, unless it
keeps its objects. -/
def apply (w : World) : World :=
  match w.managedResource with
  | none => w
  | some mr =>
    if mr.terminating then w
    else
      let w := if mr.keepObjects then w else w.removeObjects (dropped mr)
      { w with
        objects := mr.manifests.foldl (fun o m => o.insert m.key m) w.objects
        managedResource := some { mr with applied := mr.manifests } }

def collect (w : World) (mr : ManagedResource) : World :=
  { (if mr.keepObjects then w
    else w.removeObjects (mr.applied.map Manifest.key)) with managedResource := none }

def perform (generate : Generator) (w : World) : (c : Call) → Except GoError c.Result × World
  | .getCluster =>
    match w.cluster with
    | some cluster => (.ok cluster, w)
    | none => (.error notFound, w)
  | .newClientForShoot => (.ok (), w)
  | .listGateways =>
    if (w.objects.lookup gatewayCRDKey).isSome then (.ok w.gateways, w)
    else (.error (.noKindMatch "no matches for kind"), w)
  | .deleteGateway k =>
    if w.gateways.any (fun g => g.key == k) then
      (.ok (), { w with gateways := w.gateways.filter (fun g => g.key != k) })
    else (.error notFound, w)
  | .getGatewayClass _ => (if w.gatewayClassFinalizers.isSome then .ok () else .error notFound, w)
  | .removeFinalizers _ finalizer =>
    (.ok (),
      { w with gatewayClassFinalizers := w.gatewayClassFinalizers.map (·.filter (· ≠ finalizer)) })
  | .listInfra kind ns key value =>
    (.ok (w.infraObjects.filter fun o => o.kind == kind && o.key.namespace == ns && o.labels.lookup
      key == some value), w)
  | .deleteInfra kind k =>
    if (w.infra.lookup (kind, k)).isSome then (.ok (), { w with infra := w.infra.erase (kind, k) })
    else (.error notFound, w)
  | .listPolicies =>
    (.ok ((w.policies.items.map Prod.snd).filter fun np => managedDataPlanePolicy np.labels), w)
  | .deletePolicy k =>
    if (w.policies.lookup k).isSome then (.ok (), { w with policies := w.policies.erase k })
    else (.error notFound, w)
  | .reconcileAccessSecret name account =>
    (.ok (), { w with secrets := w.secrets.insert name account })
  | .deleteSecret name =>
    if (w.secrets.lookup name).isSome then (.ok (), { w with secrets := w.secrets.erase name })
    else (.error notFound, w)
  | .getDeployment =>
    match w.deployment with
    | some d => (.ok d, w)
    | none => (.error notFound, w)
  | .createDeployment d =>
    match w.deployment with
    | some _ => (.error (.status .alreadyExists "already exists"), w)
    | none => (.ok (), { w with deployment := some d })
  | .updateDeployment d =>
    match w.deployment with
    | some _ => (.ok (), { w with deployment := some d })
    | none => (.error notFound, w)
  | .patchReplicas n =>
    match w.deployment with
    | some d =>
      (.ok (), { w with deployment := some { d with spec := { d.spec with replicas := some n } } })
    | none => (.error notFound, w)
  | .deleteDeployment =>
    match w.deployment with
    | some _ => (.ok (), { w with deployment := none })
    | none => (.error notFound, w)
  | .newSecretsManager _ => (.ok (), w)
  | .generateAllSecrets configs => (generate w.ca configs, w)
  | .cleanupSecrets _ => (.ok (), w)
  | .createForShoot keepObjects manifests =>
    match w.managedResource with
    | some mr => (.ok (), { w with managedResource := some { mr with keepObjects, manifests } })
    | none => (.ok (), { w with managedResource := some { keepObjects, manifests } })
  | .setKeepObjects keepObjects =>
    match w.managedResource with
    | some mr => (.ok (), { w with managedResource := some { mr with keepObjects } })
    | none => (.error notFound, w)
  | .deleteManagedResource =>
    (.ok (), { w with managedResource := w.managedResource.map ({ · with terminating := true }) })
  | .waitUntilDeleted =>
    match w.managedResource with
    | none => (.ok (), w)
    | some mr =>
      if mr.terminating then (.ok (), w.collect mr)
      else (.error (.contextDone "context deadline exceeded"), w)

end World

/-- A call is answered, or fails with or without having taken effect. -/
inductive Answers (generate : Generator) (w : World) (c : Call) :
    Except GoError c.Result → World → Prop
  | done : Answers generate w c (w.perform generate c).1 (w.perform generate c).2
  | refused {e} : e.transient = true → Answers generate w c (.error e) w
  | lost {e} : e.transient = true → Answers generate w c (.error e) (w.perform generate c).2

def answers (generate : Generator) : Handler clusters GoError World :=
  fun w c r w' => Answers generate w c r w'

lemma Answers.keeps {generate : Generator} {w w' : World} {c : Call} {r : Except GoError c.Result}
    {J : World → Prop} (h : Answers generate w c r w') (hw : J w)
    (hd : J (w.perform generate c).2) : J w' := by
  cases h with
  | done => exact hd
  | refused => exact hw
  | lost => exact hd

lemma perform_fixed (generate : Generator) (w : World) (c : Call) :
    (w.perform generate c).2.cluster = w.cluster ∧ (w.perform generate c).2.ca = w.ca := by
  cases c with
  | waitUntilDeleted =>
    simp only [World.perform, World.collect, World.removeObjects]
    split
    · exact ⟨rfl, rfl⟩
    · split_ifs <;> exact ⟨rfl, rfl⟩
  | _ => first | exact ⟨rfl, rfl⟩ | (simp only [World.perform]; split <;> exact ⟨rfl, rfl⟩)

lemma perform_reads (generate : Generator) (w : World) {c : Call} (hc : c.reads = true) :
    (w.perform generate c).2 = w := by
  cases c <;> cases hc
  all_goals simp only [World.perform]
  all_goals split <;> rfl

lemma Answers.reads {generate : Generator} {w w' : World} {c : Call} {r : Except GoError c.Result}
    (h : Answers generate w c r w') (hc : c.reads = true) : w' = w :=
  h.keeps (J := fun t => t = w) rfl (perform_reads generate w hc)

end EnvoyGatewayExtension.Actuator
