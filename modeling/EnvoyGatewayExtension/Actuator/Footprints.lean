import EnvoyGatewayExtension.Actuator.Operations
import EnvoyGatewayExtension.Effects.Triples

namespace EnvoyGatewayExtension.Actuator

open Effects Kubernetes EnvoyGateway Prog

variable {P : Call → Prop}

lemma uses_send {c : Call} (hc : P c) : (send c).Uses P := (uses_request (I := clusters) c).mpr hc

lemma uses_fetch (hn : P .newClientForShoot) (hl : P .listGateways) :
    (fetchGatewayList connection.newClientForShoot connection.listGateways).Uses P := by
  refine uses_bind (uses_wrapped (uses_send hn)) fun _ => uses_bind (uses_attempt (uses_send hl)) ?_
  intro r
  cases r with
  | error err =>
    dsimp only
    split <;> trivial
  | ok items => trivial

lemma uses_wait (hn : P .newClientForShoot) (hl : P .listGateways) (more : ℕ) :
    (waitUntilGatewaysDeleted connection.newClientForShoot connection.listGateways more).Uses
      P := by
  refine uses_bind (uses_pollUntilContextCancel ?_ more none) fun _ => uses_ofExcept _
  intro lastErr
  refine uses_bind (uses_attempt (uses_fetch hn hl)) ?_
  intro r
  cases r <;> trivial

lemma uses_clearGatewayClassFinalizer (hn : P .newClientForShoot)
    (hg : ∀ name, P (.getGatewayClass name)) (hr : ∀ name f, P (.removeFinalizers name f)) :
    (clearGatewayClassFinalizer connection).Uses P := by
  refine uses_bind (uses_wrapped (uses_send hn)) fun _ =>
    uses_bind (uses_attempt (uses_send (hg _))) ?_
  intro r
  cases r with
  | error err =>
    dsimp only
    split <;> trivial
  | ok u => exact uses_wrapped (uses_send (hr _ _))

lemma uses_deleteGateways (hn : P .newClientForShoot) (hl : P .listGateways)
    (hd : ∀ k, P (.deleteGateway k)) : (deleteGateways connection).Uses P := by
  refine uses_bind (uses_wrapped (uses_send hn)) fun _ => uses_bind (uses_wrapped (uses_send hl)) ?_
  intro items
  refine uses_forM items fun gw _ => ?_
  split
  · trivial
  · exact uses_wrapped (uses_ignoreNotFound (uses_send (hd _)))

structure Drains (P : Call → Prop) : Prop where
  client : P .newClientForShoot
  list : P .listGateways
  delete : ∀ k, P (.deleteGateway k)
  getClass : ∀ name, P (.getGatewayClass name)
  finalizers : ∀ name f, P (.removeFinalizers name f)

lemma uses_drain (h : Drains P) (ex : Invocation) :
    (drainUserGatewaysForShootDeletion (lister ex)).Uses P := by
  have hclear : (clearGatewayClassFinalizer connection).Uses P :=
    uses_clearGatewayClassFinalizer h.client h.getClass h.finalizers
  have hlist : (listGateways connection).Uses P := uses_bind (uses_fetch h.client h.list)
    fun _ => trivial
  refine uses_bind (uses_attempt hlist) fun _ =>
    uses_bind (uses_attempt (uses_deleteGateways h.client h.list h.delete)) fun _ =>
    uses_bind (uses_attempt (uses_wait h.client h.list ex.morePolls)) fun waited => ?_
  cases waited with
  | ok u => exact uses_bind (uses_attempt hclear) fun _ => trivial
  | error err =>
    rw [finishDrain]
    split
    · trivial
    · exact uses_bind (uses_attempt hclear) fun _ => trivial

lemma uses_teardown (hd : P .deleteDeployment) (hs : P (.deleteSecret netpolAccessSecretName))
    (ns : String) : (teardown ns).Uses P :=
  uses_bind (uses_wrapped (uses_ignoreNotFound (uses_send hd)))
    fun _ => uses_wrapped (uses_ignoreNotFound (uses_send hs))

lemma uses_prune (hn : P .newClientForShoot) (hl : P .listPolicies)
    (hd : ∀ k, P (.deletePolicy k)) : pruneDataPlanePolicies.Uses P := by
  refine uses_bind (uses_wrapped (uses_send hn)) fun _ => uses_bind (uses_wrapped (uses_send hl)) ?_
  intro items
  exact uses_forM items fun np _ => uses_wrapped (uses_ignoreNotFound (uses_send (hd _)))

lemma uses_sweepObject (o : InfraObject) (hd : P (.deleteInfra o.kind o.key)) :
    (sweepObject o).Uses P := by
  unfold sweepObject
  split
  · exact uses_wrapped (uses_ignoreNotFound (uses_send hd))
  · trivial

lemma uses_sweep (hn : P .newClientForShoot) (hl : ∀ kind ns k v, P (.listInfra kind ns k v))
    (hd : ∀ kind k, P (.deleteInfra kind k)) : sweep.Uses P := by
  refine uses_bind (uses_wrapped (uses_send hn)) fun _ => uses_forM sweptKinds fun kind _ => ?_
  refine uses_bind (uses_wrapped (uses_send (hl _ _ _ _))) fun objs => ?_
  exact uses_forM objs fun o _ => uses_sweepObject o (hd _ _)

lemma uses_reconcileSecrets (hn : ∀ cs, P (.newSecretsManager cs))
    (hg : ∀ cs, P (.generateAllSecrets cs))
    (hc : ∀ cs, P (.cleanupSecrets cs)) (name : String) : (reconcileSecrets name).Uses P :=
  uses_bind (uses_wrapped (uses_send (hn _))) fun _ =>
    uses_bind (uses_wrapped (uses_send (hg _))) fun _ =>
    uses_bind (uses_ofExcept _) fun _ => uses_bind (uses_wrapped (uses_send (hc _)))
      fun _ => trivial

lemma uses_deploy (hc : ∀ b ms, P (.createForShoot b ms)) (lib : Libraries) (config : Config)
    (tls : TLSBundle) : (deploy lib config tls).Uses P :=
  uses_bind (uses_ofExcept _) fun _ => uses_wrapped (uses_send (hc _ _))

lemma uses_ensure (hr : ∀ name sa, P (.reconcileAccessSecret name sa)) (hg : P .getDeployment)
    (hc : ∀ d, P (.createDeployment d)) (hu : ∀ d, P (.updateDeployment d)) (lib : Libraries)
    (cluster : Cluster) (ns : String) : (ensure lib cluster ns).Uses P :=
  uses_bind (uses_wrapped (uses_send (hr _ _))) fun _ => uses_bind (uses_ofExcept _) fun _ =>
    uses_wrapped (uses_createOrUpdate (uses_send hg) (uses_send (hc _)) fun _ => uses_send (hu _))

lemma uses_netpolController {lib : Libraries} {ex : Invocation}
    (hr : ∀ name sa, P (.reconcileAccessSecret name sa))
    (hg : P .getDeployment) (hc : ∀ d, P (.createDeployment d)) (hu : ∀ d, P (.updateDeployment d))
    (hd : P .deleteDeployment) (hs : P (.deleteSecret netpolAccessSecretName))
    (hn : P .newClientForShoot)
    (hl : P .listPolicies) (hp : ∀ k, P (.deletePolicy k)) (cluster : Cluster) (enabled : Bool) :
    (reconcileNetpolController lib ex cluster enabled).Uses P := by
  unfold reconcileNetpolController
  split
  · exact uses_wrapped (uses_ensure hr hg hc hu lib cluster _)
  · exact uses_bind (uses_wrapped (uses_teardown hd hs _)) fun _ =>
      uses_wrapped (uses_prune hn hl hp)

lemma uses_scaleDown (hg : P .getDeployment) (hp : ∀ n, P (.patchReplicas n)) :
    scaleDown.Uses P := by
  refine uses_bind (uses_attempt (uses_send hg)) ?_
  intro r
  cases r with
  | error err =>
    dsimp only
    split <;> trivial
  | ok d => exact uses_wrapped (uses_send (hp _))

lemma uses_deleteManagedResource (hd : P .deleteManagedResource) (hw : P .waitUntilDeleted) :
    deleteManagedResource.Uses P :=
  uses_bind (uses_wrapped (uses_send hd)) fun _ => uses_wrapped (uses_send hw)

lemma uses_deleteSecrets (hn : ∀ cs, P (.newSecretsManager cs))
    (hc : ∀ cs, P (.cleanupSecrets cs)) : deleteSecrets.Uses P :=
  uses_bind (uses_wrapped (uses_send (hn _))) fun _ => uses_send (hc _)

lemma uses_removeResources (hd : P .deleteManagedResource) (hw : P .waitUntilDeleted)
    (hn : ∀ cs, P (.newSecretsManager cs)) (hc : ∀ cs, P (.cleanupSecrets cs)) (cluster : Cluster) :
    (removeResources cluster).Uses P := by
  refine uses_bind (uses_wrapped (uses_deleteManagedResource hd hw)) fun _ => ?_
  cases cluster.shoot with
  | none => trivial
  | some _ => exact uses_wrapped (uses_deleteSecrets hn hc)

lemma uses_deleteKeepingObjects (hk : P (.setKeepObjects true)) (hd : P .deleteManagedResource)
    (hw : P .waitUntilDeleted) : deleteKeepingObjects.Uses P :=
  uses_bind (uses_wrapped (uses_ignoreNotFound (uses_send hk))) fun _ =>
    uses_deleteManagedResource hd hw

section Operations

variable {lib : Libraries} {ex : Invocation}

lemma uses_checkNoUserGateways (h : Drains P) (shoot : Option Shoot) :
    (checkNoUserGateways (lister ex) shoot).Uses P := by
  unfold checkNoUserGateways
  split
  · exact uses_drain h ex
  · refine uses_bind (uses_wrapped (uses_bind (uses_fetch h.client h.list) fun _ => trivial)) ?_
    intro names
    split <;> trivial

structure Removes (P : Call → Prop) : Prop extends Drains P where
  cluster : P .getCluster
  deployment : P .deleteDeployment
  secret : P (.deleteSecret netpolAccessSecretName)
  policies : P .listPolicies
  policy : ∀ k, P (.deletePolicy k)
  managedResource : P .deleteManagedResource
  wait : P .waitUntilDeleted
  manager : ∀ cs, P (.newSecretsManager cs)
  cleanup : ∀ cs, P (.cleanupSecrets cs)

lemma uses_delete (h : Removes P) : (delete ex).Uses P := by
  refine uses_bind (uses_wrapped (uses_send h.cluster)) fun cluster => ?_
  refine uses_bind (uses_checkNoUserGateways h.toDrains cluster.shoot) fun _ => ?_
  refine uses_bind (uses_wrapped (uses_teardown h.deployment h.secret _)) fun _ => ?_
  have hrest : (removeResources cluster).Uses P :=
    uses_removeResources h.managedResource h.wait h.manager h.cleanup cluster
  split
  · exact uses_bind (uses_wrapped (uses_prune h.client h.policies h.policy)) fun _ => hrest
  · exact hrest

lemma uses_keeping (h : Removes P) (hk : P (.setKeepObjects true)) {msg msg' : String} :
    (wrapped msg (teardown ex.clusterName) >>= fun _ => wrapped msg' deleteKeepingObjects).Uses P :=
  uses_bind (uses_wrapped (uses_teardown h.deployment h.secret _))
    fun _ => uses_wrapped (uses_deleteKeepingObjects hk h.managedResource h.wait)

/-- The calls of a Reconcile around the sweep and the policy controller. -/
structure Reconciles (P : Call → Prop) : Prop extends Drains P where
  cluster : P .getCluster
  deployment : P .getDeployment
  replicas : ∀ n, P (.patchReplicas n)
  manager : ∀ cs, P (.newSecretsManager cs)
  generate : ∀ cs, P (.generateAllSecrets cs)
  cleanup : ∀ cs, P (.cleanupSecrets cs)
  create : ∀ keepObjects ms, P (.createForShoot keepObjects ms)

lemma ensures_reconcile_keeps {h : Handler clusters GoError World}
    {J : Answered clusters GoError World → Prop} {K : World → Prop} {w : World} (hP : Reconciles P)
    (hcalls : ∀ {α : Type} {p : Op α}, p.Uses P → ∀ s, K s → Ensures h J p (fun _ t => K t) s)
    (hsweep : ∀ s, K s → Ensures h J sweep (fun _ t => K t) s)
    (hnetpol : ∀ cluster enabled s, K s →
      Ensures h J (reconcileNetpolController lib ex cluster enabled) (fun _ t => K t) s)
    (hw : K w) : Ensures h J (reconcile lib ex) (fun _ t => K t) w := by
  refine Ensures.bind (hcalls (uses_wrapped (uses_send hP.cluster)) w hw) (fun cluster s hs => ?_)
    fun _ _ ht => ht
  cases cluster.shoot with
  | none => exact hs
  | some shoot =>
    dsimp only
    split_ifs
    · exact hcalls (uses_drain hP.toDrains ex) s hs
    · exact hcalls (uses_wrapped (uses_scaleDown hP.deployment hP.replicas)) s hs
    · refine Ensures.bind (hcalls (uses_ofExcept _) s hs) (fun config s hs => ?_) fun _ _ ht => ht
      refine Ensures.bind (hcalls (uses_wrapped (uses_reconcileSecrets hP.manager hP.generate
        hP.cleanup _)) s hs) (fun tls s hs => ?_) fun _ _ ht => ht
      refine Ensures.bind (hcalls (uses_wrapped (uses_deploy hP.create lib config tls)) s hs)
        (fun _ s hs => ?_) fun _ _ ht => ht
      exact Ensures.bind (P := fun _ t => K t) (Ensures.attempt_iff.mpr (hsweep s hs))
        (fun _ s hs => hnetpol cluster _ s hs) fun _ _ ht => ht

end Operations

end EnvoyGatewayExtension.Actuator
