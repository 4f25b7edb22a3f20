import EnvoyGatewayExtension.Actuator.Declarative
import EnvoyGatewayExtension.Effects.Completion

namespace EnvoyGatewayExtension.Actuator

open Effects Kubernetes EnvoyGateway Stores

variable {lib : Libraries} {generate : Generator} {ex : Invocation} {cluster : Cluster}
  {shoot : Shoot} {w u : World}

abbrev Succeeds {α : Type} (generate : Generator) (p : Op α) (w : World) : Prop :=
  Completes (World.perform generate) p (fun _ _ => True) w

section Calls

variable {msg : String}

lemma succeeds_send {c : Call} {a : c.Result} (hc : (w.perform generate c).1 = .ok a) :
    Succeeds generate (send c) w :=
  Completes.request hc trivial

def Call.lacks : Call → Bool
  | deleteDeployment => true
  | deleteSecret _ => true
  | deletePolicy _ => true
  | setKeepObjects _ => true
  | _ => false

lemma notFound_of_lacks {c : Call} {e : GoError} (hc : c.lacks = true)
    (he : (w.perform generate c).1 = .error e) : e.isNotFound = true := by
  cases c <;> cases hc
  all_goals
    simp only [World.perform] at he
    split at he <;> cases he
    rfl

lemma succeeds_ignoreNotFound {p : Op Unit} {x : Except GoError Unit × World}
    (hx : serve (World.perform generate) p w = x) (hp : ∀ e, x.1 = .error e → e.isNotFound = true) :
    Succeeds generate (wrapped msg (ignoreNotFound p)) w := by
  refine Completes.mapFault (Completes.attempt_bind ?_)
  rw [hx]
  cases hout : x.1 with
  | ok _ => exact Completes.ret trivial
  | error e =>
    dsimp only
    rw [if_pos (hp e hout)]
    exact Completes.ret trivial

end Calls

section Parts

lemma succeeds_teardown (seedNamespace : String) : Succeeds generate (teardown seedNamespace) w :=
  Completes.bind
    (succeeds_ignoreNotFound (serve_request _ _) fun _ he =>
      notFound_of_lacks (c := .deleteDeployment) rfl he)
    fun _ _ _ => succeeds_ignoreNotFound (serve_request _ _)
      fun _ he => notFound_of_lacks (c := .deleteSecret netpolAccessSecretName) rfl he

lemma succeeds_prune : Succeeds generate pruneDataPlanePolicies w := by
  refine Completes.bind (Completes.mapFault (succeeds_send rfl)) fun _ t _ => ?_
  refine Completes.bind (Completes.mapFault (succeeds_send rfl)) fun items t _ => ?_
  exact Completes.forM (fun np _ => succeeds_ignoreNotFound (serve_request _ _)
    fun _ he => notFound_of_lacks (c := .deletePolicy np.key) rfl he) items

lemma succeeds_scaleDown : Succeeds generate scaleDown w := by
  refine Completes.attempt_bind ?_
  rw [send, serve_request]
  simp only [World.perform]
  cases hd : w.deployment with
  | none => exact Completes.ret trivial
  | some d =>
    refine Completes.mapFault (succeeds_send (a := ()) ?_)
    simp only [World.perform, hd]

lemma succeeds_createOrUpdate {empty : Deployment} {mutate : Deployment → Deployment} :
    Succeeds generate (createOrUpdate (send .getDeployment) (fun d => send (.createDeployment d))
      (fun d => send (.updateDeployment d)) empty mutate) w := by
  refine Completes.attempt_bind ?_
  rw [send, serve_request]
  simp only [World.perform]
  cases hd : w.deployment with
  | none =>
    refine succeeds_send (c := .createDeployment (mutate empty)) (a := ()) ?_
    simp only [World.perform, hd]
  | some d =>
    dsimp only
    split_ifs
    · exact Completes.ret trivial
    · refine succeeds_send (c := .updateDeployment (mutate d)) (a := ()) ?_
      simp only [World.perform, hd]

lemma succeeds_ensure {desired : Deployment}
    (hd : injectedDeployment lib cluster ex.clusterName = .ok desired) :
    Succeeds generate (ensure lib cluster ex.clusterName) w :=
  Completes.bind (Completes.mapFault (succeeds_send rfl)) fun _ _ _ =>
    Completes.ofExcept_bind hd (Completes.mapFault succeeds_createOrUpdate)

lemma completes_reconcileSecrets {tls : TLSBundle} (h : bundled generate ex w.ca = .ok tls) :
    Completes (World.perform generate) (reconcileSecrets ex.clusterName)
      (fun bundle _ => bundle = tls) w := by
  obtain ⟨generated, hgenerated, hbundle⟩ := bind_eq_ok.mp h
  refine Completes.bind (Q := fun _ t => t = w) (Completes.mapFault (Completes.request rfl rfl)) ?_
  rintro _ _ rfl
  refine Completes.bind (Q := fun g _ => g = generated)
    (Completes.mapFault (Completes.request hgenerated rfl)) ?_
  rintro _ _ rfl
  refine Completes.ofExcept_bind hbundle ?_
  exact Completes.bind (Completes.mapFault (succeeds_send rfl)) fun _ _ _ => Completes.ret rfl

lemma succeeds_deploy {config : Config} {tls : TLSBundle} {r : Resources}
    (h : buildResources lib config tls = .ok r) : Succeeds generate (deploy lib config tls) w := by
  refine Completes.ofExcept_bind (mapError_eq_ok.mpr h)
    (Completes.mapFault (succeeds_send (a := ()) ?_))
  simp only [World.perform]
  split <;> rfl

lemma succeeds_netpolController {enabled : Bool}
    (h : (netpolPlan lib ex cluster enabled).isSome = true) :
    Succeeds generate (reconcileNetpolController lib ex cluster enabled) w := by
  rw [reconcileNetpolController]
  split_ifs with henabled
  · rw [netpolPlan, if_pos henabled, Option.isSome_map] at h
    obtain ⟨desired, hd⟩ := Option.isSome_iff_exists.mp h
    exact Completes.mapFault (succeeds_ensure (toOption_eq_some hd))
  · exact Completes.bind (Completes.mapFault (succeeds_teardown _)) fun _ _ _ =>
      Completes.mapFault succeeds_prune

lemma succeeds_reconcileAwake (h : (awakePlan lib generate ex cluster shoot w.ca).isSome = true) :
    Succeeds generate (reconcileAwake lib ex cluster shoot) w := by
  obtain ⟨f, hf⟩ := Option.isSome_iff_exists.mp h
  obtain ⟨config, tls, resources, g, hconfig, htls, hresources, hg, _⟩ := awakePlan_parts hf
  refine Completes.ofExcept_bind hconfig
    (Completes.bind (Completes.mapFault (completes_reconcileSecrets htls)) ?_)
  rintro _ _ rfl
  refine Completes.bind (Completes.mapFault (succeeds_deploy hresources)) fun _ _ _ =>
    Completes.attempt_bind ?_
  exact succeeds_netpolController (Option.isSome_iff_exists.mpr ⟨g, hg⟩)

end Parts

section Guard

lemma live_of_not_beingDeleted (hc : w.cluster = some cluster) (hlive : ¬ BeingDeleted w) :
    cluster.shoot.any (·.deletionTimestamp) = false := by
  rw [BeingDeleted, shootOf, hc] at hlive
  exact Bool.eq_false_iff.mpr hlive

lemma serve_getCluster (hc : w.cluster = some cluster) :
    serve (World.perform generate) (wrapped "failed to get cluster" (send .getCluster)) w =
      (.ok cluster, w) := by
  rw [wrapped, serve_mapFault, send, serve_request]
  simp only [World.perform, hc]
  rfl

end Guard

section Operations

lemma succeeds_reconcile (hlive : ¬ BeingDeleted w)
    (h : (reconcilePlan lib generate ex w).isSome = true) :
    Succeeds generate (reconcile lib ex) w := by
  obtain ⟨f, hf⟩ := Option.isSome_iff_exists.mp h
  obtain ⟨cluster, hc, hf⟩ := Option.bind_eq_some_iff.mp hf
  obtain ⟨shoot, hs, hf⟩ := Option.bind_eq_some_iff.mp hf
  have halive := live_of_not_beingDeleted hc hlive
  rw [hs, Option.any_some] at halive
  refine Completes.served_bind (serve_getCluster hc) ?_
  rw [hs]
  dsimp only
  rw [if_neg (Bool.eq_false_iff.mp halive)]
  split_ifs at hf ⊢
  · exact Completes.mapFault succeeds_scaleDown
  · exact succeeds_reconcileAwake (Option.isSome_iff_exists.mpr ⟨f, hf⟩)

end Operations

end EnvoyGatewayExtension.Actuator
