import EnvoyGatewayExtension.Actuator.Configuration
import EnvoyGatewayExtension.Actuator.ControllerPair
import EnvoyGatewayExtension.Effects.Labelled
import EnvoyGatewayExtension.Text.Occurrences

namespace EnvoyGatewayExtension.Actuator

open Effects Kubernetes EnvoyGateway Text Labelled

section Classification

inductive Reason
  | gatewaysInUse
  | invalidProviderConfig
  | secrets
  | managedResource
  | clusterLookup
  | other
  deriving DecidableEq, Repr

def Reason.label : Reason → String
  | gatewaysInUse => "gateways_in_use"
  | invalidProviderConfig => "invalid_provider_config"
  | secrets => "secrets"
  | managedResource => "managed_resource"
  | clusterLookup => "cluster_lookup"
  | other => "other"

def Reason.patterns : Reason → List String
  | invalidProviderConfig =>
    ["failed to decode envoy-gateway providerConfig", "invalid envoy-gateway log level",
      "invalid envoy-gateway channel"]
  | secrets => ["envoy-gateway TLS secrets", "envoy-gateway secrets", "secrets-manager"]
  | managedResource => ["failed to deploy envoy-gateway", "failed to delete envoy-gateway",
      "failed to force-delete envoy-gateway"]
  | clusterLookup => ["failed to get cluster"]
  | gatewaysInUse | other => []

def Mentions (msg : String) (reason : Reason) : Prop := ∃ sub ∈ reason.patterns, Contains msg sub

instance (msg : String) (reason : Reason) : Decidable (Mentions msg reason) :=
  inferInstanceAs (Decidable (∃ _ ∈ _, _))

def reasonOf (err : GoError) : Reason :=
  if err.isGatewaysInUse then .gatewaysInUse
  else if Mentions err.message .invalidProviderConfig then .invalidProviderConfig
  else if Mentions err.message .secrets then .secrets
  else if Mentions err.message .managedResource then .managedResource
  else if Mentions err.message .clusterLookup then .clusterLookup
  else .other

def classifyError : Option GoError → String
  | none => ""
  | some err => (reasonOf err).label

def Reason.earlier : Reason → List Reason
  | gatewaysInUse | invalidProviderConfig => []
  | secrets => [invalidProviderConfig]
  | managedResource => [invalidProviderConfig, secrets]
  | clusterLookup => [invalidProviderConfig, secrets, managedResource]
  | other => [invalidProviderConfig, secrets, managedResource, clusterLookup]

def Legible (reason : Reason) (err : GoError) : Prop :=
  (reason = .gatewaysInUse ∨ err.isGatewaysInUse = false) ∧ ∀ q ∈ reason.earlier,
    ¬ Mentions err.message q

lemma Reason.label_injective : Function.Injective Reason.label := by
  intro a b h
  cases a <;> cases b <;> first | rfl | exact absurd h (by decide)

def Shows (reason : Reason) (err : GoError) : Prop :=
  match reason with
  | .gatewaysInUse => err.isGatewaysInUse = true
  | .other => True
  | _ => Mentions err.message reason

lemma reasonOf_eq_iff {reason : Reason} {err : GoError} (h : Shows reason err) :
    reasonOf err = reason ↔ Legible reason err := by
  cases hin : err.isGatewaysInUse with
  | true =>
    have hr : reasonOf err = .gatewaysInUse := by simp [reasonOf, hin]
    rw [hr]
    cases reason <;> simp [Legible, Reason.earlier, hin]
  | false =>
    -- each reason is tested after the earlier ones, so only those can come before it
    have hne : reason ≠ .gatewaysInUse := by
      rintro rfl
      exact Bool.noConfusion (hin.symm.trans h)
    by_cases h₁ : Mentions err.message .invalidProviderConfig
    · have hr : reasonOf err = .invalidProviderConfig := by simp [reasonOf, hin, h₁]
      rw [hr]
      cases reason <;> simp_all [Legible, Reason.earlier]
    by_cases h₂ : Mentions err.message .secrets
    · have hr : reasonOf err = .secrets := by simp [reasonOf, hin, h₁, h₂]
      rw [hr]
      cases reason <;> simp_all [Legible, Reason.earlier, Shows]
    by_cases h₃ : Mentions err.message .managedResource
    · have hr : reasonOf err = .managedResource := by simp [reasonOf, hin, h₁, h₂, h₃]
      rw [hr]
      cases reason <;> simp_all [Legible, Reason.earlier, Shows]
    by_cases h₄ : Mentions err.message .clusterLookup
    · have hr : reasonOf err = .clusterLookup := by simp [reasonOf, hin, h₁, h₂, h₃, h₄]
      rw [hr]
      cases reason <;> simp_all [Legible, Reason.earlier, Shows]
    · have hr : reasonOf err = .other := by simp [reasonOf, hin, h₁, h₂, h₃, h₄]
      rw [hr]
      cases reason <;> simp_all [Legible, Reason.earlier, Shows]

lemma patterns_contiguous : ∀ reason : Reason, ∀ sub ∈ reason.patterns, Contiguous sub := by
  intro reason
  cases reason <;> decide +kernel

lemma mentions_wrap {msg : String} {err : GoError} {reason : Reason} :
    Mentions (GoError.wrap msg err).message reason ↔ Mentions msg reason ∨
    Mentions err.message reason := by
  have hsplit : ∀ sub ∈ reason.patterns, Contains (GoError.wrap msg err).message sub ↔
      Contains msg sub ∨ Contains err.message sub := by
    intro sub hsub
    exact contains_joined (patterns_contiguous reason sub hsub)
  constructor
  · rintro ⟨sub, hsub, hc⟩
    rcases (hsplit sub hsub).mp hc with h | h
    · exact Or.inl ⟨sub, hsub, h⟩
    · exact Or.inr ⟨sub, hsub, h⟩
  · rintro (⟨sub, hsub, hc⟩ | ⟨sub, hsub, hc⟩)
    · exact ⟨sub, hsub, (hsplit sub hsub).mpr (Or.inl hc)⟩
    · exact ⟨sub, hsub, (hsplit sub hsub).mpr (Or.inr hc)⟩

end Classification

section Steps

inductive Step
  | getCluster
  | shoot
  | drain
  | scaleDown
  | readConfig
  | reconcileSecrets
  | deploy
  | ensure
  | teardown
  | pruneDisabled
  | listGateways
  | guard
  | removePolicies
  | delete
  | deleteSecrets
  | teardownForceDelete
  | forceDelete
  | teardownMigrate
  | deleteMigrate
  deriving DecidableEq, Repr

def Step.context : Step → Option String
  | getCluster => some "failed to get cluster"
  | scaleDown => some "failed to scale down data-plane NetworkPolicy controller for hibernation"
  | reconcileSecrets => some "failed to reconcile envoy-gateway TLS secrets"
  | deploy => some "failed to deploy envoy-gateway"
  | ensure => some "failed to ensure data-plane NetworkPolicy controller"
  | teardown => some "failed to tear down data-plane NetworkPolicy controller"
  | pruneDisabled => some "failed to prune data-plane NetworkPolicies after disabling the feature"
  | listGateways => some "failed to list Gateway resources in shoot before deleting extension"
  | removePolicies => some "failed to remove data-plane NetworkPolicies"
  | delete => some "failed to delete envoy-gateway"
  | deleteSecrets => some "failed to delete envoy-gateway secrets"
  | teardownForceDelete =>
    some "failed to tear down data-plane NetworkPolicy controller during force-delete"
  | forceDelete => some "failed to force-delete envoy-gateway"
  | teardownMigrate => some "failed to tear down data-plane NetworkPolicy controller during migrate"
  | deleteMigrate => some "failed to delete envoy-gateway managed resource during migrate"
  | shoot | drain | readConfig | guard => none

def Step.reason : Step → Reason
  | getCluster => .clusterLookup
  | readConfig => .invalidProviderConfig
  | reconcileSecrets | deleteSecrets => .secrets
  | deploy | delete | forceDelete | deleteMigrate => .managedResource
  | guard => .gatewaysInUse
  | shoot | drain | scaleDown | ensure | teardown | pruneDisabled | listGateways | removePolicies
  | teardownForceDelete | teardownMigrate => .other

def Step.wrap (step : Step) (err : GoError) : GoError :=
  match step.context with
  | some msg => .wrap msg err
  | none => err

abbrev Stepwise (α : Type) : Type := Labelled clusters GoError Step α

variable (lib : Libraries) (ex : Invocation)

def reconcileNetpolControllerSteps (cluster : Cluster) (enabled : Bool) : Stepwise Unit :=
  if enabled then step .ensure (ensure lib cluster ex.clusterName)
  else do
    step .teardown (teardown ex.clusterName)
    step .pruneDisabled pruneDataPlanePolicies

def reconcileAwakeSteps (cluster : Cluster) (shoot : Shoot) : Stepwise Unit := do
  let config ← step .readConfig
    (Prog.ofExcept (readConfig lib shoot.kubernetesVersion ex.providerConfig))
  let tls ← step .reconcileSecrets (reconcileSecrets ex.clusterName)
  step .deploy (deploy lib config tls)
  let _ ← attempt sweep
  reconcileNetpolControllerSteps lib ex cluster config.manageDataPlaneNetworkPolicies

def reconcileSteps : Stepwise Unit := do
  let cluster ← step .getCluster (send .getCluster)
  match cluster.shoot with
  | none => throw (.shoot, nilShoot)
  | some shoot =>
    if shoot.deletionTimestamp then step .drain (drainUserGatewaysForShootDeletion (lister ex))
    else if shoot.hibernationEnabled then step .scaleDown scaleDown
    else reconcileAwakeSteps lib ex cluster shoot

def checkNoUserGatewaysSteps (shoot : Option Shoot) : Stepwise Unit :=
  if shoot.any (·.deletionTimestamp) then step .drain
    (drainUserGatewaysForShootDeletion (lister ex))
  else do
    let names ← step .listGateways (lister ex).listGateways
    if names.isEmpty then pure () else throw (.guard, .gatewaysInUse names)

def removeResourcesSteps (cluster : Cluster) : Stepwise Unit := do
  step .delete deleteManagedResource
  match cluster.shoot with
  | none => throw (.shoot, nilShoot)
  | some _ => step .deleteSecrets deleteSecrets

def removeExtensionSteps (cluster : Cluster) : Stepwise Unit := do
  step .teardown (teardown ex.clusterName)
  if cluster.shoot.any (fun shoot => !shoot.deletionTimestamp) then
    step .removePolicies pruneDataPlanePolicies
  removeResourcesSteps cluster

def deleteSteps : Stepwise Unit := do
  let cluster ← step .getCluster (send .getCluster)
  checkNoUserGatewaysSteps ex cluster.shoot
  removeExtensionSteps ex cluster

def forceDeleteSteps : Stepwise Unit := do
  step .teardownForceDelete (teardown ex.clusterName)
  step .forceDelete deleteKeepingObjects

def migrateSteps : Stepwise Unit := do
  step .teardownMigrate (teardown ex.clusterName)
  step .deleteMigrate deleteKeepingObjects

def Operation.steps : Operation → Stepwise Unit
  | .reconcile | .restore => reconcileSteps lib ex
  | .delete => deleteSteps ex
  | .forceDelete => forceDeleteSteps ex
  | .migrate => migrateSteps ex

variable {lib ex}

lemma erase_reconcileNetpolController (cluster : Cluster) (enabled : Bool) :
    erase Step.wrap (reconcileNetpolControllerSteps lib ex cluster enabled) =
      reconcileNetpolController lib ex cluster enabled := by
  cases enabled with
  | true => exact erase_step _ _
  | false =>
    refine (erase_bind _ _).trans ?_
    simp only [erase_step]
    rfl

lemma erase_reconcileAwake (cluster : Cluster) (shoot : Shoot) :
    erase Step.wrap (reconcileAwakeSteps lib ex cluster shoot) = reconcileAwake lib ex
      cluster shoot := by
  have hconfig : ∀ x : Except GoError Config, (Prog.ofExcept x : Op Config).mapFault
      (Step.wrap .readConfig) = Prog.ofExcept x := fun x => Prog.mapFault_id _
  simp only [reconcileAwakeSteps, erase_bind, erase_step, erase_attempt,
    erase_reconcileNetpolController, hconfig]
  rfl

lemma erase_reconcile : erase Step.wrap (reconcileSteps lib ex) = reconcile lib ex := by
  have hdrain : ∀ p : Op Unit, p.mapFault (Step.wrap .drain) = p := fun p => Prog.mapFault_id p
  simp only [reconcileSteps, erase_bind, erase_step]
  refine congrArg (_ >>= ·) (funext fun cluster => ?_)
  cases cluster.shoot with
  | none => rfl
  | some shoot =>
    simp only [erase_ite, erase_step, erase_reconcileAwake, hdrain]
    rfl

lemma erase_checkNoUserGateways (shoot : Option Shoot) :
    erase Step.wrap (checkNoUserGatewaysSteps ex shoot) = checkNoUserGateways
      (lister ex) shoot := by
  have hdrain : ∀ p : Op Unit, p.mapFault (Step.wrap .drain) = p := fun p => Prog.mapFault_id p
  simp only [checkNoUserGatewaysSteps, erase_ite, erase_bind, erase_step, erase_pure,
    erase_throw, hdrain]
  rfl

lemma erase_removeResources (cluster : Cluster) :
    erase Step.wrap (removeResourcesSteps cluster) = removeResources cluster := by
  simp only [removeResourcesSteps, erase_bind, erase_step]
  refine congrArg (_ >>= ·) (funext fun _ => ?_)
  cases cluster.shoot with
  | none => rfl
  | some _ => exact erase_step _ _

lemma erase_removeExtension (cluster : Cluster) :
    erase Step.wrap (removeExtensionSteps ex cluster) = removeExtension ex cluster := by
  simp only [removeExtensionSteps, erase_ite, erase_bind, erase_step, erase_removeResources]
  rfl

lemma Operation.erase_steps (lib : Libraries) (ex : Invocation) (op : Operation) :
    erase Step.wrap (op.steps lib ex) = op.program lib ex := by
  cases op with
  | reconcile => exact erase_reconcile
  | restore => exact erase_reconcile
  | delete =>
    simp only [Operation.steps, deleteSteps, erase_bind, erase_step, erase_checkNoUserGateways,
      erase_removeExtension]
    rfl
  | forceDelete =>
    simp only [Operation.steps, forceDeleteSteps, erase_bind, erase_step]
    rfl
  | migrate =>
    simp only [Operation.steps, migrateSteps, erase_bind, erase_step]
    rfl

end Steps

section Origins

variable {lib : Libraries} {ex : Invocation}

/-- A step without a text of its own passes on errors that show its reason. -/
def Origin (step : Step) (inner : GoError) : Prop := step.context = none → Shows step.reason inner

lemma mentions_append {msg rest : String} {reason : Reason} (h : Mentions msg reason) :
    Mentions (msg ++ rest) reason := by
  obtain ⟨sub, hsub, hc⟩ := h
  exact ⟨sub, hsub, contains_append_left hc⟩

lemma applyLogLevel_error {level target : String} {err : GoError}
    (h : applyLogLevel level target = .error err) :
    Mentions err.message .invalidProviderConfig := by
  rw [applyLogLevel] at h
  split_ifs at h
  cases h
  apply mentions_append
  apply mentions_append
  decide

lemma applyChannel_error {channel : String} {target : Bool} {err : GoError}
    (h : applyChannel channel target = .error err) :
    Mentions err.message .invalidProviderConfig := by
  rw [applyChannel] at h
  split_ifs at h
  cases h
  apply mentions_append
  apply mentions_append
  decide

lemma readConfig_error {version : String} {providerConfig : Option Bytes} {err : GoError}
    (h : readConfig lib version providerConfig = .error err) :
    Mentions err.message .invalidProviderConfig := by
  cases providerConfig with
  | none => cases h
  | some raw =>
    cases hd : lib.decodeInto raw with
    | error e =>
      rw [readConfig_decode_error hd] at h
      cases h
      have hdecode : Mentions "failed to decode envoy-gateway providerConfig"
        .invalidProviderConfig := by decide
      exact mentions_wrap.mpr (Or.inl hdecode)
    | ok cfg =>
      rw [readConfig_decoded hd] at h
      rcases settings_error_cases h with ⟨_, _, h⟩ | ⟨_, _, h⟩
      · exact applyChannel_error h
      · exact applyLogLevel_error h

lemma origin_of_context {s : Step} {msg : String} (h : s.context = some msg) (inner : GoError) :
    Origin s inner := by
  intro hnone
  rw [h] at hnone
  cases hnone

lemma origin_of_other {s : Step} (h : s.reason = .other) (inner : GoError) : Origin s inner := by
  intro _
  rw [h]
  trivial

lemma reports_any {α : Type} {s : Step} (hs : ∀ inner, Origin s inner) (p : Op α) :
    Reports Origin (step s p) :=
  reports_step (p.yields_of_forall fun _ inner _ => hs inner)

lemma reports_reconcileNetpolController (cluster : Cluster) (enabled : Bool) :
    Reports Origin (reconcileNetpolControllerSteps lib ex cluster enabled) := by
  cases enabled with
  | true => exact reports_any (origin_of_context rfl) _
  | false =>
    exact reports_bind (reports_any (origin_of_context rfl) _)
      fun _ => reports_any (origin_of_context rfl) _

lemma reports_reconcileAwake (cluster : Cluster) (shoot : Shoot) :
    Reports Origin (reconcileAwakeSteps lib ex cluster shoot) := by
  refine reports_bind (reports_step (Prog.yields_ofExcept ?_)) fun config => ?_
  · intro err herr _
    exact readConfig_error herr
  refine reports_bind (reports_any (origin_of_context rfl) _) fun tls => ?_
  refine reports_bind (reports_any (origin_of_context rfl) _) fun _ => ?_
  exact reports_bind (reports_attempt _) fun _ => reports_reconcileNetpolController cluster _

lemma reports_reconcile : Reports Origin (reconcileSteps lib ex) := by
  refine reports_bind (reports_any (origin_of_context rfl) _) fun cluster => ?_
  cases cluster.shoot with
  | none => exact reports_throw (origin_of_other rfl _)
  | some shoot =>
    dsimp only
    split_ifs
    · exact reports_any (origin_of_other rfl) _
    · exact reports_any (origin_of_context rfl) _
    · exact reports_reconcileAwake cluster shoot

lemma reports_checkNoUserGateways (shoot : Option Shoot) :
    Reports Origin (checkNoUserGatewaysSteps ex shoot) := by
  rw [checkNoUserGatewaysSteps]
  split_ifs
  · exact reports_any (origin_of_other rfl) _
  · refine reports_bind (reports_any (origin_of_context rfl) _) fun names => ?_
    split_ifs
    · exact reports_pure ()
    · exact reports_throw fun _ => rfl

lemma reports_removeResources (cluster : Cluster) :
    Reports Origin (removeResourcesSteps cluster) := by
  refine reports_bind (reports_any (origin_of_context rfl) _) fun _ => ?_
  cases cluster.shoot with
  | none => exact reports_throw (origin_of_other rfl _)
  | some _ => exact reports_any (origin_of_context rfl) _

lemma reports_removeExtension (cluster : Cluster) :
    Reports Origin (removeExtensionSteps ex cluster) := by
  refine reports_bind (reports_any (origin_of_context rfl) _) fun _ => ?_
  split_ifs
  · exact reports_bind (reports_any (origin_of_context rfl) _) fun _ =>
      reports_removeResources cluster
  · exact reports_removeResources cluster

lemma Operation.reports_steps (lib : Libraries) (ex : Invocation) (op : Operation) :
    Reports Origin (op.steps lib ex) := by
  cases op with
  | reconcile => exact reports_reconcile
  | restore => exact reports_reconcile
  | delete =>
    refine reports_bind (reports_any (origin_of_context rfl) _) fun cluster => ?_
    exact reports_bind (reports_checkNoUserGateways _) fun _ => reports_removeExtension cluster
  | forceDelete =>
    exact reports_bind (reports_any (origin_of_context rfl) _)
      fun _ => reports_any (origin_of_context rfl) _
  | migrate =>
    exact reports_bind (reports_any (origin_of_context rfl) _)
      fun _ => reports_any (origin_of_context rfl) _

end Origins

section Reasons

lemma context_reason {step : Step} {msg : String} (h : step.context = some msg) :
    (∀ q ∈ step.reason.earlier, ¬ Mentions msg q) ∧
      (step.reason = .other ∨ step.reason ≠ .gatewaysInUse ∧ Mentions msg step.reason) := by
  cases step <;> cases h <;> decide +kernel

lemma shows_wrap {step : Step} {msg : String} (h : step.context = some msg) (inner : GoError) :
    Shows step.reason (.wrap msg inner) := by
  rcases (context_reason h).2 with ho | ⟨hg, hm⟩
  · rw [ho]
    trivial
  · have hown : Mentions (GoError.wrap msg inner).message step.reason :=
      mentions_wrap.mpr (Or.inl hm)
    revert hg hown
    cases step.reason <;> simp [Shows]

lemma legible_wrap {step : Step} {msg : String} (h : step.context = some msg) (inner : GoError) :
    Legible step.reason (.wrap msg inner) ↔ Legible step.reason inner := by
  refine and_congr Iff.rfl (forall₂_congr fun q hq => ?_)
  rw [mentions_wrap]
  simp [(context_reason h).1 q hq]

lemma reasonOf_wrap {step : Step} {inner : GoError} (h : Origin step inner) :
    reasonOf (step.wrap inner) = step.reason ↔ Legible step.reason inner := by
  cases hc : step.context with
  | none =>
    have hwrap : step.wrap inner = inner := by simp [Step.wrap, hc]
    rw [hwrap, reasonOf_eq_iff (h hc)]
  | some msg =>
    have hwrap : step.wrap inner = .wrap msg inner := by simp [Step.wrap, hc]
    rw [hwrap, reasonOf_eq_iff (shows_wrap hc inner), legible_wrap hc]

end Reasons

def FailsAt {σ : Type} (h : Handler clusters GoError σ) (lib : Libraries) (ex : Invocation)
    (op : Operation) (s : σ)
    (tr : List (Answered clusters GoError σ)) (s' : σ) (step : Step) (inner : GoError) : Prop :=
  Exec h (op.steps lib ex).run s tr (.ok (.error (step, inner))) s'

theorem classified_by_step_iff {σ : Type} (h : Handler clusters GoError σ) (lib : Libraries)
    (ex : Invocation)
    (op : Operation) {s s' : σ} {tr : List (Answered clusters GoError σ)} {err : GoError}
    (he : Exec h (op.program lib ex) s tr (.error err) s') :
    ∃ step inner, FailsAt h lib ex op s tr s' step inner ∧ err = step.wrap inner ∧
      (∀ step' inner', FailsAt h lib ex op s tr s' step' inner' → step' = step ∧ inner' = inner) ∧
      (classifyError (some err) = step.reason.label ↔ Legible step.reason inner) := by
  rw [← Operation.erase_steps] at he
  obtain ⟨step, inner, rfl, horigin, hrun⟩ := (exec_erase_error (op.reports_steps lib ex)).mp he
  refine ⟨step, inner, hrun, rfl, ?_, ?_⟩
  · intro step' inner' hrun'
    have hsame := Exec.outcome_unique hrun' hrun
    cases hsame
    exact ⟨rfl, rfl⟩
  · rw [classifyError, Reason.label_injective.eq_iff, reasonOf_wrap horigin]

section Sampled

def forbidden (name : String) : GoError :=
  .status .other ("clusters.extensions.gardener.cloud " ++ quoted name ++ " is forbidden")

lemma getCluster_refused (name : String) : ∃ tr,
    FailsAt (answers sampleGenerator) (sampleLibraries {}) { clusterName := name } .reconcile
      freshWorld tr freshWorld .getCluster (forbidden name) ∧
    Exec (answers sampleGenerator)
      (Operation.program (sampleLibraries {}) { clusterName := name } .reconcile)
      freshWorld tr (.error (.wrap "failed to get cluster" (forbidden name))) freshWorld := by
  have hrefused : Answers sampleGenerator freshWorld .getCluster (.error (forbidden name))
    freshWorld := .refused rfl
  exact ⟨[⟨.getCluster, .error (forbidden name), freshWorld, freshWorld⟩], .call hrefused .ret,
    .call hrefused .fail⟩

theorem classified_by_step_iff_bar : ∃ tr err,
    Exec (answers sampleGenerator)
      (Operation.program (sampleLibraries {}) { clusterName := "shoot--foo--bar" } .reconcile)
      freshWorld tr (.error err) freshWorld ∧
    classifyError (some err) = "cluster_lookup" := by
  obtain ⟨tr, hfails, he⟩ := getCluster_refused "shoot--foo--bar"
  refine ⟨tr, _, he, ?_⟩
  obtain ⟨step, inner, _, _, hunique, hiff⟩ := classified_by_step_iff _ _ _ _ he
  obtain ⟨rfl, rfl⟩ := hunique _ _ hfails
  have hlegible : Legible .clusterLookup (forbidden "shoot--foo--bar") := by
    unfold Legible
    decide +kernel
  exact hiff.mpr hlegible

theorem shoot_name_moves_reason :
    (∃ tr err, FailsAt (answers sampleGenerator) (sampleLibraries {})
      { clusterName := "shoot--foo--secrets-manager" }
        .reconcile freshWorld tr freshWorld .getCluster (forbidden "shoot--foo--secrets-manager") ∧
      Exec (answers sampleGenerator)
        (Operation.program (sampleLibraries {})
          { clusterName := "shoot--foo--secrets-manager" } .reconcile)
        freshWorld tr (.error err) freshWorld ∧
      classifyError (some err) = "secrets") ∧
    (∃ tr err, FailsAt (answers sampleGenerator) (sampleLibraries {})
      { clusterName := "shoot--foo--bar" }
        .reconcile freshWorld tr freshWorld .getCluster (forbidden "shoot--foo--bar") ∧
      Exec (answers sampleGenerator)
        (Operation.program (sampleLibraries {}) { clusterName := "shoot--foo--bar" } .reconcile)
        freshWorld tr (.error err) freshWorld ∧
      classifyError (some err) = "cluster_lookup") ∧
    ∃ tr inner err, FailsAt (answers sampleGenerator) (sampleLibraries {})
        { clusterName := "shoot--foo--secrets-manager" } .migrate freshWorld tr freshWorld
      .teardownMigrate inner ∧ Exec (answers sampleGenerator)
        (Operation.program (sampleLibraries {})
          { clusterName := "shoot--foo--secrets-manager" } .migrate)
        freshWorld tr (.error err) freshWorld ∧
      classifyError (some err) = "secrets" := by
  refine ⟨?_, ?_, ?_⟩
  · obtain ⟨tr, hfails, he⟩ := getCluster_refused "shoot--foo--secrets-manager"
    exact ⟨tr, _, hfails, he, by decide +kernel⟩
  · obtain ⟨tr, hfails, he⟩ := getCluster_refused "shoot--foo--bar"
    exact ⟨tr, _, hfails, he, by decide +kernel⟩
  · have hrefused : Answers sampleGenerator freshWorld .deleteDeployment
        (.error (.text "connection refused")) freshWorld := .refused rfl
    refine ⟨[⟨.deleteDeployment, .error (.text "connection refused"), freshWorld, freshWorld⟩],
      .wrap ("failed to delete netpol-controller *v1.Deployment shoot--foo--secrets-manager/" ++
        netpolControllerName) (.text "connection refused"),
      _, .call hrefused .ret, .call hrefused .fail, by decide +kernel⟩

end Sampled

end EnvoyGatewayExtension.Actuator
