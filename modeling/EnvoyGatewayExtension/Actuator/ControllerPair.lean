import EnvoyGatewayExtension.Actuator.Runs

namespace EnvoyGatewayExtension.Actuator

open Effects Kubernetes EnvoyGateway Stores

variable {lib : Libraries} {generate : Generator} {w w' : World}

def accessSecret (w : World) : Option String := w.secrets.lookup netpolAccessSecretName

def Paired (w : World) : Prop := w.deployment.isSome = true → (accessSecret w).isSome = true

def Untouched (w w' : World) : Prop := w'.deployment = w.deployment ∧ w'.secrets = w.secrets

lemma Untouched.paired (h : Untouched w w') (hp : Paired w) : Paired w' := by
  unfold Paired accessSecret at hp ⊢
  rw [h.1, h.2]
  exact hp

def Call.sparesController : Call → Bool
  | reconcileAccessSecret _ _ => false
  | deleteSecret _ => false
  | createDeployment _ => false
  | updateDeployment _ => false
  | patchReplicas _ => false
  | deleteDeployment => false
  | _ => true

lemma collect_untouched (w : World) (mr : ManagedResource) : Untouched w (w.collect mr) := by
  unfold World.collect World.removeObjects
  split <;> exact ⟨rfl, rfl⟩

lemma perform_spares (w : World) {c : Call} (hc : c.sparesController = true) :
    Untouched w (w.perform generate c).2 := by
  cases c <;> cases hc
  case waitUntilDeleted =>
    simp only [World.perform]
    split
    · exact ⟨rfl, rfl⟩
    · split
      · exact collect_untouched _ _
      · exact ⟨rfl, rfl⟩
  all_goals
    simp only [World.perform]
    first | exact ⟨rfl, rfl⟩ | (split <;> exact ⟨rfl, rfl⟩)

lemma Answers.spares {c : Call} {r : Except GoError c.Result} (h : Answers generate w c r w')
    (hc : c.sparesController = true) : Untouched w w' :=
  h.keeps ⟨rfl, rfl⟩ (perform_spares w hc)

def KeepsPair (e : Answered clusters GoError World) : Prop := Paired e.after

section Parts

variable {α : Type}

lemma ensures_spares {p : Op α} (hu : p.Uses fun c : Call => c.sparesController = true)
    (hp : Paired w) : Ensures (answers generate) KeepsPair p (fun _ t => Untouched w t) w := by
  refine Ensures.of_uses hu ?_ ⟨rfl, rfl⟩
  intro s c r t hc ha hs
  have ht := Answers.spares ha hc
  have hwt : Untouched w t := ⟨ht.1.trans hs.1, ht.2.trans hs.2⟩
  exact ⟨hwt.paired hp, hwt⟩

lemma answers_deleteDeployment {r : Except GoError Call.deleteDeployment.Result}
    (h : Answers generate w .deleteDeployment r w') :
    w'.secrets = w.secrets ∧ (w'.deployment = none ∨ w' = w) ∧
      ((∀ e, r = .error e → e.isNotFound = true) → w'.deployment = none) := by
  have hd : (w.perform generate .deleteDeployment).2.secrets = w.secrets ∧
      (w.perform generate .deleteDeployment).2.deployment = none := by
    simp only [World.perform]
    split
    · exact ⟨rfl, rfl⟩
    · exact ⟨rfl, ‹_›⟩
  cases h with
  | done => exact ⟨hd.1, Or.inl hd.2, fun _ => hd.2⟩
  | @refused e he =>
    refine ⟨rfl, Or.inr rfl, fun hn => ?_⟩
    exact absurd (hn e rfl) (by simp [GoError.isNotFound_of_transient he])
  | lost he => exact ⟨hd.1, Or.inl hd.2, fun _ => hd.2⟩

lemma answers_deleteSecret {r : Except GoError (Call.deleteSecret netpolAccessSecretName).Result}
    (h : Answers generate w (.deleteSecret netpolAccessSecretName) r w') :
    w'.deployment = w.deployment ∧
    ((∀ e, r = .error e → e.isNotFound = true) → accessSecret w' = none) := by
  have hd : (w.perform generate (.deleteSecret netpolAccessSecretName)).2.deployment =
      w.deployment ∧
      accessSecret (w.perform generate (.deleteSecret netpolAccessSecretName)).2 = none := by
    simp only [World.perform, accessSecret]
    split
    · exact ⟨rfl, AList.lookup_erase _ _⟩
    · rename_i hn
      exact ⟨rfl, by simpa using hn⟩
  cases h with
  | done => exact ⟨hd.1, fun _ => hd.2⟩
  | @refused e he =>
    refine ⟨rfl, fun hn => ?_⟩
    exact absurd (hn e rfl) (by simp [GoError.isNotFound_of_transient he])
  | lost he => exact ⟨hd.1, fun _ => hd.2⟩

def Disabled (w : World) : Prop := w.deployment = none ∧ accessSecret w = none

lemma ensures_teardown (ns : String) (hp : Paired w) :
    Ensures (answers generate) KeepsPair (teardown ns)
      (fun out t => Paired t ∧ ∀ a, out = .ok a → Disabled t) w := by
  -- the Deployment goes first, so the secret is never missing beside it
  have hgone : ∀ t : World, t.deployment = none → Paired t := fun t ht hs => by
    rw [ht] at hs
    cases hs
  refine Ensures.bind (P := fun out t => Paired t ∧ (out = .ok () → t.deployment = none)) ?_ ?_ ?_
  · refine ensures_wrapped (ensures_ignoreNotFound (Ensures.request_iff.mpr ?_))
    intro r t ha
    obtain ⟨_, hcase, hnf⟩ := answers_deleteDeployment ha
    have ht : Paired t := by
      rcases hcase with hn | rfl
      · exact hgone t hn
      · exact hp
    exact ⟨ht, fun hr => ⟨ht, fun _ => hnf hr⟩, fun e _ _ => ⟨ht, fun he => by cases he⟩⟩
  · intro _ t ht
    have hn := ht.2 rfl
    refine ensures_wrapped (ensures_ignoreNotFound (Ensures.request_iff.mpr ?_))
    intro r t' ha
    obtain ⟨hd, hs⟩ := answers_deleteSecret ha
    have hn' : t'.deployment = none := hd.trans hn
    exact ⟨hgone t' hn', fun hr => ⟨hgone t' hn', fun _ _ => ⟨hn', hs hr⟩⟩,
      fun e _ _ => ⟨hgone t' hn', fun _ he => by cases he⟩⟩
  · exact fun e t ht => ⟨ht.1, fun _ he => by cases he⟩

lemma answers_reconcileAccessSecret {account : String}
    {r : Except GoError (Call.reconcileAccessSecret netpolAccessSecretName account).Result}
    (h : Answers generate w (.reconcileAccessSecret netpolAccessSecretName account) r w') :
    w'.deployment = w.deployment ∧ (w' = w ∨ (accessSecret w').isSome = true) ∧
      (r = .ok () → (accessSecret w').isSome = true) := by
  have hd : (accessSecret
      (w.perform generate (.reconcileAccessSecret netpolAccessSecretName account)).2).isSome =
      true := by
    simp [World.perform, accessSecret]
  cases h with
  | done => exact ⟨rfl, Or.inr hd, fun _ => hd⟩
  | refused => exact ⟨rfl, Or.inl rfl, fun he => by cases he⟩
  | lost => exact ⟨rfl, Or.inr hd, fun he => by cases he⟩

lemma answers_getDeployment {r : Except GoError Call.getDeployment.Result}
    (h : Answers generate w .getDeployment r w') : w' = w ∧
      (∀ d, r = .ok d → w.deployment = some d) ∧
      ∀ e, r = .error e → e.isNotFound = true → w.deployment = none := by
  refine ⟨h.reads rfl, ?_⟩
  have herr : ∀ {e : GoError}, e.transient = true →
      (∀ d, (.error e : Except GoError Deployment) = .ok d → w.deployment = some d) ∧
        ∀ e', (.error e : Except GoError Deployment) = .error e' → e'.isNotFound = true →
        w.deployment = none := by
    intro e he
    refine ⟨fun d hr => (by cases hr), fun e' hr hn => ?_⟩
    cases hr
    exact absurd hn (by simp [GoError.isNotFound_of_transient he])
  cases h with
  | done =>
    simp only [World.perform]
    cases w.deployment with
    | some d =>
      refine ⟨fun d' he => ?_, fun e he => (by cases he)⟩
      cases he
      rfl
    | none => exact ⟨fun d' he => (by cases he), fun _ _ _ => rfl⟩
  | refused he => exact herr he
  | lost he => exact herr he

lemma answers_createDeployment {d : Deployment}
    {r : Except GoError (Call.createDeployment d).Result}
    (h : Answers generate w (.createDeployment d) r w') :
    w'.secrets = w.secrets ∧ (r = .ok () → w'.deployment = some d) := by
  have hs : (w.perform generate (.createDeployment d)).2.secrets = w.secrets := by
    simp only [World.perform]
    split <;> rfl
  cases h with
  | done =>
    refine ⟨hs, ?_⟩
    simp only [World.perform]
    split
    · exact fun he => by cases he
    · exact fun _ => rfl
  | refused => exact ⟨rfl, fun he => by cases he⟩
  | lost => exact ⟨hs, fun he => by cases he⟩

lemma answers_updateDeployment {d : Deployment}
    {r : Except GoError (Call.updateDeployment d).Result}
    (h : Answers generate w (.updateDeployment d) r w') :
    w'.secrets = w.secrets ∧ (r = .ok () → w'.deployment = some d) := by
  have hs : (w.perform generate (.updateDeployment d)).2.secrets = w.secrets := by
    simp only [World.perform]
    split <;> rfl
  cases h with
  | done =>
    refine ⟨hs, ?_⟩
    simp only [World.perform]
    split
    · exact fun _ => rfl
    · exact fun he => by cases he
  | refused => exact ⟨rfl, fun he => by cases he⟩
  | lost => exact ⟨hs, fun he => by cases he⟩

lemma answers_patchReplicas {n : Int32} {r : Except GoError (Call.patchReplicas n).Result}
    (h : Answers generate w (.patchReplicas n) r w') :
    w'.secrets = w.secrets ∧ w'.deployment.isSome = w.deployment.isSome ∧
      (r = .ok () → w'.deployment.any (fun d => d.spec.replicas == some n) = true) := by
  have hs : (w.perform generate (.patchReplicas n)).2.secrets = w.secrets ∧
      (w.perform generate (.patchReplicas n)).2.deployment.isSome = w.deployment.isSome := by
    simp only [World.perform]
    split
    · rename_i hd
      exact ⟨rfl, by rw [hd]; rfl⟩
    · exact ⟨rfl, rfl⟩
  cases h with
  | done =>
    refine ⟨hs.1, hs.2, ?_⟩
    simp only [World.perform]
    split
    · exact fun _ => by simp
    · exact fun he => by cases he
  | refused => exact ⟨rfl, rfl, fun he => by cases he⟩
  | lost => exact ⟨hs.1, hs.2, fun he => by cases he⟩

lemma injectedDeployment_replicas {cluster : Cluster} {ns : String} {d : Deployment}
    (h : injectedDeployment lib cluster ns = .ok d) : d.spec.replicas = some 1 := by
  unfold injectedDeployment netpolControllerDeployment at h
  cases hi : lib.findImage extensionImageName with
  | error e =>
    rw [hi] at h
    cases h
  | ok image =>
    rw [hi] at h
    simp only [Except.mapError, bind, Except.bind, pure, Except.pure] at h
    split at h
    · cases h
    · cases h
      rfl

def Enabled (w : World) : Prop :=
  w.deployment.any (fun d => d.spec.replicas == some 1) = true ∧ (accessSecret w).isSome = true

lemma paired_of_secrets (hs : (accessSecret w).isSome = true) (h : w'.secrets = w.secrets) :
    Paired w' := by
  intro _
  unfold accessSecret at hs ⊢
  rw [h]
  exact hs

lemma enabled_of_deployed {d : Deployment} (hs : (accessSecret w).isSome = true)
    (h : w'.secrets = w.secrets)
    (hd : w'.deployment = some d) (hrep : d.spec.replicas = some 1) : Enabled w' := by
  have hdeployed : w'.deployment.isSome = true := by rw [hd]; rfl
  exact ⟨by simp [hd, hrep], paired_of_secrets hs h hdeployed⟩

lemma ensures_putDeployment {desired : Deployment} (ns : String)
    (hs : (accessSecret w).isSome = true) (hrep : desired.spec.replicas = some 1) :
    Ensures (answers generate) KeepsPair
      (createOrUpdate (send .getDeployment) (fun d => send (.createDeployment d))
        (fun d => send (.updateDeployment d))
        (emptyDeployment ns)
          (fun obj => { obj with labels := desired.labels, spec := desired.spec }))
      (fun out t => Paired t ∧ ∀ a, out = .ok a → Enabled t) w := by
  have hp : Paired w := paired_of_secrets hs rfl
  have hwritten : ∀ (v : World) (d : Deployment) (r : Except GoError Unit),
      (r = .ok () → v.deployment = some d) → v.secrets = w.secrets → d.spec = desired.spec →
      Paired v ∧ Paired v ∧ ∀ a, r = .ok a → Enabled v := by
    intro v d r hd hv hspec
    have hpair := paired_of_secrets hs hv
    exact ⟨hpair, hpair, fun a hr => enabled_of_deployed hs hv (hd hr) (by rw [hspec, hrep])⟩
  refine ensures_createOrUpdate (Ensures.request_iff.mpr ?_)
  intro r u ha
  obtain ⟨rfl, hget, _⟩ := answers_getDeployment ha
  refine ⟨hp, ?_⟩
  cases r with
  | error e =>
    dsimp only
    split_ifs
    · refine Ensures.request_iff.mpr fun r v hv => ?_
      obtain ⟨hvs, hvd⟩ := answers_createDeployment hv
      exact hwritten v _ r hvd hvs rfl
    · exact ⟨hp, fun _ he => by cases he⟩
  | ok existing =>
    dsimp only
    split_ifs with heq
    · have hspec : existing.spec = desired.spec := (congrArg Deployment.spec heq).symm
      exact (hwritten u existing (.ok ()) (fun _ => hget existing rfl) rfl hspec).2
    · refine Ensures.request_iff.mpr fun r v hv => ?_
      obtain ⟨hvs, hvd⟩ := answers_updateDeployment hv
      exact hwritten v _ r hvd hvs rfl

lemma ensures_ensure (cluster : Cluster) (ns : String) (hp : Paired w) :
    Ensures (answers generate) KeepsPair (ensure lib cluster ns)
      (fun out t => Paired t ∧ ∀ a, out = .ok a → Enabled t) w := by
  -- the secret comes first, so the Deployment is only ever written beside it
  refine Ensures.bind (P := fun out t => Paired t ∧ (out = .ok () → (accessSecret t).isSome = true))
    ?_ ?_ ?_
  · refine ensures_wrapped (Ensures.request_iff.mpr ?_)
    intro r t ha
    obtain ⟨_, hcase, hok⟩ := answers_reconcileAccessSecret ha
    have ht : Paired t := by
      rcases hcase with rfl | hs
      · exact hp
      · exact paired_of_secrets hs rfl
    refine ⟨ht, ht, fun hr => ?_⟩
    cases r with
    | ok u => exact hok rfl
    | error e => cases hr
  · intro _ t ht
    cases hd : injectedDeployment lib cluster ns with
    | error e => exact ⟨ht.1, fun _ he => by cases he⟩
    | ok desired =>
      exact ensures_wrapped_ok
        (ensures_putDeployment ns (ht.2 rfl) (injectedDeployment_replicas hd))
  · exact fun e t ht => ⟨ht.1, fun _ he => by cases he⟩

def Asleep (w : World) : Prop :=
  w.deployment = none ∨ w.deployment.any (fun d => d.spec.replicas == some 0) = true

lemma ensures_scaleDown (hp : Paired w) :
    Ensures (answers generate) KeepsPair scaleDown
      (fun out t => (Paired t ∧ t.secrets = w.secrets) ∧ ∀ a, out = .ok a → Asleep t) w := by
  refine Ensures.bind_iff.mpr (Ensures.attempt_iff.mpr (Ensures.request_iff.mpr ?_))
  intro r u ha
  obtain ⟨rfl, _, hnone⟩ := answers_getDeployment ha
  refine ⟨hp, ?_⟩
  cases r with
  | error e =>
    simp only [Prog.ofExcept_ok, Prog.ret_bind]
    split_ifs with hn
    · exact ⟨⟨hp, rfl⟩, fun _ _ => Or.inl (hnone e rfl hn)⟩
    · exact ⟨⟨hp, rfl⟩, fun _ he => by cases he⟩
  | ok d =>
    refine ensures_wrapped (Ensures.request_iff.mpr fun r' v hv => ?_)
    obtain ⟨hs, hsome, hok⟩ := answers_patchReplicas hv
    have hv : Paired v := by
      unfold Paired accessSecret at hp ⊢
      rw [hs, hsome]
      exact hp
    refine ⟨hv, ⟨hv, hs⟩, fun _ hr => ?_⟩
    cases r' with
    | ok _ => exact Or.inr (hok rfl)
    | error e => cases hr

end Parts

section Operations

variable {ex : Invocation}

lemma answers_getCluster {r : Except GoError Call.getCluster.Result}
    (h : Answers generate w .getCluster r w') :
    w' = w ∧ ∀ cluster, r = .ok cluster → w.cluster = some cluster := by
  refine ⟨h.reads rfl, ?_⟩
  cases h with
  | done =>
    simp only [World.perform]
    cases w.cluster with
    | some cl =>
      intro cluster he
      cases he
      rfl
    | none => exact fun _ he => by cases he
  | refused => exact fun _ he => by cases he
  | lost => exact fun _ he => by cases he

lemma ensures_getCluster {msg : String} (hp : Paired w) :
    Ensures (answers generate) KeepsPair (wrapped msg (send .getCluster))
      (fun out t => t = w ∧ ∀ cluster, out = .ok cluster → w.cluster = some cluster) w := by
  refine ensures_wrapped_ok (Ensures.request_iff.mpr fun r t ha => ?_)
  obtain ⟨rfl, hc⟩ := answers_getCluster ha
  exact ⟨hp, rfl, hc⟩

lemma ensures_teardown_then {msg : String} {rest : Op Unit}
    (hu : rest.Uses fun c : Call => c.sparesController = true) (hp : Paired w) :
    Ensures (answers generate) KeepsPair (wrapped msg (teardown ex.clusterName) >>= fun _ => rest)
      (fun out t => Paired t ∧ ∀ a, out = .ok a → Disabled t) w := by
  refine Ensures.bind (ensures_wrapped_ok (ensures_teardown ex.clusterName hp)) ?_ ?_
  · intro _ t ht
    refine (ensures_spares hu ht.1).mono (fun _ hj => hj) fun out u hs =>
      ⟨hs.paired ht.1, fun _ _ => ?_⟩
    have hdis := ht.2 () rfl
    refine ⟨hs.1.trans hdis.1, ?_⟩
    change u.secrets.lookup _ = none
    rw [hs.2]
    exact hdis.2
  · exact fun e t ht => ⟨ht.1, fun _ he => by cases he⟩

lemma ensures_netpolController (cluster : Cluster) (enabled : Bool) (hp : Paired w) :
    Ensures (answers generate) KeepsPair (reconcileNetpolController lib ex cluster enabled)
      (fun out t => Paired t ∧ ∀ a, out = .ok a → if enabled then Enabled t else Disabled t) w := by
  cases enabled with
  | true => exact ensures_wrapped_ok (ensures_ensure cluster ex.clusterName hp)
  | false => exact ensures_teardown_then (uses_wrapped (uses_prune rfl rfl fun _ => rfl)) hp

def Configured (lib : Libraries) (ex : Invocation) (shoot : Shoot) (w : World) : Prop :=
  ∃ config, readConfig lib shoot.kubernetesVersion ex.providerConfig = .ok config ∧
    if config.manageDataPlaneNetworkPolicies then Enabled w else Disabled w

lemma ensures_reconcileAwake (cluster : Cluster) (shoot : Shoot) (hp : Paired w) :
    Ensures (answers generate) KeepsPair (reconcileAwake lib ex cluster shoot)
      (fun out t => Paired t ∧ ∀ a, out = .ok a → Configured lib ex shoot t) w := by
  unfold reconcileAwake
  cases hc : readConfig lib shoot.kubernetesVersion ex.providerConfig with
  | error e => exact ⟨hp, fun _ he => by cases he⟩
  | ok config =>
    have hstep : ∀ {α : Type} {p : Op α} {f : α → Op Unit} {u : World},
        (p.Uses fun c : Call => c.sparesController = true) → Paired u →
        (∀ a t, Paired t → Ensures (answers generate) KeepsPair (f a)
          (fun out t => Paired t ∧ ∀ a, out = .ok a → Configured lib ex shoot t) t) →
        Ensures (answers generate) KeepsPair (p >>= f)
          (fun out t => Paired t ∧ ∀ a, out = .ok a → Configured lib ex shoot t) u := by
      intro α p f u hu hpu hf
      refine Ensures.bind (ensures_spares hu hpu) (fun a t ht => hf a t (ht.paired hpu)) ?_
      exact fun e t ht => ⟨ht.paired hpu, fun _ he => by cases he⟩
    rw [Prog.ofExcept_ok, Prog.ret_bind]
    refine hstep
      (uses_wrapped (uses_reconcileSecrets (fun _ => rfl) (fun _ => rfl) (fun _ => rfl) _)) hp ?_
    intro tls t ht
    refine hstep (uses_wrapped (uses_deploy (fun _ _ => rfl) lib config tls)) ht ?_
    intro _ t ht
    refine hstep (Prog.uses_attempt (uses_sweep rfl (fun _ _ _ _ => rfl) fun _ _ => rfl)) ht ?_
    intro _ t ht
    refine (ensures_netpolController cluster _ ht).mono (fun _ hj => hj) fun out u hu => ?_
    exact ⟨hu.1, fun a ha => ⟨config, hc, hu.2 a ha⟩⟩

def shootOf (w : World) : Option Shoot := w.cluster.bind (·.shoot)

def Reconciled (lib : Libraries) (ex : Invocation) (w : World) (out : Except GoError Unit)
    (t : World) : Prop :=
  ∀ shoot, shootOf w = some shoot →
    (shoot.deletionTimestamp = true → Untouched w t) ∧
    (shoot.deletionTimestamp = false → out = .ok () →
      if shoot.hibernationEnabled then t.secrets = w.secrets ∧ Asleep t
        else Configured lib ex shoot t)

lemma drains_spares : Drains fun c : Call => c.sparesController = true :=
  ⟨rfl, rfl, fun _ => rfl, fun _ => rfl, fun _ _ => rfl⟩

lemma ensures_reconcile (hp : Paired w) :
    Ensures (answers generate) KeepsPair (reconcile lib ex)
      (fun out t => Paired t ∧ Reconciled lib ex w out t) w := by
  refine Ensures.bind (ensures_getCluster hp) ?_ ?_
  · rintro cluster t ⟨rfl, hc⟩
    have hw := hc cluster rfl
    have hshoot : ∀ shoot, shootOf t = some shoot → cluster.shoot = some shoot := by
      intro shoot hs
      rw [shootOf, hw] at hs
      exact hs
    cases hs : cluster.shoot with
    | none =>
      refine ⟨hp, fun shoot h => ?_⟩
      rw [hshoot shoot h] at hs
      cases hs
    | some shoot =>
      have hsame : ∀ shoot', shootOf t = some shoot' → shoot' = shoot := by
        intro shoot' h
        exact Option.some.inj ((hshoot shoot' h).symm.trans hs)
      dsimp only
      split_ifs with hdel hhib
      · refine (ensures_spares (uses_drain drains_spares ex) hp).mono (fun _ hj => hj)
          fun out u hu => ?_
        refine ⟨hu.paired hp, fun shoot' h => ⟨fun _ => hu, fun hd => ?_⟩⟩
        rw [hsame shoot' h, hdel] at hd
        cases hd
      · refine (ensures_wrapped_ok (ensures_scaleDown hp)).mono (fun _ hj => hj) fun out u hu => ?_
        refine ⟨hu.1.1, fun shoot' h => ⟨fun hd => ?_, fun _ ho => ?_⟩⟩
        · rw [hsame shoot' h] at hd
          exact absurd hd hdel
        · rw [hsame shoot' h, if_pos hhib]
          exact ⟨hu.1.2, hu.2 () ho⟩
      · refine (ensures_reconcileAwake cluster shoot hp).mono (fun _ hj => hj) fun out u hu => ?_
        refine ⟨hu.1, fun shoot' h => ⟨fun hd => ?_, fun _ ho => ?_⟩⟩
        · rw [hsame shoot' h] at hd
          exact absurd hd hdel
        · rw [hsame shoot' h, if_neg hhib]
          exact hu.2 () ho
  · rintro e t ⟨rfl, _⟩
    exact ⟨hp, fun shoot _ => ⟨fun _ => ⟨rfl, rfl⟩, fun _ he => by cases he⟩⟩

lemma ensures_removeExtension (cluster : Cluster) (hp : Paired w) :
    Ensures (answers generate) KeepsPair (removeExtension ex cluster)
      (fun out t => Paired t ∧ ∀ a, out = .ok a → Disabled t) w := by
  have hrest : (removeResources cluster).Uses fun c : Call => c.sparesController = true :=
    uses_removeResources (P := fun c => c.sparesController = true) rfl rfl (fun _ => rfl)
      (fun _ => rfl) cluster
  refine ensures_teardown_then ?_ hp
  split
  · exact Prog.uses_bind (uses_wrapped (uses_prune rfl rfl fun _ => rfl)) fun _ => hrest
  · exact hrest

lemma ensures_delete (hp : Paired w) :
    Ensures (answers generate) KeepsPair (delete ex) (fun out t => Paired t ∧ ∀ a, out = .ok a →
      Disabled t) w := by
  refine Ensures.bind (ensures_getCluster hp) ?_ ?_
  · rintro cluster t ⟨rfl, _⟩
    refine Ensures.bind (ensures_spares (uses_checkNoUserGateways drains_spares cluster.shoot) hp)
      ?_ ?_
    · exact fun _ u hu => ensures_removeExtension cluster (hu.paired hp)
    · exact fun e u hu => ⟨hu.paired hp, fun _ he => by cases he⟩
  · rintro e t ⟨rfl, _⟩
    exact ⟨hp, fun _ he => by cases he⟩

def Determined (lib : Libraries) (op : Operation) (ex : Invocation) (w : World)
    (out : Except GoError Unit) (t : World) : Prop :=
  match op with
  | .reconcile => Reconciled lib ex w out t
  | .restore => Reconciled lib ex w out t
  | .delete => out = .ok () → Disabled t
  | .forceDelete => out = .ok () → Disabled t
  | .migrate => out = .ok () → Disabled t

lemma ensures_operation (op : Operation) (hp : Paired w) :
    Ensures (answers generate) KeepsPair (op.program lib ex)
      (fun out t => Paired t ∧ Determined lib op ex w out t) w := by
  have hkeep : deleteKeepingObjects.Uses fun c : Call => c.sparesController = true :=
    uses_deleteKeepingObjects rfl rfl rfl
  cases op with
  | reconcile => exact ensures_reconcile hp
  | restore => exact ensures_reconcile hp
  | delete => exact (ensures_delete hp).mono (fun _ hj => hj) fun _ _ ht => ⟨ht.1, ht.2 ()⟩
  | forceDelete =>
    exact (ensures_teardown_then (uses_wrapped hkeep) hp).mono (fun _ hj => hj) fun _ _ ht =>
      ⟨ht.1, ht.2 ()⟩
  | migrate =>
    exact (ensures_teardown_then (uses_wrapped hkeep) hp).mono (fun _ hj => hj) fun _ _ ht =>
      ⟨ht.1, ht.2 ()⟩

end Operations

theorem controller_pair_kept {eps : List Episode} (hr : Run lib generate w eps)
    (hw : w.deployment = none) :
    ∀ ep ∈ eps, (Paired ep.before ∧ (∀ e ∈ ep.trace, Paired e.after) ∧ Paired ep.after) ∧
      Determined lib ep.op ep.ex ep.before ep.outcome ep.after := by
  have hstart : Paired w := fun hs => by
    rw [hw] at hs
    cases hs
  have hbefore :=
    hr.invariant (K := Paired) (fun _ _ hd => Untouched.paired ⟨hd.deployment, hd.secrets⟩)
    (fun op ex w tr out w' he hp => ((ensures_operation op hp).sound he).1.1) hstart
  intro ep hm
  have hp := hbefore ep hm
  obtain ⟨⟨hafter, hdet⟩, htrace⟩ := (ensures_operation ep.op hp).sound (hr.executed ep hm)
  exact ⟨⟨hp, htrace, hafter⟩, hdet⟩

section Migrated

def enabling : Libraries := sampleLibraries { manageDataPlaneNetworkPolicies := some true }

def freshWorld : World := { cluster := some awakeCluster }

theorem controller_pair_kept_migrated : ∃ eps, Run enabling sampleGenerator freshWorld eps ∧
    eps.map (fun ep => (ep.op, ep.outcome)) = [(.reconcile, .ok ()), (.migrate, .ok ())] ∧
    ∀ ep ∈ eps, Paired ep.after ∧
    Determined enabling ep.op ep.ex ep.before ep.outcome ep.after := by
  obtain ⟨tr₁, h₁⟩ :=
    exec_undisturbed enabling sampleGenerator .reconcile sampleInvocation freshWorld
  obtain ⟨tr₂, h₂⟩ := exec_undisturbed enabling sampleGenerator .migrate sampleInvocation
    (undisturbed enabling sampleGenerator .reconcile sampleInvocation freshWorld).2
  have hrun : Run enabling sampleGenerator freshWorld
      [⟨.reconcile, sampleInvocation, _, tr₁, _, _⟩, ⟨.migrate, sampleInvocation, _, tr₂, _, _⟩] :=
    .cons (Drift.refl _) h₁ (.cons (Drift.refl _) h₂ .nil)
  refine ⟨_, hrun, rfl, fun ep hm => ?_⟩
  have hkept := controller_pair_kept hrun rfl ep hm
  exact ⟨hkept.1.2.2, hkept.2⟩

end Migrated

end EnvoyGatewayExtension.Actuator
