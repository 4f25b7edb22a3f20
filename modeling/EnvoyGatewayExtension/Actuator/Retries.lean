import EnvoyGatewayExtension.Actuator.Deliveries
import EnvoyGatewayExtension.Actuator.OrphanSweep
import EnvoyGatewayExtension.Actuator.PrunePaths
import EnvoyGatewayExtension.Effects.Attempts

namespace EnvoyGatewayExtension.Actuator

open Effects Kubernetes EnvoyGateway Stores

/-- What an operation leaves behind, the objects of the best-effort sweep aside. -/
@[ext] structure View where
  managedResource : Option ManagedResource
  objects : ObjectKey → Option Manifest
  gateways : List Gateway
  gatewayClassFinalizers : Option (List String)
  deployment : Option Deployment
  secrets : String → Option String
  policies : NamespacedName → Option NetworkPolicy

def World.view (w : World) : View where
  managedResource := w.managedResource
  objects k := w.objects.lookup k
  gateways := w.gateways
  gatewayClassFinalizers := w.gatewayClassFinalizers
  deployment := w.deployment
  secrets name := w.secrets.lookup name
  policies k := w.policies.lookup k

section Changes

namespace View

def shipped (ms : List Manifest) (v : View) : View :=
  { v with managedResource := some (match v.managedResource with
      | some mr => { mr with keepObjects := false, manifests := ms }
      | none => { keepObjects := false, manifests := ms }) }

def marked (v : View) : View :=
  { v with managedResource := v.managedResource.map ({ · with terminating := true }) }

def keeping (v : View) : View :=
  { v with managedResource := v.managedResource.map ({ · with keepObjects := true }) }

def removes (v : View) (k : ObjectKey) : Bool :=
  v.managedResource.any fun mr => !mr.keepObjects && (mr.applied.map Manifest.key).contains k

def collected (v : View) : View :=
  { v with
    managedResource := none
    objects := fun k => if v.removes k then none else v.objects k
    gateways := if v.removes gatewayCRDKey then [] else v.gateways }

def released (v : View) : View := { v with managedResource := none }

def setSecret (account : Option String) (v : View) : View :=
  { v with secrets := Function.update v.secrets netpolAccessSecretName account }

def setDeployment (d : Option Deployment) (v : View) : View := { v with deployment := d }

def applied (seedNamespace : String) (desired : Deployment) (v : View) : View :=
  { v with deployment := some { v.deployment.getD (emptyDeployment seedNamespace) with
      labels := desired.labels, spec := desired.spec } }

def asleep (v : View) : View :=
  { v with
    deployment := v.deployment.map fun d => { d with spec := { d.spec with replicas := some 0 } } }

def pruned (v : View) : View :=
  { v with policies := fun k => (v.policies k).filter fun np => !managedDataPlanePolicy np.labels }

def ensured (seedNamespace : String) (desired : Deployment) (v : View) : View :=
  (v.setSecret (some netpolControllerServiceAccountName)).applied seedNamespace desired

def tornDown (v : View) : View := (v.setDeployment none).setSecret none

end View

end Changes

section Plans

variable (lib : Libraries) (generate : Generator) (ex : Invocation)

def bundled (ca : CAState) : Except GoError TLSBundle :=
  generate ca secretConfigs >>= bundleOf ex.clusterName

def deployPlan (config : Config) (tls : TLSBundle) : Option (View → View) :=
  (buildResources lib config tls).toOption.map fun resources => View.shipped (manifestsOf resources)

def netpolPlan (cluster : Cluster) (enabled : Bool) : Option (View → View) :=
  if enabled then (injectedDeployment lib cluster ex.clusterName).toOption.map
    (View.ensured ex.clusterName)
  else some fun v => v.tornDown.pruned

def awakePlan (cluster : Cluster) (shoot : Shoot) (ca : CAState) : Option (View → View) :=
  (readConfig lib shoot.kubernetesVersion ex.providerConfig).toOption.bind fun config =>
  (bundled generate ex ca).toOption.bind fun tls =>
  inTurn (deployPlan lib config tls)
    (netpolPlan lib ex cluster config.manageDataPlaneNetworkPolicies)

def reconcilePlan (w : World) : Option (View → View) :=
  w.cluster.bind fun cluster => cluster.shoot.bind fun shoot =>
    if shoot.hibernationEnabled then some View.asleep
      else awakePlan lib generate ex cluster shoot w.ca

def removalPlan (w : World) : Option (View → View) :=
  w.cluster.bind fun cluster => cluster.shoot.map fun _ v => v.tornDown.pruned.collected

def Operation.plan (w : World) : Operation → Option (View → View)
  | .reconcile => reconcilePlan lib generate ex w
  | .restore => reconcilePlan lib generate ex w
  | .delete => removalPlan w
  | .forceDelete => some fun v => v.tornDown.released
  | .migrate => some fun v => v.tornDown.released

end Plans

variable {lib : Libraries} {generate : Generator} {ex : Invocation} {cl : Option Cluster}
  {ca : CAState} {w w' : World}

structure Inputs (cl : Option Cluster) (ca : CAState) (w : World) : Prop where
  cluster : w.cluster = cl
  ca : w.ca = ca
  keyed : ∀ k np, w.policies.lookup k = some np → np.key = k

section Calls

lemma perform_keyed (c : Call) (h : ∀ k np, w.policies.lookup k = some np → np.key = k) :
    ∀ k np, (w.perform generate c).2.policies.lookup k = some np → np.key = k := by
  cases c with
  | deletePolicy k =>
    obtain ⟨hgone, hothers⟩ := perform_deletePolicy_lookup generate w k
    intro j np hj
    by_cases hk : j = k
    · rw [hk, hgone] at hj
      cases hj
    · exact h j np ((hothers j hk) ▸ hj)
  | waitUntilDeleted =>
    simp only [World.perform, World.collect, World.removeObjects]
    split
    · exact h
    · split_ifs <;> exact h
  | _ => first | exact h | (simp only [World.perform]; split <;> exact h)

lemma perform_inputs (c : Call) (h : Inputs cl ca w) : Inputs cl ca (w.perform generate c).2 :=
  ⟨(perform_fixed generate w c).1.trans h.cluster, (perform_fixed generate w c).2.trans h.ca,
    perform_keyed c h.keyed⟩

lemma Answers.inputs {c : Call} {r : Except GoError c.Result} (ha : Answers generate w c r w')
    (h : Inputs cl ca w) : Inputs cl ca w' :=
  ha.keeps h (perform_inputs c h)

def Call.unseen : Call → Bool
  | newSecretsManager _ => true
  | generateAllSecrets _ => true
  | cleanupSecrets _ => true
  | deleteInfra _ _ => true
  | c => c.reads

lemma Call.unseen_of_reads {c : Call} (hc : c.reads = true) : c.unseen = true := by
  cases c <;> first | rfl | cases hc

lemma perform_unseen {c : Call} (hc : c.unseen = true) :
    (w.perform generate c).2.view = w.view := by
  cases c <;> cases hc
  all_goals simp only [World.perform]
  all_goals split <;> rfl

def Changes (generate : Generator) (c : Call) (w : World) (v : View) : Prop :=
  (w.perform generate c).2.view = v ∨
    (w.perform generate c).2.view = w.view ∧ ∃ e, (w.perform generate c).1 = .error e ∧
    e.isNotFound = false

lemma Answers.changes {c : Call} {v : View} {r : Except GoError c.Result}
    (ha : Answers generate w c r w')
    (hc : Changes generate c w v) : w'.view = v ∨ w'.view = w.view ∧ ∃ e, r = .error e ∧
    e.isNotFound = false := by
  cases ha with
  | done => exact hc
  | refused he => exact Or.inr ⟨rfl, _, rfl, GoError.isNotFound_of_transient he⟩
  | lost he =>
    rcases hc with hmade | ⟨hsame, _⟩
    · exact Or.inl hmade
    · exact Or.inr ⟨hsame, _, rfl, GoError.isNotFound_of_transient he⟩

end Calls

section Parts

variable {α β : Type} {p : Op α} {plan : Option (View → View)} {f : View → View} {c : Call}

abbrev WorksTowards (generate : Generator) (cl : Option Cluster) (ca : CAState)
    (plan : Option (View → View)) (p : Op α) : Prop :=
  Pursues (answers generate) (Inputs cl ca) World.view plan p

lemma ensures_unseen (hu : p.Uses fun c : Call => c.unseen = true) (hw : Inputs cl ca w) :
    Ensures (answers generate) (fun _ => True) p
      (fun _ t => Inputs cl ca t ∧ t.view = w.view) w := by
  refine Ensures.of_uses hu (fun s c r t hc ha hs => ⟨trivial, Answers.inputs ha hs.1, ?_⟩)
    ⟨hw, rfl⟩
  refine Eq.trans ?_ hs.2
  exact ha.keeps (J := fun t => t.view = s.view) rfl (perform_unseen hc)

lemma ensures_changes (hc : Changes generate c w (f w.view)) (hw : Inputs cl ca w) :
    Ensures (answers generate) (fun _ => True) (send c) (fun out t => Inputs cl ca t ∧
      (t.view = f w.view ∨ t.view = w.view ∧ ∃ e, out = .error e ∧ e.isNotFound = false)) w :=
  Ensures.request_iff.mpr fun _ _ ha => ⟨trivial, Answers.inputs ha hw, Answers.changes ha hc⟩

lemma ensures_made {p : Op α}
    (hp : Ensures (answers generate) (fun _ => True) p (fun out t => Inputs cl ca t ∧
      (t.view = f w.view ∨ t.view = w.view ∧ ∃ e, out = .error e ∧ e.isNotFound = false)) w) :
    Ensures (answers generate) (fun _ => True) p (fun out t => Inputs cl ca t ∧
      (t.view = f w.view ∨ t.view = w.view ∧ ∃ e, out = .error e)) w :=
  hp.mono (fun _ hj => hj) fun _ _ ht => ⟨ht.1, ht.2.imp id fun ⟨hsame, e, he, _⟩ => ⟨hsame, e, he⟩⟩

lemma worksTowards_send (hc : ∀ w, Changes generate c w (f w.view)) (hf : ∀ v, f (f v) = f v) :
    WorksTowards generate cl ca (some f) (send c) :=
  Pursues.of_made hf fun s hs => ensures_made (ensures_changes (hc s) hs)

lemma worksTowards_ignoreNotFound {p : Op Unit} (hf : ∀ v, f (f v) = f v)
    (hp : ∀ s, Inputs cl ca s → Ensures (answers generate) (fun _ => True) p
      (fun out t => Inputs cl ca t ∧
      (t.view = f s.view ∨ t.view = s.view ∧ ∃ e, out = .error e ∧ e.isNotFound = false)) s) :
    WorksTowards generate cl ca (some f) (ignoreNotFound p) := by
  refine Pursues.of_made hf fun s hs => ensures_ignoreNotFound
    ((hp s hs).mono (fun _ hj => hj) fun out t ht => ?_)
  obtain ⟨hin, hmade | ⟨hsame, e, rfl, hne⟩⟩ := ht
  · exact ⟨fun _ => ⟨hin, Or.inl hmade⟩, fun _ _ _ => ⟨hin, Or.inl hmade⟩⟩
  · refine ⟨fun hn => ?_, fun e' _ _ => ⟨hin, Or.inr ⟨hsame, e', rfl⟩⟩⟩
    rw [hn e rfl] at hne
    cases hne

end Parts

section Controller

lemma changes_deleteDeployment (w : World) :
    Changes generate .deleteDeployment w (w.view.setDeployment none) := by
  left
  simp only [World.perform]
  split
  · rfl
  · rename_i hd
    simp only [World.view, View.setDeployment, hd]

lemma changes_deleteSecret (w : World) :
    Changes generate (.deleteSecret netpolAccessSecretName) w (w.view.setSecret none) := by
  left
  simp only [World.perform]
  split_ifs with hs
  · simp only [World.view, View.setSecret]
    congr 1
    funext name
    by_cases hn : name = netpolAccessSecretName
    · rw [hn, AList.lookup_erase, Function.update_self]
    · rw [AList.lookup_erase_ne hn, Function.update_of_ne hn]
  · have hnone : w.secrets.lookup netpolAccessSecretName = none := by simpa using hs
    simp only [World.view, View.setSecret]
    congr 1
    exact (Function.update_eq_self_iff.mpr hnone.symm).symm

lemma changes_reconcileAccessSecret (w : World) :
    Changes generate
      (.reconcileAccessSecret netpolAccessSecretName netpolControllerServiceAccountName) w
      (w.view.setSecret (some netpolControllerServiceAccountName)) := by
  left
  simp only [World.perform, World.view, View.setSecret]
  congr 1
  funext name
  by_cases hn : name = netpolAccessSecretName
  · rw [hn, AList.lookup_insert, Function.update_self]
  · rw [AList.lookup_insert_ne hn, Function.update_of_ne hn]

lemma setSecret_idem (account : Option String) (v : View) :
    (v.setSecret account).setSecret account = v.setSecret account := by
  simp only [View.setSecret, Function.update_idem]

lemma tornDown_idem (v : View) : v.tornDown.tornDown = v.tornDown := by
  simp only [View.tornDown, View.setDeployment, View.setSecret, Function.update_idem]

lemma worksTowards_teardown (seedNamespace : String) :
    WorksTowards generate cl ca (some View.tornDown) (teardown seedNamespace) := by
  refine Pursues.bind
    (Pursues.mapFault (worksTowards_ignoreNotFound (f := View.setDeployment none) (fun _ => rfl)
      fun s hs => ensures_changes (changes_deleteDeployment s) hs))
    (fun _ =>
      Pursues.mapFault (worksTowards_ignoreNotFound (f := View.setSecret none) (setSecret_idem none)
      fun s hs => ensures_changes (changes_deleteSecret s) hs)) ?_ ?_
  · rintro f ⟨⟩ v
    rfl
  · rintro f ⟨⟩ g ⟨⟩ v
    rfl

lemma worksTowards_apply (seedNamespace : String) (desired : Deployment) :
    WorksTowards generate cl ca (some (View.applied seedNamespace desired))
      (createOrUpdate (send .getDeployment) (fun d => send (.createDeployment d))
        (fun d => send (.updateDeployment d))
        (emptyDeployment seedNamespace)
          (fun obj => { obj with labels := desired.labels, spec := desired.spec })) := by
  refine Pursues.of_made (fun v => rfl) fun s hs => ensures_createOrUpdate
    (Ensures.request_iff.mpr fun r u ha => ?_)
  obtain ⟨rfl, hget, hnone⟩ := answers_getDeployment ha
  refine ⟨trivial, ?_⟩
  cases r with
  | error e =>
    dsimp only
    split_ifs with hn
    · have hd := hnone e rfl hn
      refine ensures_made (ensures_changes (Or.inl ?_) hs)
      simp only [World.perform, hd]
      simp only [World.view, View.applied, hd, Option.getD_none]
    · exact ⟨hs, Or.inr ⟨rfl, e, rfl⟩⟩
  | ok existing =>
    have hd := hget existing rfl
    dsimp only
    split_ifs with heq
    · refine ⟨hs, Or.inl ?_⟩
      simp only [World.view, View.applied, hd, Option.getD_some, heq]
    · refine ensures_made (ensures_changes (Or.inl ?_) hs)
      simp only [World.perform, hd]
      simp only [World.view, View.applied, hd, Option.getD_some]

lemma worksTowards_ensure (cluster : Cluster) (seedNamespace : String) :
    WorksTowards generate cl ca
      ((injectedDeployment lib cluster seedNamespace).toOption.map (View.ensured seedNamespace))
      (ensure lib cluster seedNamespace) := by
  have hplan : (injectedDeployment lib cluster seedNamespace).toOption.map
      (View.ensured seedNamespace) =
      inTurn (some (View.setSecret (some netpolControllerServiceAccountName)))
        ((injectedDeployment lib cluster seedNamespace).toOption.bind
          fun d => some (View.applied seedNamespace d)) := by
    cases injectedDeployment lib cluster seedNamespace <;> rfl
  rw [hplan]
  refine Pursues.bind
    (Pursues.mapFault (worksTowards_send changes_reconcileAccessSecret (setSecret_idem _)))
    (fun _ => Pursues.ofExcept_bind fun desired _ => Pursues.mapFault
      (worksTowards_apply seedNamespace desired)) ?_ ?_
  · rintro f ⟨⟩ v
    exact setSecret_idem _ v
  · rintro f ⟨⟩ g hg v
    obtain ⟨d, _, ⟨⟩⟩ := Option.bind_eq_some_iff.mp hg
    rfl

lemma worksTowards_scaleDown : WorksTowards generate cl ca (some View.asleep) scaleDown := by
  have hidem : ∀ v : View, v.asleep.asleep = v.asleep := by
    intro v
    simp only [View.asleep, Option.map_map]
    rfl
  refine Pursues.of_made hidem fun s hs => ?_
  refine Ensures.bind_iff.mpr
    (Ensures.attempt_iff.mpr (Ensures.request_iff.mpr fun r u ha => ⟨trivial, ?_⟩))
  obtain ⟨rfl, hget, hnone⟩ := answers_getDeployment ha
  cases r with
  | error e =>
    simp only [Prog.ofExcept_ok, Prog.ret_bind]
    split_ifs with hn
    · refine ⟨hs, Or.inl ?_⟩
      simp only [World.view, View.asleep, hnone e rfl hn, Option.map_none]
    · exact ⟨hs, Or.inr ⟨rfl, e, rfl⟩⟩
  | ok d =>
    have hd := hget d rfl
    refine ensures_wrapped
      (Ensures.request_iff.mpr fun r v hv => ⟨trivial, Answers.inputs hv hs, ?_⟩)
    have hperf : Changes generate (.patchReplicas 0) u u.view.asleep := by
      left
      simp only [World.perform, hd]
      simp only [World.view, View.asleep, hd, Option.map_some]
    rcases Answers.changes hv hperf with hmade | ⟨hsame, e, rfl, _⟩
    · exact Or.inl hmade
    · exact Or.inr ⟨hsame, _, rfl⟩

end Controller

section Shoot

def View.apart (v : View) : View := { v with policies := fun _ => none }

lemma view_ext {v v' : View} (h : v'.apart = v.apart) (hp : ∀ k, v'.policies k = v.policies k) :
    v' = v := by
  obtain ⟨m, o, g, c, d, s, p⟩ := v
  obtain ⟨m', o', g', c', d', s', p'⟩ := v'
  simp only [View.apart, View.mk.injEq] at h ⊢
  exact ⟨h.1, h.2.1, h.2.2.1, h.2.2.2.1, h.2.2.2.2.1, h.2.2.2.2.2.1, funext hp⟩

def Call.prunes : Call → Bool
  | deletePolicy _ => true
  | c => c.reads

lemma perform_prunes {c : Call} (hc : c.prunes = true) :
    (w.perform generate c).2.view.apart = w.view.apart := by
  cases c with
  | deletePolicy k =>
    simp only [World.perform]
    split_ifs <;> rfl
  | _ =>
    cases hc
    all_goals rw [perform_reads generate w rfl]

lemma ensures_prunes {p : Op Unit} (hu : p.Uses fun c : Call => c.prunes = true)
    (hw : Inputs cl ca w) :
    Ensures (answers generate) (fun _ => True) p
      (fun _ t => Inputs cl ca t ∧ t.view.apart = w.view.apart) w := by
  refine Ensures.of_uses hu (fun s c r t hc ha hs => ⟨trivial, Answers.inputs ha hs.1, ?_⟩)
    ⟨hw, rfl⟩
  refine Eq.trans ?_ hs.2
  exact ha.keeps (J := fun t => t.view.apart = s.view.apart) rfl (perform_prunes hc)

lemma filter_of_carriesLabels {k : NamespacedName} (h : CarriesLabels w.policies k) :
    (w.policies.lookup k).filter (fun np => !managedDataPlanePolicy np.labels) = none := by
  obtain ⟨np, hl, hm⟩ := h
  simp [hl, hm]

lemma filter_of_not_carriesLabels {k : NamespacedName} (h : ¬ CarriesLabels w.policies k) :
    (w.policies.lookup k).filter (fun np => !managedDataPlanePolicy np.labels) =
      w.policies.lookup k := by
  cases hl : w.policies.lookup k with
  | none => rfl
  | some np =>
    have hm : managedDataPlanePolicy np.labels = false := by
      refine Bool.eq_false_iff.mpr fun hm => h ⟨np, hl, hm⟩
    simp [hm]

lemma worksTowards_prune :
    WorksTowards generate cl ca (some View.pruned) pruneDataPlanePolicies := by
  intro s hs
  have hframe : Ensures (answers generate) (fun _ => True) pruneDataPlanePolicies
      (fun _ t => Inputs cl ca t ∧ t.view.apart = s.view.apart) s :=
        ensures_prunes (uses_prune rfl rfl fun _ => rfl) hs
  refine (hframe.and (ensures_pruneDataPlanePolicies generate hs.keyed)).mono (fun _ hj => hj)
    fun out t ht => ?_
  obtain ⟨⟨hin, happart⟩, herased, hgone⟩ := ht
  refine ⟨hin, ?_, fun _ hout => ⟨_, rfl, view_ext happart fun k => ?_⟩⟩
  · rintro f ⟨⟩
    refine view_ext happart fun k => ?_
    change (t.policies.lookup k).filter _ = (s.policies.lookup k).filter _
    rcases herased k with hk | ⟨hk, hc⟩
    · rw [hk]
    · rw [hk, filter_of_carriesLabels hc]
      rfl
  · change t.policies.lookup k = (s.policies.lookup k).filter _
    by_cases hc : CarriesLabels s.policies k
    · rw [hgone (by rw [hout]) k hc, filter_of_carriesLabels hc]
    · rw [filter_of_not_carriesLabels hc]
      exact (herased k).resolve_right fun hk => hc hk.2

end Shoot

section ManagedResources

lemma changes_createForShoot (ms : List Manifest) (w : World) :
    Changes generate (.createForShoot false ms) w (w.view.shipped ms) := by
  left
  simp only [World.perform]
  split
  · rename_i mr hm
    simp only [World.view, View.shipped, hm]
  · rename_i hm
    simp only [World.view, View.shipped, hm]

lemma shipped_idem (ms : List Manifest) (v : View) : (v.shipped ms).shipped ms = v.shipped ms := by
  obtain ⟨_ | mr, _⟩ := v <;> rfl

lemma worksTowards_deploy (config : Config) (tls : TLSBundle) :
    WorksTowards generate cl ca (deployPlan lib config tls) (deploy lib config tls) := by
  have hplan : deployPlan lib config tls = ((buildResources lib config tls).mapError
      (GoError.wrap "failed to generate envoy-gateway resources")).toOption.bind
        fun resources => some (View.shipped (manifestsOf resources)) := by
    rw [deployPlan]
    cases buildResources lib config tls <;> rfl
  rw [hplan]
  exact Pursues.ofExcept_bind fun resources _ =>
    Pursues.mapFault (worksTowards_send (changes_createForShoot _) (shipped_idem _))

lemma changes_deleteManagedResource (w : World) :
    Changes generate .deleteManagedResource w w.view.marked := Or.inl rfl

lemma collected_marked (v : View) : v.marked.collected = v.collected := by
  obtain ⟨_ | mr, _⟩ := v <;> rfl

lemma removeObjects_view (w : World) (keys : List ObjectKey) : (w.removeObjects keys).view =
    { w.view with
      objects := fun k => if k ∈ keys then none else w.view.objects k
      gateways := if gatewayCRDKey ∈ keys then [] else w.view.gateways } := by
  simp only [World.removeObjects, World.view, Store.lookup_foldl_erase]

lemma collect_view {mr : ManagedResource} (hm : w.managedResource = some mr) :
    (w.collect mr).view = w.view.collected := by
  have hremoves : ∀ k,
    w.view.removes k = (!mr.keepObjects && (mr.applied.map Manifest.key).contains k) := by
    intro k
    simp only [View.removes, World.view, hm, Option.any_some]
  have hview : (w.collect mr).view = { (if mr.keepObjects then w else
      w.removeObjects (mr.applied.map Manifest.key)).view with managedResource := none } := rfl
  rw [hview, View.collected]
  simp only [hremoves]
  cases hk : mr.keepObjects with
  | true => simp
  | false =>
    rw [if_neg Bool.false_ne_true, removeObjects_view]
    simp

lemma changes_waitUntilDeleted (w : World) :
    Changes generate .waitUntilDeleted w w.view.collected := by
  rw [Changes]
  simp only [World.perform]
  split
  · rename_i hm
    left
    simp [View.collected, View.removes, World.view, hm]
  · rename_i mr hm
    split_ifs
    · exact Or.inl (collect_view hm)
    · exact Or.inr ⟨rfl, _, rfl, rfl⟩

lemma collected_idem (v : View) : v.collected.collected = v.collected := by
  simp [View.collected, View.removes]

lemma worksTowards_deleteManagedResource :
    WorksTowards generate cl ca (some View.collected) deleteManagedResource := by
  refine Pursues.prepare (L := Inputs cl ca) (fun s hs => ?_) (fun _ ht => ht)
    fun _ => Pursues.mapFault (worksTowards_send changes_waitUntilDeleted collected_idem)
  refine ensures_wrapped
    ((ensures_changes (f := View.marked) (changes_deleteManagedResource s) hs).mono
    (fun _ hj => hj) fun out t ht => ⟨ht.1, ?_, fun _ _ => ht.1⟩)
  rintro f ⟨⟩
  rcases ht.2 with hmade | ⟨hsame, _⟩
  · rw [hmade, collected_marked]
  · rw [hsame]

lemma changes_setKeepObjects (w : World) :
    Changes generate (.setKeepObjects true) w w.view.keeping := by
  left
  simp only [World.perform]
  split
  · rename_i mr hm
    simp only [World.view, View.keeping, hm, Option.map_some]
  · rename_i hm
    simp only [World.view, View.keeping, hm, Option.map_none]

def Call.discards (c : Call) : Prop := c = .deleteManagedResource ∨ c = .waitUntilDeleted

lemma perform_discards {c : Call} (hc : c.discards) (hk : KeepsObjects w) :
    KeepsObjects (w.perform generate c).2 := by
  rcases hc with rfl | rfl
  · intro mr hm
    obtain ⟨mr', hm', rfl⟩ := Option.map_eq_some_iff.mp hm
    exact hk mr' hm'
  · simp only [World.perform]
    split
    · exact hk
    · split_ifs
      · rintro mr ⟨⟩
      · exact hk

lemma ensures_discards (hw : Inputs cl ca w ∧ KeepsObjects w) :
    Ensures (answers generate) (fun _ => True)
    deleteManagedResource (fun _ t => Inputs cl ca t ∧ KeepsObjects t) w := by
  refine Ensures.of_uses (C := Call.discards) (uses_deleteManagedResource (Or.inl rfl) (Or.inr rfl))
    (fun s c r t hc ha hs => ⟨trivial, Answers.inputs ha hs.1, ?_⟩) hw
  exact ha.keeps hs.2 (perform_discards hc hs.2)

lemma released_eq_collected (hk : KeepsObjects w) : w.view.released = w.view.collected := by
  have hremoves : ∀ k, w.view.removes k = false := by
    intro k
    rw [View.removes]
    cases hm : w.view.managedResource with
    | none => rfl
    | some mr => simp [hk mr hm]
  simp [View.released, View.collected, hremoves]

lemma worksTowards_deleteKeepingObjects :
    WorksTowards generate cl ca (some View.released) deleteKeepingObjects := by
  refine Pursues.prepare (L := fun t => Inputs cl ca t ∧ KeepsObjects t) (fun s hs => ?_)
    (fun _ ht => ht.1) fun _ => ?_
  · refine ensures_wrapped
      (ensures_ignoreNotFound (Ensures.request_iff.mpr fun r t ha => ⟨trivial, ?_⟩))
    have hin := Answers.inputs ha hs
    have hreleased : t.view.released = s.view.released := by
      rcases Answers.changes ha (changes_setKeepObjects s) with hmade | ⟨hsame, _⟩
      · rw [hmade]
        rfl
      · rw [hsame]
    refine ⟨fun hn => ⟨hin, ?_, fun _ _ => ⟨hin, (answers_setKeepObjects ha).2 hn⟩⟩,
      fun e _ _ => ⟨hin, ?_, fun _ he => by cases he⟩⟩
    all_goals
      rintro f ⟨⟩
      exact hreleased
  · exact Pursues.congr worksTowards_deleteManagedResource (fun _ hs => ensures_discards hs)
      fun s hs => ⟨hs.1, released_eq_collected hs.2⟩

end ManagedResources

section Operations

lemma ensures_bundled (hw : Inputs cl ca w) : Ensures (answers generate) (fun _ => True)
    (reconcileSecrets ex.clusterName) (fun out t => (Inputs cl ca t ∧ t.view = w.view) ∧
      ∀ tls, out = .ok tls → (bundled generate ex ca).toOption = some tls) w := by
  refine (ensures_unseen (uses_reconcileSecrets (fun _ => rfl) (fun _ => rfl) (fun _ => rfl) _)
    hw).and (Ensures.of_exec fun tr out t he tls hout => ?_)
  rw [hout] at he
  obtain ⟨_, generated, hg, hb⟩ := exec_reconcileSecrets he
  rw [hw.ca] at hg
  rw [bundled, hg]
  change (bundleOf ex.clusterName generated).toOption = some tls
  rw [hb]
  rfl

lemma worksTowards_netpolController (cluster : Cluster) (enabled : Bool) :
    WorksTowards generate cl ca (netpolPlan lib ex cluster enabled)
      (reconcileNetpolController lib ex cluster enabled) := by
  cases enabled with
  | true => exact Pursues.mapFault (worksTowards_ensure cluster ex.clusterName)
  | false =>
    refine Pursues.bind (Pursues.mapFault (worksTowards_teardown _))
      (fun _ => Pursues.mapFault worksTowards_prune) ?_ ?_
    · rintro f ⟨⟩ v
      exact tornDown_idem v
    · rintro f ⟨⟩ g ⟨⟩ v
      rfl

lemma worksTowards_reconcileAwake (cluster : Cluster) (shoot : Shoot) :
    WorksTowards generate cl ca (awakePlan lib generate ex cluster shoot ca)
      (reconcileAwake lib ex cluster shoot) := by
  refine Pursues.ofExcept_bind fun config _ => Pursues.read
    (fun s hs => ensures_wrapped_ok (ensures_bundled hs)) fun tls _ => ?_
  refine Pursues.bind (Pursues.mapFault (worksTowards_deploy config tls))
    (fun _ => Pursues.skip (fun s hs => ?_) fun _ => worksTowards_netpolController cluster _) ?_ ?_
  · exact ensures_unseen (Prog.uses_attempt (uses_sweep rfl (fun _ _ _ _ => rfl) fun _ _ => rfl)) hs
  · intro f hf v
    obtain ⟨resources, _, rfl⟩ := Option.map_eq_some_iff.mp hf
    exact shipped_idem _ v
  · intro f hf g hg v
    obtain ⟨resources, _, rfl⟩ := Option.map_eq_some_iff.mp hf
    rw [netpolPlan] at hg
    split_ifs at hg
    · obtain ⟨desired, _, rfl⟩ := Option.map_eq_some_iff.mp hg
      rfl
    · cases hg
      rfl

lemma ensures_cluster {msg : String} (hw : Inputs cl ca w) :
    Ensures (answers generate) (fun _ => True) (wrapped msg (send .getCluster))
      (fun out t => (Inputs cl ca t ∧ t.view = w.view) ∧ ∀ cluster, out = .ok cluster →
        cl = some cluster) w := by
  refine ensures_wrapped_ok (Ensures.request_iff.mpr fun r t ha => ?_)
  obtain ⟨rfl, hc⟩ := answers_getCluster ha
  exact ⟨trivial, ⟨hw, rfl⟩, fun cluster hr => hw.cluster.symm.trans (hc cluster hr)⟩

lemma worksTowards_reconcile (hw : ¬ BeingDeleted w) :
    WorksTowards generate w.cluster w.ca (reconcilePlan lib generate ex w) (reconcile lib ex) := by
  refine Pursues.read (fun s hs => ensures_cluster hs) fun cluster hc => ?_
  cases hs : cluster.shoot with
  | none => exact Pursues.fail
  | some shoot =>
    have halive : ¬ shoot.deletionTimestamp = true := by
      intro hd
      rw [BeingDeleted, shootOf, hc] at hw
      exact hw (by simp [hs, hd])
    dsimp only [Option.bind_some]
    rw [if_neg halive]
    split_ifs
    · exact Pursues.mapFault worksTowards_scaleDown
    · exact worksTowards_reconcileAwake cluster shoot

lemma pruned_idem (v : View) : v.pruned.pruned = v.pruned := by
  simp [View.pruned, Option.filter_filter]

lemma worksTowards_keeping {msg msg' : String} :
    WorksTowards generate cl ca (some fun v => v.tornDown.released)
    (wrapped msg (teardown ex.clusterName) >>= fun _ => wrapped msg' deleteKeepingObjects) := by
  refine Pursues.bind (Pursues.mapFault (worksTowards_teardown _))
    (fun _ => Pursues.mapFault worksTowards_deleteKeepingObjects) ?_ ?_
  · rintro f ⟨⟩ v
    exact tornDown_idem v
  · rintro f ⟨⟩ g ⟨⟩ v
    rfl

lemma worksTowards_removeResources (cluster : Cluster) :
    WorksTowards generate cl ca (cluster.shoot.map fun _ => View.collected)
      (removeResources cluster) := by
  have hdelete : WorksTowards generate cl ca (some View.collected)
      (wrapped "failed to delete envoy-gateway" deleteManagedResource) :=
    Pursues.mapFault worksTowards_deleteManagedResource
  have hidem : ∀ f ∈ some View.collected, ∀ v, f (f v) = f v := by
    rintro f ⟨⟩ v
    exact collected_idem v
  rw [removeResources]
  cases cluster.shoot with
  | none =>
    have hfail : WorksTowards generate cl ca none (.fail nilShoot : Op Unit) := Pursues.fail
    exact Pursues.bind hdelete (fun _ => hfail) hidem (by rintro f _ g ⟨⟩)
  | some _ =>
    refine Pursues.bind hdelete (fun _ => Pursues.mapFault (Pursues.of_keeps fun s hs =>
      ensures_unseen (uses_deleteSecrets (fun _ => rfl) fun _ => rfl) hs)) hidem ?_
    rintro f ⟨⟩ g ⟨⟩ v
    rfl

lemma worksTowards_removeExtension {cluster : Cluster}
    (hs : cluster.shoot.any (·.deletionTimestamp) = false) :
    WorksTowards generate cl ca (cluster.shoot.map fun _ v => v.tornDown.pruned.collected)
      (removeExtension ex cluster) := by
  have hteardown : WorksTowards generate cl ca (some View.tornDown)
      (wrapped "failed to tear down data-plane NetworkPolicy controller"
        (teardown ex.clusterName)) :=
    Pursues.mapFault (worksTowards_teardown _)
  have hidem : ∀ f ∈ some View.tornDown, ∀ v, f (f v) = f v := by
    rintro f ⟨⟩ v
    exact tornDown_idem v
  have hrest : WorksTowards generate cl ca _ (removeResources cluster) :=
    worksTowards_removeResources cluster
  cases hshoot : cluster.shoot with
  | none =>
    rw [hshoot] at hrest
    rw [removeExtension, hshoot]
    exact Pursues.bind hteardown (fun _ => hrest) hidem (by rintro f _ g ⟨⟩)
  | some shoot =>
    rw [hshoot, Option.any_some] at hs
    rw [hshoot] at hrest
    rw [removeExtension, hshoot, Option.any_some, hs]
    refine Pursues.bind hteardown (fun _ => Pursues.bind (Pursues.mapFault worksTowards_prune)
      (fun _ => hrest) ?_ ?_) hidem ?_
    · rintro f ⟨⟩ v
      exact pruned_idem v
    · rintro f ⟨⟩ g ⟨⟩ v
      rfl
    · rintro f ⟨⟩ g ⟨⟩ v
      rfl

lemma worksTowards_delete (hw : ¬ BeingDeleted w) :
    WorksTowards generate w.cluster w.ca (removalPlan w) (delete ex) := by
  refine Pursues.read (fun s hs => ensures_cluster hs) fun cluster hc => ?_
  have halive : cluster.shoot.any (·.deletionTimestamp) = false := by
    rw [BeingDeleted, shootOf, hc] at hw
    exact Bool.eq_false_iff.mpr hw
  exact Pursues.skip
    (fun s hs => ensures_unseen ((uses_check_reads halive).mono fun _ => Call.unseen_of_reads) hs)
    fun _ => worksTowards_removeExtension halive

/-- While the shoot is being deleted, draining its Gateways has no single outcome. -/
def Operation.Planned (w : World) : Operation → Prop
  | .forceDelete => True
  | .migrate => True
  | _ => ¬ BeingDeleted w

lemma worksTowards_program {op : Operation} (hw : op.Planned w) :
    WorksTowards generate w.cluster w.ca (op.plan lib generate ex w) (op.program lib ex) := by
  cases op with
  | reconcile => exact worksTowards_reconcile hw
  | restore => exact worksTowards_reconcile hw
  | delete => exact worksTowards_delete hw
  | forceDelete => exact worksTowards_keeping
  | migrate => exact worksTowards_keeping

end Operations

lemma swept_of_failed {op : Operation} {u : World}
    (hf : Failed (answers generate) (op.program lib ex) w u) : Swept w u := by
  induction hf with
  | refl => exact Swept.refl _
  | tail _ he ih => exact ih.trans ((ensures_program_swept op).sound he).1

theorem retries_invisible {op : Operation} {u : World} {tr : List (Answered clusters GoError World)}
    (hw : op.Planned w) (hkeyed : ∀ k np, w.policies.lookup k = some np → np.key = k)
    (hf : Failed (answers generate) (op.program lib ex) w u)
    (he : Exec (answers generate) (op.program lib ex) u tr (.ok ()) w') :
    (∃ f, op.plan lib generate ex w = some f ∧ w'.view = f w.view) ∧ Swept w w' ∧
    ∀ u' tr' w'', Failed (answers generate) (op.program lib ex) w' u' →
      Exec (answers generate) (op.program lib ex) u' tr' (.ok ()) w'' →
      w''.view = w'.view ∧ Swept w' w'' := by
  have hpursues : WorksTowards generate w.cluster w.ca (op.plan lib generate ex w)
    (op.program lib ex) :=
    worksTowards_program hw
  obtain ⟨f, hplan, hview, hfix⟩ := hpursues.retried ⟨rfl, rfl, hkeyed⟩ hf he
  have hswept : ∀ {s t r tr}, Failed (answers generate) (op.program lib ex) s t →
      Exec (answers generate) (op.program lib ex) t tr (.ok ()) r → Swept s r :=
    fun hf he => (swept_of_failed hf).trans ((ensures_program_swept op).sound he).1
  refine ⟨⟨f, hplan, hview⟩, hswept hf he, fun u' tr' w'' hf' he' => ⟨?_, hswept hf' he'⟩⟩
  have hinputs : Inputs w.cluster w.ca w' :=
    ((hpursues u (hpursues.failed ⟨rfl, rfl, hkeyed⟩ hf).1).sound he).1.1
  obtain ⟨g, hg, hview', _⟩ := hpursues.retried hinputs hf' he'
  cases hplan.symm.trans hg
  exact hview'.trans hfix

section LostAnswer

def controlledWorld : World :=
  { deployedWorld with deployment := some (emptyDeployment sampleInvocation.clusterName) }

def uncontrolledWorld : World := { controlledWorld with deployment := none }

lemma exec_migrate_lost :
    ∃ tr e, Exec (answers sampleGenerator) (migrate sampleInvocation) controlledWorld tr (.error e)
    uncontrolledWorld := by
  have hlost : Answers sampleGenerator controlledWorld .deleteDeployment
      (.error (.text "connection reset")) uncontrolledWorld := .lost rfl
  have hcall : Exec (answers sampleGenerator) (ignoreNotFound (send .deleteDeployment))
      controlledWorld
      [⟨.deleteDeployment, .error (.text "connection reset"), controlledWorld, uncontrolledWorld⟩]
      (.error (.text "connection reset")) uncontrolledWorld :=
    Exec.bind_iff.mpr
      (Or.inr ⟨.error (.text "connection reset"), _, _, [], (List.append_nil _).symm,
      Exec.attempt_ok_iff.mpr (Exec.request_iff.mpr ⟨hlost, rfl⟩), .fail⟩)
  have hteardown : ∃ e, Exec (answers sampleGenerator) (teardown sampleInvocation.clusterName)
      controlledWorld
      [⟨.deleteDeployment, .error (.text "connection reset"), controlledWorld, uncontrolledWorld⟩]
        (.error e)
      uncontrolledWorld :=
    ⟨_, Exec.bind_iff.mpr (Or.inl ⟨_, rfl, Exec.mapFault_iff.mpr ⟨_, rfl, hcall⟩⟩)⟩
  obtain ⟨e, hteardown⟩ := hteardown
  exact ⟨_, _, Exec.bind_iff.mpr (Or.inl ⟨_, rfl, Exec.mapFault_iff.mpr ⟨_, rfl, hteardown⟩⟩)⟩

theorem retries_invisible_migrate : ∃ u v f,
    Failed (answers sampleGenerator) (Operation.migrate.program enabling sampleInvocation)
      controlledWorld u ∧
    u.view ≠ controlledWorld.view ∧
    Operation.migrate.plan enabling sampleGenerator sampleInvocation controlledWorld = some f ∧
    v.view = f controlledWorld.view ∧
    (undisturbed enabling sampleGenerator .migrate sampleInvocation v).2.view = v.view := by
  obtain ⟨tr₁, e, hlost⟩ := exec_migrate_lost
  obtain ⟨tr₂, he⟩ := exec_undisturbed enabling sampleGenerator .migrate sampleInvocation
    uncontrolledWorld
  have hf : Failed (answers sampleGenerator) (Operation.migrate.program enabling sampleInvocation)
      controlledWorld uncontrolledWorld := .tail .refl hlost
  have hplanned : Operation.migrate.Planned controlledWorld := trivial
  obtain ⟨⟨f, hplan, hview⟩, _, hagain⟩ := retries_invisible hplanned (by rintro k np ⟨⟩) hf he
  obtain ⟨tr₃, he'⟩ := exec_undisturbed enabling sampleGenerator .migrate sampleInvocation
    (undisturbed enabling sampleGenerator .migrate sampleInvocation uncontrolledWorld).2
  refine ⟨uncontrolledWorld, _, f, hf, fun h => ?_, hplan, hview, (hagain _ _ _ .refl he').1⟩
  have hd := congrArg View.deployment h
  cases hd

end LostAnswer

end EnvoyGatewayExtension.Actuator
