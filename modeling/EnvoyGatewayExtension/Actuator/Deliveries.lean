import EnvoyGatewayExtension.Actuator.DeleteSafety
import EnvoyGatewayExtension.EnvoyGateway.Listing

namespace EnvoyGatewayExtension.Actuator

open Effects Kubernetes EnvoyGateway Stores

variable {lib : Libraries} {generate : Generator} {w w' : World} {ex : Invocation}
  {tr : List (Answered clusters GoError World)}

lemma Answers.perform_of_ok {c : Call} {a : c.Result} (h : Answers generate w c (.ok a) w') :
    w.perform generate c = (.ok a, w') := by
  generalize hr : (.ok a : Except GoError c.Result) = r at h
  cases h with
  | done => rfl
  | refused => cases hr
  | lost => cases hr

lemma exec_send_ok {c : Call} {msg : String} {a : c.Result} :
    Exec (answers generate) (wrapped msg (send c)) w tr (.ok a) w' ↔
      w.perform generate c = (.ok a, w') ∧ tr = [⟨c, .ok a, w, w'⟩] := by
  rw [wrapped, Exec.mapFault_ok_iff, send, Exec.request_iff]
  constructor
  · rintro ⟨ha, ht⟩
    exact ⟨Answers.perform_of_ok ha, ht⟩
  · rintro ⟨hp, ht⟩
    have hd : Answers generate w c (w.perform generate c).1 (w.perform generate c).2 := .done
    rw [hp] at hd
    exact ⟨hd, ht⟩

def Call.sparesDelivery : Call → Bool
  | createForShoot _ _ => false
  | setKeepObjects _ => false
  | deleteManagedResource => false
  | waitUntilDeleted => false
  | deleteGateway _ => false
  | _ => true

def SameDelivery (w w' : World) : Prop :=
  w'.managedResource = w.managedResource ∧ w'.objects = w.objects ∧ w'.gateways = w.gateways

lemma perform_sparesDelivery (w : World) {c : Call} (hc : c.sparesDelivery = true) :
    SameDelivery w (w.perform generate c).2 := by
  cases c <;> cases hc
  all_goals
    simp only [World.perform]
    first | exact ⟨rfl, rfl, rfl⟩ | (split <;> exact ⟨rfl, rfl, rfl⟩)

lemma Answers.sparesDelivery {c : Call} {r : Except GoError c.Result}
    (h : Answers generate w c r w') (hc : c.sparesDelivery = true) : SameDelivery w w' :=
  h.keeps ⟨rfl, rfl, rfl⟩ (perform_sparesDelivery w hc)

lemma exec_sparesDelivery {α : Type} {p : Op α} {out : Except GoError α}
    (hu : p.Uses fun c : Call => c.sparesDelivery = true)
    (he : Exec (answers generate) p w tr out w') : SameDelivery w w' :=
  (Exec.keeps (J := SameDelivery w) hu (fun _ _ _ _ hc ha hs =>
    let ht := Answers.sparesDelivery ha hc
    ⟨ht.1.trans hs.1, ht.2.1.trans hs.2.1, ht.2.2.trans hs.2.2⟩) he ⟨rfl, rfl, rfl⟩).1

lemma exec_reconcileSecrets {name : String} {tls : TLSBundle}
    (he : Exec (answers generate) (reconcileSecrets name) w tr (.ok tls) w') :
    w' = w ∧ ∃ generated, generate w.ca secretConfigs = .ok generated ∧
    bundleOf name generated = .ok tls := by
  obtain ⟨_, s₁, _, _, _, h₁, he⟩ := Exec.bind_ok_iff.mp he
  obtain ⟨generated, s₂, _, _, _, h₂, he⟩ := Exec.bind_ok_iff.mp he
  obtain ⟨bundle, s₃, _, _, _, h₃, he⟩ := Exec.bind_ok_iff.mp he
  obtain ⟨_, s₄, _, _, _, h₄, he⟩ := Exec.bind_ok_iff.mp he
  obtain ⟨_, hb, rfl⟩ := Exec.ret_iff.mp he
  cases hb
  obtain ⟨_, rfl⟩ := Prod.mk.inj (exec_send_ok.mp h₁).1
  obtain ⟨hg, rfl⟩ := Prod.mk.inj (exec_send_ok.mp h₂).1
  obtain ⟨_, hbundle, rfl⟩ := Exec.ofExcept_iff.mp h₃
  obtain ⟨_, rfl⟩ := Prod.mk.inj (exec_send_ok.mp h₄).1
  exact ⟨rfl, generated, hg, hbundle.symm⟩

def Renders (lib : Libraries) (generate : Generator) (ex : Invocation) (config : Config) (w : World)
    (ms : List Manifest) : Prop :=
  ∃ generated tls resources, generate w.ca secretConfigs = .ok generated ∧
    bundleOf ex.clusterName generated = .ok tls ∧ buildResources lib config tls = .ok resources ∧
    ms = manifestsOf resources

structure Awake (w : World) (shoot : Shoot) : Prop where
  found : shootOf w = some shoot
  alive : shoot.deletionTimestamp = false
  awake : shoot.hibernationEnabled = false

lemma exec_reconcile_cases {shoot : Shoot} {out : Except GoError Unit} (ha : Awake w shoot)
    (he : Exec (answers generate) (reconcile lib ex) w tr out w') :
    ((∃ err, out = .error err) ∧ w' = w ∧ ∀ e ∈ tr, e.call = .getCluster) ∨
    ∃ cluster e₀ tr', tr = e₀ :: tr' ∧ e₀.call = .getCluster ∧
      Exec (answers generate) (reconcileAwake lib ex cluster shoot) w tr' out w' := by
  rcases Exec.bind_iff.mp he with ⟨e, rfl, hget⟩ | ⟨cluster, s, tr₁, tr₂, rfl, hget, hrun⟩
  · obtain ⟨r, _, hget⟩ := Exec.mapFault_iff.mp hget
    obtain ⟨hc, rfl⟩ := Exec.request_iff.mp hget
    exact Or.inl ⟨⟨e, rfl⟩, (answers_getCluster hc).1, by simp⟩
  · obtain ⟨hc, rfl⟩ := Exec.request_iff.mp (Exec.mapFault_ok_iff.mp hget)
    obtain ⟨rfl, hfound⟩ := answers_getCluster hc
    have hshoot : cluster.shoot = some shoot := by
      have hs := ha.found
      rw [shootOf, hfound cluster rfl] at hs
      exact hs
    rw [hshoot] at hrun
    dsimp only at hrun
    rw [ha.alive, ha.awake, if_neg Bool.false_ne_true, if_neg Bool.false_ne_true] at hrun
    exact Or.inr ⟨cluster, _, tr₂, rfl, rfl, hrun⟩

lemma exec_reconcile_of_awake (lib : Libraries) (generate : Generator) (ex : Invocation)
    {shoot : Shoot} (ha : Awake w shoot) : ∃ cluster e₀, ∀ tr' out w',
      Exec (answers generate) (reconcileAwake lib ex cluster shoot) w tr' out w' →
        Exec (answers generate) (reconcile lib ex) w (e₀ :: tr') out w' := by
  have hfound := ha.found
  rw [shootOf] at hfound
  cases hc : w.cluster with
  | none =>
    rw [hc] at hfound
    cases hfound
  | some cluster =>
    rw [hc] at hfound
    have hshoot : cluster.shoot = some shoot := hfound
    have hperf : w.perform generate .getCluster = (.ok cluster, w) := by
      simp only [World.perform, hc]
    refine ⟨cluster, ⟨.getCluster, .ok cluster, w, w⟩, fun tr' out w' he => ?_⟩
    refine Exec.bind_iff.mpr (Or.inr ⟨cluster, w, [_], tr', rfl, exec_send_ok.mpr ⟨hperf, rfl⟩, ?_⟩)
    rw [hshoot]
    dsimp only
    rw [ha.alive, ha.awake, if_neg Bool.false_ne_true, if_neg Bool.false_ne_true]
    exact he

lemma exec_reconcile_awake {shoot : Shoot} (ha : Awake w shoot)
    (he : Exec (answers generate) (reconcile lib ex) w tr (.ok ()) w') : ∃ config ms s,
      readConfig lib shoot.kubernetesVersion ex.providerConfig = .ok config ∧
      Renders lib generate ex config w ms ∧
      w.perform generate (.createForShoot false ms) = (.ok (), s) ∧ SameDelivery s w' ∧
      ⟨.createForShoot false ms, .ok (), w, s⟩ ∈ tr := by
  rcases exec_reconcile_cases ha he with ⟨⟨err, herr⟩, _⟩ | ⟨cluster, e₀, tr', rfl, _, hrun⟩
  · cases herr
  obtain ⟨config, s₂, tr₃, tr₄, rfl, hconfig, hrun₁⟩ := Exec.bind_ok_iff.mp hrun
  obtain ⟨rfl, hread, rfl⟩ := Exec.ofExcept_iff.mp hconfig
  obtain ⟨tls, s₃, tr₅, tr₆, rfl, hsecrets, hrun₂⟩ := Exec.bind_ok_iff.mp hrun₁
  obtain ⟨rfl, generated, hgen, hbundle⟩ := exec_reconcileSecrets (Exec.mapFault_ok_iff.mp hsecrets)
  obtain ⟨_, s₄, tr₇, tr₈, rfl, hdeploy, hrun₃⟩ := Exec.bind_ok_iff.mp hrun₂
  obtain ⟨resources, s₅, tr₉, tr₀, rfl, hbuild, hcreate⟩ :=
    Exec.bind_ok_iff.mp (Exec.mapFault_ok_iff.mp hdeploy)
  obtain ⟨rfl, hres, rfl⟩ := Exec.ofExcept_iff.mp hbuild
  obtain ⟨hperf, rfl⟩ := exec_send_ok.mp hcreate
  obtain ⟨_, s₆, tra, trb, rfl, hsweep, hnetpol⟩ := Exec.bind_ok_iff.mp hrun₃
  have hswept := exec_sparesDelivery
    (Prog.uses_attempt (uses_sweep rfl (fun _ _ _ _ => rfl) fun _ _ => rfl)) hsweep
  have hdone := exec_sparesDelivery
    (uses_netpolController (P := fun c => c.sparesDelivery = true) (fun _ _ => rfl) rfl
    (fun _ => rfl) (fun _ => rfl) rfl rfl rfl rfl (fun _ => rfl) cluster _) hnetpol
  refine ⟨config, manifestsOf resources, s₄, hread.symm, ?_, hperf, ?_, by simp⟩
  · exact ⟨generated, tls, resources, hgen, hbundle, mapError_eq_ok.mp hres.symm, rfl⟩
  · exact ⟨hdone.1.trans hswept.1, hdone.2.1.trans hswept.2.1, hdone.2.2.trans hswept.2.2⟩

section Shipping

variable {out : Except GoError Unit} {e : Answered clusters GoError World} {keepObjects : Bool}
  {ms : List Manifest}

def Call.ships : Call → Bool
  | createForShoot _ _ => true
  | _ => false

lemma drains_unshipped : Drains (fun c : Call => c.ships = false) := by
  constructor <;> intros <;> rfl

lemma reconcileAwake_ships {cluster : Cluster} {shoot : Shoot}
    (he : Exec (answers generate) (reconcileAwake lib ex cluster shoot) w tr out w') (hm : e ∈ tr)
    (hc : e.call = .createForShoot keepObjects ms) :
    ∃ config, readConfig lib shoot.kubernetesVersion ex.providerConfig = .ok config ∧
      Renders lib generate ex config w ms := by
  have hn : ¬ e.call.ships = false := by
    rw [hc]
    exact Bool.noConfusion
  obtain ⟨config, s₂, _, tr₂, hconfig, hrun₁, hm₁⟩ :=
    Exec.mem_bind_right (P := fun c : Call => c.ships = false) (Prog.uses_ofExcept _) he hm hn
  obtain ⟨_, hread, rfl⟩ := Exec.ofExcept_iff.mp hconfig
  obtain ⟨tls, s₃, _, tr₃, hsecrets, hrun₂, hm₂⟩ :=
    Exec.mem_bind_right (P := fun c : Call => c.ships = false)
    (uses_wrapped (uses_reconcileSecrets (fun _ => rfl) (fun _ => rfl) (fun _ => rfl) _)) hrun₁ hm₁
      hn
  obtain ⟨rfl, generated, hgen, hbundle⟩ := exec_reconcileSecrets (Exec.mapFault_ok_iff.mp hsecrets)
  have hnetpol : ∀ enabled, (reconcileNetpolController lib ex cluster enabled).Uses fun c : Call =>
    c.ships = false :=
    fun enabled => uses_netpolController (P := fun c => c.ships = false) (fun _ _ => rfl)
      rfl (fun _ => rfl) (fun _ => rfl) rfl rfl rfl rfl (fun _ => rfl) cluster enabled
  obtain ⟨_, s₄, tr₄, hdeploy, hm₃⟩ := Exec.mem_bind_left (P := fun c : Call => c.ships = false)
    (fun _ => Prog.uses_bind
      (Prog.uses_attempt (uses_sweep rfl (fun _ _ _ _ => rfl) fun _ _ => rfl)) fun _ =>
      hnetpol _) hrun₂ hm₂ hn
  obtain ⟨_, _, hdeploy⟩ := Exec.mapFault_iff.mp hdeploy
  obtain ⟨resources, s₅, _, tr₅, hbuild, hcreate, hm₄⟩ :=
    Exec.mem_bind_right (P := fun c : Call => c.ships = false) (Prog.uses_ofExcept _) hdeploy hm₃ hn
  obtain ⟨_, hres, rfl⟩ := Exec.ofExcept_iff.mp hbuild
  obtain ⟨_, _, hcreate⟩ := Exec.mapFault_iff.mp hcreate
  obtain ⟨_, rfl⟩ := Exec.request_iff.mp hcreate
  rw [List.mem_singleton.mp hm₄] at hc
  cases hc
  exact ⟨config, hread.symm, generated, tls, resources, hgen, hbundle,
    mapError_eq_ok.mp hres.symm, rfl⟩

lemma reconcile_ships (he : Exec (answers generate) (reconcile lib ex) w tr out w') (hm : e ∈ tr)
    (hc : e.call = .createForShoot keepObjects ms) : ∃ shoot config, Awake w shoot ∧
      readConfig lib shoot.kubernetesVersion ex.providerConfig = .ok config ∧
      Renders lib generate ex config w ms := by
  have hn : ¬ e.call.ships = false := by
    rw [hc]
    exact Bool.noConfusion
  obtain ⟨cluster, s₁, _, tr₁, hget, hrun, hm⟩ :=
    Exec.mem_bind_right (P := fun c : Call => c.ships = false)
    (uses_wrapped (uses_send rfl)) he hm hn
  obtain ⟨rfl, hfound⟩ := answers_getCluster (Exec.request_iff.mp (Exec.mapFault_ok_iff.mp hget)).1
  cases hshoot : cluster.shoot with
  | none =>
    rw [hshoot] at hrun
    obtain ⟨rfl, _⟩ := Exec.fail_iff.mp hrun
    exact absurd hm List.not_mem_nil
  | some shoot =>
    rw [hshoot] at hrun
    dsimp only at hrun
    split_ifs at hrun with halive hawake
    · exact absurd (Exec.calls_used (uses_drain drains_unshipped ex) hrun e hm) hn
    · exact absurd (Exec.calls_used (P := fun c : Call => c.ships = false)
        (uses_wrapped (uses_scaleDown rfl fun _ => rfl)) hrun e hm) hn
    · obtain ⟨config, hread, hrenders⟩ := reconcileAwake_ships hrun hm hc
      refine ⟨shoot, config, ⟨?_, Bool.eq_false_iff.mpr halive, Bool.eq_false_iff.mpr hawake⟩,
        hread, hrenders⟩
      rw [shootOf, hfound cluster rfl]
      exact hshoot

def HandsOver (lib : Libraries) (generate : Generator) (ex : Invocation) (w : World)
    (ms : List Manifest) : Prop :=
  ∃ tr out w' e keepObjects, Exec (answers generate) (reconcile lib ex) w tr out w' ∧ e ∈ tr ∧
    e.call = .createForShoot keepObjects ms

lemma exec_reconcileSecrets_of {name : String} {generated : Store String Data} {tls : TLSBundle}
    (hg : generate w.ca secretConfigs = .ok generated) (hb : bundleOf name generated = .ok tls) :
    ∃ tr, Exec (answers generate) (reconcileSecrets name) w tr (.ok tls) w := by
  have hgen : w.perform generate (.generateAllSecrets secretConfigs) = (.ok generated, w) := by
    simp only [World.perform, hg]
  refine ⟨_, Exec.bind_ok_iff.mpr ⟨(), w, _, _, rfl, exec_send_ok.mpr ⟨rfl, rfl⟩,
    Exec.bind_ok_iff.mpr ⟨generated, w, _, _, rfl, exec_send_ok.mpr ⟨hgen, rfl⟩,
    Exec.bind_ok_iff.mpr ⟨tls, w, [], _, rfl, Exec.ofExcept_iff.mpr ⟨rfl, hb.symm, rfl⟩,
    Exec.bind_ok_iff.mpr ⟨(), w, _, [], rfl, exec_send_ok.mpr ⟨rfl, rfl⟩,
      Exec.ret_iff.mpr ⟨rfl, rfl, rfl⟩⟩⟩⟩⟩⟩

lemma exists_perform_createForShoot (generate : Generator) (w : World) (keepObjects : Bool)
    (ms : List Manifest) :
    ∃ s, w.perform generate (.createForShoot keepObjects ms) = (.ok (), s) := by
  simp only [World.perform]
  cases w.managedResource <;> exact ⟨_, rfl⟩

lemma handsOver_iff {shoot : Shoot} (ha : Awake w shoot) : HandsOver lib generate ex w ms ↔
    ∃ config, readConfig lib shoot.kubernetesVersion ex.providerConfig = .ok config ∧
      Renders lib generate ex config w ms := by
  constructor
  · rintro ⟨tr, out, w', e, keepObjects, he, hm, hc⟩
    rcases exec_reconcile_cases ha he with ⟨_, _, hget⟩ | ⟨cluster, e₀, tr', rfl, he₀, hrun⟩
    · rw [hget e hm] at hc
      cases hc
    · rcases List.mem_cons.mp hm with rfl | hm
      · rw [he₀] at hc
        cases hc
      · exact reconcileAwake_ships hrun hm hc
  · rintro ⟨config, hread, generated, tls, resources, hgen, hbundle, hbuild, rfl⟩
    obtain ⟨s, hs⟩ := exists_perform_createForShoot generate w false (manifestsOf resources)
    obtain ⟨trs, hsecrets⟩ := exec_reconcileSecrets_of hgen hbundle
    obtain ⟨cluster, e₀, hawake⟩ := exec_reconcile_of_awake lib generate ex ha
    obtain ⟨trr, out, w', hrest⟩ := exists_exec generate (sweep.attempt >>= fun _ =>
      reconcileNetpolController lib ex cluster config.manageDataPlaneNetworkPolicies) s
    have hbuilt : (buildResources lib config tls).mapError
        (GoError.wrap "failed to generate envoy-gateway resources") = .ok resources :=
          mapError_eq_ok.mpr hbuild
    have hdeploy : Exec (answers generate) (deploy lib config tls) w
        [⟨.createForShoot false (manifestsOf resources), .ok (), w, s⟩] (.ok ()) s :=
      Exec.bind_ok_iff.mpr ⟨resources, w, [], _, rfl, Exec.ofExcept_iff.mpr ⟨rfl, hbuilt.symm, rfl⟩,
        exec_send_ok.mpr ⟨hs, rfl⟩⟩
    have hrun := hawake _ out w' (Exec.bind_iff.mpr (Or.inr ⟨config, w, [], _, rfl,
      Exec.ofExcept_iff.mpr ⟨rfl, hread.symm, rfl⟩,
      Exec.bind_iff.mpr (Or.inr ⟨tls, w, trs, _, rfl, Exec.mapFault_ok_iff.mpr hsecrets,
        Exec.bind_iff.mpr
          (Or.inr ⟨(), s, _, trr, rfl, Exec.mapFault_ok_iff.mpr hdeploy, hrest⟩)⟩)⟩))
    exact ⟨_, out, w', ⟨.createForShoot false (manifestsOf resources), .ok (), w, s⟩, false,
      hrun, by simp, rfl⟩

end Shipping

end EnvoyGatewayExtension.Actuator
