import EnvoyGatewayExtension.EnvoyGateway.Listing
import EnvoyGatewayExtension.EnvoyGateway.XdsHop
import EnvoyGatewayExtension.Kubernetes.References

namespace EnvoyGatewayExtension.EnvoyGateway

open Kubernetes Stores

variable {lib : Libraries} {config : Config} {tls : TLSBundle} {r : Resources} {deploy : Manifest}

section Names

def tlsSecretKey : ObjectKey := ⟨"", kindSecret, «namespace», tlsSecretName⟩

lemma key_listed {n : String} {m : Manifest} (h : buildResources lib config tls = .ok r)
    (hd : deployment lib config = .ok deploy) (hm : (n, [m]) ∈ ownObjects lib config tls deploy) :
    m.key ∈ (manifestsOf r).map Manifest.key :=
  List.mem_map_of_mem (mem_of_own h hd hm (List.mem_singleton.mpr rfl))

lemma fixed_key_listed {n : String} {m : Manifest} (h : buildResources lib config tls = .ok r)
    (hd : deployment lib config = .ok deploy) (hm : (n, [m]) ∈ fixedObjects config deploy) :
    m.key ∈ (manifestsOf r).map Manifest.key :=
  List.mem_map_of_mem (fixed_listed h hd hm (List.mem_singleton.mpr rfl))

lemma references_roleBindingNamed {kind ns name roleKind account : String} {k : ObjectKey}
    (hk : k ∈ (roleBindingNamed kind ns name roleKind account).references) :
    k = roleKey ⟨apiGroupRBAC, roleKind, name⟩ ns ∨ k = (serviceAccountNamed account).key := by
  simpa [Manifest.references, roleBindingNamed, serviceAccountNamed] using hk

lemma references_deployment (hd : deployment lib config = .ok deploy) : deploy.references =
    [serviceAccount.key, (configMap config).key, tlsSecretKey] := by
  obtain ⟨image, _, hd⟩ := bind_eq_ok.mp hd
  cases hd
  rfl

lemma references_listed (h : buildResources lib config tls = .ok r)
    (hd : deployment lib config = .ok deploy) :
    ∀ e ∈ ownObjects lib config tls deploy, ∀ m ∈ e.2, ∀ k ∈ m.references,
      k ∈ (manifestsOf r).map Manifest.key ∨ k = tlsSecretKey ∧ m = deploy := by
  have hserviceAccount : serviceAccount.key ∈ (manifestsOf r).map Manifest.key :=
    @fixed_key_listed _ _ _ _ _ "serviceaccount.yaml" _ h hd (by simp [fixedObjects])
  intro e he m hm k hk
  simp only [ownObjects, List.mem_append] at he
  rcases he with ((he | he) | he) | he
  · simp only [fixedObjects, List.mem_cons, List.not_mem_nil, or_false] at he
    rcases he with rfl | rfl | rfl | rfl | rfl | rfl | rfl | rfl | rfl | rfl | rfl <;>
      rw [List.mem_singleton.mp hm] at hk ⊢
    · cases hk
    · cases hk
    · cases hk
    · refine Or.inl ?_
      rcases references_roleBindingNamed hk with rfl | rfl
      · exact @fixed_key_listed _ _ _ _ _ "clusterrole.yaml" clusterRole h hd
          (by simp [fixedObjects])
      · exact hserviceAccount
    · cases hk
    · refine Or.inl ?_
      rcases references_roleBindingNamed hk with rfl | rfl
      · exact @fixed_key_listed _ _ _ _ _ "role.yaml" leaderElectionRole h hd
          (by simp [fixedObjects])
      · exact hserviceAccount
    · rw [references_deployment hd] at hk
      simp only [List.mem_cons, List.not_mem_nil, or_false] at hk
      rcases hk with rfl | rfl | rfl
      · exact Or.inl hserviceAccount
      · exact Or.inl (@fixed_key_listed _ _ _ _ _ "configmap.yaml" _ h hd (by simp [fixedObjects]))
      · exact Or.inr ⟨rfl, rfl⟩
    · cases hk
    · cases hk
    · cases hk
    · rw [List.mem_singleton.mp hk]
      exact Or.inl (List.mem_map_of_mem (envoyProxyDefaults_listed h))
  · rcases mem_secretObjects he with rfl | rfl | rfl <;>
      rw [List.mem_singleton.mp hm] at hk <;> cases hk
  · rcases List.mem_cons.mp he with rfl | he
    · rw [List.mem_singleton.mp hm] at hk
      cases hk
    · split_ifs at he with hsupported
      · rw [List.mem_singleton.mp he] at hm
        simp only [List.mem_cons, List.not_mem_nil, or_false] at hm
        rcases hm with rfl | rfl
        · cases hk
        · rw [List.mem_singleton.mp hk]
          have hguard : envoyProxyGuard.1 ∈ manifestsOf r := by
            have hentry :
                ("validatingadmissionpolicy.yaml", [envoyProxyGuard.1, envoyProxyGuard.2]) ∈
                ownObjects lib config tls deploy := by
              simp [ownObjects, proxyObjects, hsupported]
            exact mem_of_own h hd hentry List.mem_cons_self
          exact Or.inl (List.mem_map_of_mem hguard)
      · cases he
  · rw [netpolControllerObjects] at he
    split_ifs at he with henabled
    · simp only [List.mem_cons, List.not_mem_nil, or_false] at he
      rcases he with rfl | rfl | rfl <;> rw [List.mem_singleton.mp hm] at hk
      · cases hk
      · cases hk
      · refine Or.inl ?_
        rcases references_roleBindingNamed hk with rfl | rfl
        · exact @key_listed _ _ _ _ _ "netpol-controller-clusterrole.yaml"
            netpolControllerClusterRole h hd
            (by simp [ownObjects, netpolControllerObjects, henabled])
        · exact @key_listed _ _ _ _ _ "netpol-controller-serviceaccount.yaml"
            netpolControllerServiceAccount h hd
            (by simp [ownObjects, netpolControllerObjects, henabled])
    · cases he

def HasServerMaterial (tls : TLSBundle) : Prop :=
  tls.certPEM ≠ [] ∨ tls.keyPEM ≠ [] ∨ tls.caPEM ≠ []

lemma hasServerMaterial_of_own {ms : List Manifest}
    (he : ("secret-tls.yaml", ms) ∈ ownObjects lib config tls deploy) : HasServerMaterial tls := by
  simp only [ownObjects, secretObjects, List.mem_append] at he
  rcases he with ((he | (he | he) | he) | he) | he
  · simp [fixedObjects] at he
  · split_ifs at he with hmaterial
    · exact hmaterial
    · cases he
  · split_ifs at he <;> simp at he
  · split_ifs at he <;> simp at he
  · rcases List.mem_cons.mp he with he | he
    · simp at he
    · split_ifs at he <;> simp at he
  · rw [netpolControllerObjects] at he
    split_ifs at he <;> simp at he

lemma tlsSecretKey_listed_iff (h : buildResources lib config tls = .ok r) :
    tlsSecretKey ∈ (manifestsOf r).map Manifest.key ↔ HasServerMaterial tls := by
  constructor
  · intro hk
    obtain ⟨m, hm, hkey⟩ := List.mem_map.mp hk
    obtain ⟨n, ms, hl, hm⟩ := mem_manifestsOf.mp hm
    obtain ⟨deploy, hd, hlookup⟩ := lookup_buildResources h
    rcases (hlookup n ms).mp hl with ho | ⟨_, hc⟩
    · have hentry : entryKeys (n, ms) ∈ ownKeys :=
        (ownObjects_keys hd).subset (List.mem_map_of_mem ho)
      have hname : ∀ e ∈ ownKeys, tlsSecretKey ∈ e.2 → e.1 = "secret-tls.yaml" := by decide
      obtain rfl : n = "secret-tls.yaml" := hname _ hentry (hkey ▸ List.mem_map_of_mem hm)
      exact hasServerMaterial_of_own ho
    · obtain ⟨d, _, hkind, rfl⟩ := of_lookup_addCRDs hc
      rw [List.mem_singleton.mp hm] at hkey
      exact absurd (hkind.symm.trans (congrArg ObjectKey.kind hkey)) (by decide)
  · intro htls
    have hsecret : ("secret-tls.yaml", [tlsSecret tls]) ∈ secretObjects tls := by
      rw [HasServerMaterial] at htls
      simp [secretObjects, htls]
    exact List.mem_map_of_mem (secret_listed h hsecret)

lemma closed_iff (h : buildResources lib config tls = .ok r) :
    Closed (manifestsOf r) ↔ HasServerMaterial tls := by
  rw [← tlsSecretKey_listed_iff h]
  constructor
  · intro hc
    obtain ⟨deploy, hd, _⟩ := lookup_buildResources h
    have hlisted : deploy ∈ manifestsOf r :=
      @fixed_listed _ _ _ _ ("deployment.yaml", [deploy]) _ _ h hd (by simp [fixedObjects])
        (List.mem_singleton.mpr rfl)
    exact hc deploy hlisted _ (by simp [references_deployment hd])
  · intro htls
    refine (only_buildResources h (fun deploy hd e he m hm k hk => ?_)
      fun _ d _ _ k hk => ?_).manifests
    · rcases references_listed h hd e he m hm k hk with hlisted | ⟨rfl, _⟩
      · exact hlisted
      · exact htls
    · cases hk

end Names

section Labels

lemma podSelectors_deployment (hd : deployment lib config = .ok deploy) :
    ∀ s ∈ deploy.podSelectors, deploy.key.namespace = «namespace» ∧
    s = ⟨controlPlaneSelector, []⟩ := by
  obtain ⟨image, _, hd⟩ := bind_eq_ok.mp hd
  cases hd
  simp [Manifest.podSelectors]

lemma podSelectors_listed (h : buildResources lib config tls = .ok r) :
    ∀ m ∈ manifestsOf r, ∀ s ∈ m.podSelectors,
      m.key.namespace = «namespace» ∧ s = ⟨controlPlaneSelector, []⟩ := by
  refine (only_buildResources h (fun deploy hd => ?_) fun _ d _ _ s hs => by cases hs).manifests
  have hconstant : ∀ m ∈ constantObjects, ∀ s ∈ m.podSelectors,
      m.key.namespace = «namespace» ∧ s = ⟨controlPlaneSelector, []⟩ := by decide +kernel
  refine ownObjects_forall hconstant (podSelectors_deployment hd) (by rintro s ⟨⟩)
    (fun m hm s hs => ?_) (by rintro s ⟨⟩)
  rcases eq_of_mem_shippedSecrets hm with rfl | rfl | rfl <;> cases hs

lemma podSpec_of_creates {m : Manifest} {pod : Pod} (h : m.Creates pod) :
    m.podSpec.isSome = true := by
  obtain ⟨key, labels, annotations, body⟩ := m
  cases body with
  | deployment spec => rfl
  | _ => exact absurd h not_false

end Labels

section Ports

lemma podPorts_listed (h : buildResources lib config tls = .ok r) (image : String) :
    ∀ m ∈ manifestsOf r, ∀ p ∈ m.podPorts, (controlPlaneContainer image).Listens p := by
  refine (only_buildResources h (fun deploy hd => ?_) fun _ d _ _ p hp => by cases hp).manifests
  have hports : ∀ m ∈ constantObjects, ∀ p ∈ m.podPorts, p ∈
      [(IntOrString.str "grpc-xds", Protocol.tcp), (.str "metrics", .tcp), (.int 18000, .tcp),
        (.int 19001, .tcp)] := by
    decide +kernel
  refine ownObjects_forall (fun m hm p hp => ?_) ?_ (by rintro p ⟨⟩) (fun m hm p hp => ?_)
    (by rintro p ⟨⟩)
  · have hin := hports m hm p hp
    simp only [List.mem_cons, List.not_mem_nil, or_false] at hin
    rcases hin with rfl | rfl | rfl | rfl <;> simp [Container.Listens, controlPlaneContainer]
  · obtain ⟨image, _, hd⟩ := bind_eq_ok.mp hd
    cases hd
    rintro p ⟨⟩
  · rcases eq_of_mem_shippedSecrets hm with rfl | rfl | rfl <;> cases hp

def controlPlaneVolumes : List Volume :=
  [⟨"config", .configMap configMapName⟩, ⟨"certs", .secret tlsSecretName⟩,
    ⟨"wasm-cache", .emptyDir "100Mi"⟩]

lemma controlPlane_pod {pod : PodSpec} (hd : deployment lib config = .ok deploy)
    (hpod : deploy.podSpec = some pod) :
    pod.volumes = controlPlaneVolumes ∧
    ∃ image, pod.containers = [controlPlaneContainer image] := by
  obtain ⟨image, _, hd⟩ := bind_eq_ok.mp hd
  cases hd
  cases hpod
  exact ⟨rfl, image, rfl⟩

lemma deployment_of_podSpec (h : buildResources lib config tls = .ok r) : ∀ d ∈ manifestsOf r,
    d.podSpec.isSome = true → deployment lib config = .ok d := by
  refine (only_buildResources h (fun deploy hd => ?_) fun _ d _ _ hpod => by cases hpod).manifests
  have hconstant : ∀ m ∈ constantObjects, m.podSpec.isSome = false := by decide +kernel
  refine ownObjects_forall (fun m hm hpod => ?_) (fun _ => hd) (by rintro ⟨⟩)
    (fun m hm hpod => ?_) (by rintro ⟨⟩)
  · rw [hconstant m hm] at hpod
    cases hpod
  · rcases eq_of_mem_shippedSecrets hm with rfl | rfl | rfl <;> cases hpod

lemma coherent_controlPlane {pod : PodSpec} {image : String}
    (hv : pod.volumes = controlPlaneVolumes)
    (hc : pod.containers = [controlPlaneContainer image]) : pod.Coherent := by
  refine ⟨?_, ?_, ?_⟩
  · rw [hv]
    decide
  · rw [hv, hc]
    intro c hc mount hmount
    rw [List.mem_singleton.mp hc] at hmount
    have hmounts : ∀ mount ∈ (controlPlaneContainer "").volumeMounts,
        mount.name ∈ controlPlaneVolumes.map Volume.name := by decide
    exact hmounts mount hmount
  · rw [hc]
    intro c hc probe hprobe
    rw [List.mem_singleton.mp hc] at hprobe ⊢
    have hport : probe.port = 8081 := by
      rcases hprobe with hprobe | hprobe <;> cases hprobe <;> rfl
    exact ⟨⟨"health", 8081, .tcp⟩, by simp [controlPlaneContainer], hport.symm, rfl⟩

lemma configPath_eq {image path : String}
    (h : "--config-path=" ++ path ∈ (controlPlaneContainer image).args) :
    path = configMountPath ++ "/" ++ configFileName := by
  simp only [controlPlaneContainer, List.mem_cons, List.not_mem_nil, or_false] at h
  rcases h with h | h
  · have hlist := congrArg String.toList h
    rw [String.toList_append] at hlist
    exact absurd hlist (by simp)
  · have hlist := congrArg String.toList h
    simp only [String.toList_append] at hlist
    apply String.toList_injective
    simpa [String.toList_append] using hlist

lemma configFile_provided {pod : PodSpec} {image path : String}
    (h : buildResources lib config tls = .ok r) (hv : pod.volumes = controlPlaneVolumes)
    (hpath : "--config-path=" ++ path ∈ (controlPlaneContainer image).args) :
    Provides (manifestsOf r) «namespace» pod (controlPlaneContainer image) path := by
  obtain ⟨deploy, hd, _⟩ := lookup_buildResources h
  have hlisted : configMap config ∈ manifestsOf r :=
    @fixed_listed _ _ _ _ ("configmap.yaml", [configMap config]) _ _ h hd (by simp [fixedObjects])
      List.mem_cons_self
  refine ⟨⟨"config", configMountPath, true⟩, List.mem_cons_self,
    ⟨"config", .configMap configMapName⟩, ?_, rfl,
    configMap config, hlisted, rfl, configFileName, ?_, configPath_eq hpath⟩
  · rw [hv]
    exact List.mem_cons_self
  · rw [Manifest.fileNames, configMap]
    exact Finmap.mem_keys.mpr (Finmap.mem_of_lookup_eq_some
      ((Labels.lookup_ofList (by simp)).mpr (List.mem_singleton.mpr rfl)))

end Ports

section Kinds

def customGroups : List String := [apiGroupGatewayAPI, apiGroupEnvoyGateway]

def customKinds : List (String × String) :=
  [(apiGroupGatewayAPI, "GatewayClass"), (apiGroupEnvoyGateway, "EnvoyProxy")]

lemma customKinds_defined : ∀ (experimental : Bool), ∀ k ∈ customKinds,
      (addCRDs experimental ∅).items.any (fun e =>
    e.2.any fun m => m.body == .customResourceDefinition k.1 k.2) = true := by
  decide +kernel

lemma defined_listed (h : buildResources lib config tls = .ok r)
    (hmanage : config.manageCRDs = true) : ∀ k ∈ customKinds, Defined (manifestsOf r) k.1 k.2 := by
  intro k hk
  obtain ⟨⟨n, ms⟩, he, hany⟩ :=
    List.any_eq_true.mp (customKinds_defined config.experimentalFeatures k hk)
  obtain ⟨m, hm, hbody⟩ := List.any_eq_true.mp hany
  obtain ⟨deploy, _, hl⟩ := lookup_buildResources h
  refine ⟨m,
    mem_manifestsOf.mpr ⟨n, ms, (hl n ms).mpr (Or.inr ⟨hmanage, Store.mem_items.mp he⟩), hm⟩, ?_⟩
  exact beq_iff_eq.mp hbody

lemma customKinds_listed (h : buildResources lib config tls = .ok r) : ∀ m ∈ manifestsOf r,
    m.key.group ∈ customGroups → (m.key.group, m.key.kind) ∈ customKinds := by
  refine (only_buildResources h (fun deploy hd => ?_) fun _ d _ _ hg => ?_).manifests
  · have hconstant : ∀ m ∈ constantObjects, m.key.group ∈ customGroups →
      (m.key.group, m.key.kind) ∈ customKinds := by
      decide +kernel
    have hempty : "" ∉ customGroups := by decide
    refine ownObjects_forall hconstant ?_ (fun hg => absurd hg hempty)
      (fun m hm hg => ?_) fun _ => ?_
    · rw [(deployment_key hd).1]
      decide
    · rcases eq_of_mem_shippedSecrets hm with rfl | rfl | rfl <;> exact absurd hg hempty
    · exact List.mem_cons_of_mem _ List.mem_cons_self
  · exact absurd hg (by decide : apiExtensionsGroup ∉ customGroups)

end Kinds

theorem references_resolve {lib : Libraries} {config : Config} {tls : TLSBundle} {r : Resources}
    (h : buildResources lib config tls = .ok r) :
    (Closed (manifestsOf r) ↔ HasServerMaterial tls) ∧
    (∀ m ∈ manifestsOf r, ∀ s ∈ m.podSelectors,
      (∀ labels, ProxyLabelled labels → ¬ s.Matches labels) ∧
      ∀ d ∈ manifestsOf r, ∀ pod, d.Creates pod → pod.namespace = m.key.namespace ∧
        s.Matches pod.labels) ∧
    (∀ d ∈ manifestsOf r, ∀ spec, d.podSpec = some spec → spec.Coherent ∧
      (∀ m ∈ manifestsOf r, ∀ p ∈ m.podPorts, ∃ c ∈ spec.containers, c.Listens p) ∧
      ∀ c ∈ spec.containers, ∀ path, "--config-path=" ++ path ∈ c.args →
        Provides (manifestsOf r) d.key.namespace spec c path) ∧
    (config.manageCRDs = true → ∀ m ∈ manifestsOf r, m.key.group ∈ customGroups →
      Defined (manifestsOf r) m.key.group m.key.kind) := by
  refine ⟨closed_iff h, fun m hm s hs => ⟨fun labels hl hmatch => ?_, fun d hd pod hc => ?_⟩,
    fun d hd spec hpod => ?_,
    fun hmanage m hm hg => defined_listed h hmanage _ (customKinds_listed h m hm hg)⟩
  · rw [(podSelectors_listed h m hm s hs).2] at hmatch
    exact not_controlPlane_of_proxy hl (controlPlaneSelector_matches.mp hmatch)
  · obtain ⟨hns, rfl⟩ := podSelectors_listed h m hm s hs
    obtain ⟨hpod, hlabels⟩ :=
      deployment_creates (deployment_of_podSpec h d hd (podSpec_of_creates hc)) hc
    exact ⟨hpod.trans hns.symm, controlPlaneSelector_matches.mpr hlabels⟩
  · have hdeployment := deployment_of_podSpec h d hd (Option.isSome_iff_exists.mpr ⟨spec, hpod⟩)
    obtain ⟨hv, image, hcontainers⟩ := controlPlane_pod hdeployment hpod
    refine ⟨coherent_controlPlane hv hcontainers, fun m hm p hp => ?_, fun c hc path hpath => ?_⟩
    · rw [hcontainers]
      exact ⟨_, List.mem_singleton.mpr rfl, podPorts_listed h image m hm p hp⟩
    · rw [hcontainers] at hc
      rw [List.mem_singleton.mp hc] at hpath ⊢
      rw [(deployment_key hdeployment).1]
      exact configFile_provided h hv hpath

theorem references_resolve_sampled : ∃ r tls, buildResources (sampleLibraries {}) {} tls = .ok r ∧
    Closed (manifestsOf r) := by
  have hbuild : buildResources (sampleLibraries {}) {} { certPEM := [1] } = .ok _ := rfl
  exact ⟨_, _, hbuild, (references_resolve hbuild).1.mpr (Or.inl (List.cons_ne_nil 1 []))⟩

end EnvoyGatewayExtension.EnvoyGateway
