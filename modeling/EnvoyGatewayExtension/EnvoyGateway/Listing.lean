import EnvoyGatewayExtension.EnvoyGateway.Deployer

namespace EnvoyGatewayExtension.EnvoyGateway

open Kubernetes Stores

variable {lib : Libraries} {config : Config} {tls : TLSBundle} {r : Resources} {P : Manifest → Prop}

lemma mem_manifestsOf {m : Manifest} :
    m ∈ manifestsOf r ↔ ∃ n ms, r.lookup n = some ms ∧ m ∈ ms := by
  rw [manifestsOf, List.mem_flatMap]
  constructor
  · rintro ⟨⟨n, ms⟩, he, hm⟩
    exact ⟨n, ms, Store.mem_items.mp he, hm⟩
  · rintro ⟨n, ms, hl, hm⟩
    exact ⟨(n, ms), Store.mem_items.mpr hl, hm⟩

section Entries

def Only (P : Manifest → Prop) (r : Resources) : Prop :=
  ∀ n ms, r.lookup n = some ms → ∀ m ∈ ms, P m

def ownObjects (lib : Libraries) (config : Config) (tls : TLSBundle) (deploy : Manifest) :
    List (String × List Manifest) :=
  fixedObjects config deploy ++ secretObjects tls ++ proxyObjects lib config ++
    netpolControllerObjects config

def entryKeys (e : String × List Manifest) : String × List ObjectKey := (e.1, e.2.map Manifest.key)

def fixedKeys : List (String × List ObjectKey) :=
  [("serviceaccount.yaml", [⟨"", kindServiceAccount, «namespace», serviceAccountName⟩]),
    ("configmap.yaml", [⟨"", "ConfigMap", «namespace», configMapName⟩]),
    ("clusterrole.yaml", [⟨apiGroupRBAC, kindClusterRole, "", clusterRoleName⟩]),
    ("clusterrolebinding.yaml", [⟨apiGroupRBAC, kindClusterRoleBinding, "", clusterRoleName⟩]),
    ("role.yaml", [⟨apiGroupRBAC, "Role", «namespace», leaderElectionRoleName⟩]),
    ("rolebinding.yaml", [⟨apiGroupRBAC, "RoleBinding", «namespace», leaderElectionRoleName⟩]),
    ("deployment.yaml", [⟨"apps", "Deployment", «namespace», deploymentName⟩]),
    ("service.yaml", [⟨"", "Service", «namespace», deploymentName⟩]),
    ("poddisruptionbudget.yaml", [⟨"policy", "PodDisruptionBudget", «namespace», deploymentName⟩]),
    ("networkpolicy.yaml", [⟨"networking.k8s.io", "NetworkPolicy", «namespace», deploymentName⟩]),
    ("gatewayclass.yaml", [⟨apiGroupGatewayAPI, "GatewayClass", "", gatewayClassName⟩])]

def secretKeys : List (String × List ObjectKey) :=
  [("secret-tls.yaml", [⟨"", kindSecret, «namespace», tlsSecretName⟩]),
    ("secret-envoy.yaml", [⟨"", kindSecret, «namespace», envoySecretName⟩]),
    ("secret-hmac.yaml", [⟨"", kindSecret, «namespace», hmacSecretName⟩])]

def proxyKeys : List (String × List ObjectKey) :=
  [("envoyproxy-defaults.yaml",
    [⟨apiGroupEnvoyGateway, "EnvoyProxy", «namespace», envoyProxyDefaultsName⟩]),
    ("validatingadmissionpolicy.yaml",
      [⟨admissionRegistrationGroup, "ValidatingAdmissionPolicy", "", envoyProxyGuardPolicyName⟩,
        ⟨admissionRegistrationGroup, "ValidatingAdmissionPolicyBinding", "",
          envoyProxyGuardPolicyName⟩])]

def netpolControllerKeys : List (String × List ObjectKey) :=
  [("netpol-controller-serviceaccount.yaml",
    [⟨"", kindServiceAccount, «namespace», netpolControllerServiceAccountName⟩]),
    ("netpol-controller-clusterrole.yaml",
      [⟨apiGroupRBAC, kindClusterRole, "", netpolControllerClusterRoleName⟩]),
    ("netpol-controller-clusterrolebinding.yaml",
      [⟨apiGroupRBAC, kindClusterRoleBinding, "", netpolControllerClusterRoleName⟩])]

def ownKeys : List (String × List ObjectKey) :=
  fixedKeys ++ secretKeys ++ proxyKeys ++ netpolControllerKeys

lemma ownKeys_nodup : (ownKeys.map Prod.fst).Nodup := by decide +kernel

lemma deployment_key {deploy : Manifest} (h : deployment lib config = .ok deploy) :
    deploy.key = ⟨"apps", "Deployment", «namespace», deploymentName⟩ ∧
      deploy.labels = commonLabels ∧ deploy.annotations = .ofList [] := by
  obtain ⟨image, _, hd⟩ := bind_eq_ok.mp h
  cases hd
  exact ⟨rfl, rfl, rfl⟩

lemma map_if_sublist {α β : Type} (p : Prop) [Decidable p] (f : α → β) (xs : List α) :
    ((if p then xs else []).map f).Sublist (xs.map f) := by
  split
  · exact List.Sublist.refl _
  · exact List.nil_sublist _

lemma ownObjects_keys {deploy : Manifest} (hd : deployment lib config = .ok deploy) :
    ((ownObjects lib config tls deploy).map entryKeys).Sublist ownKeys := by
  have hfixed : ((fixedObjects config deploy).map entryKeys).Sublist fixedKeys := by
    have hkey : entryKeys ("deployment.yaml", [deploy]) =
        ("deployment.yaml", [⟨"apps", "Deployment", «namespace», deploymentName⟩]) :=
      Prod.ext rfl (congrArg (fun k => [k]) (deployment_key hd).1)
    simp only [fixedObjects, List.map_cons, List.map_nil, hkey]
    exact List.Sublist.refl fixedKeys
  have hsecrets : ((secretObjects tls).map entryKeys).Sublist secretKeys := by
    rw [secretObjects, List.map_append, List.map_append]
    exact ((map_if_sublist _ _ _).append (map_if_sublist _ _ _)).append (map_if_sublist _ _ _)
  have hproxy : ((proxyObjects lib config).map entryKeys).Sublist proxyKeys :=
    List.Sublist.cons_cons _ (map_if_sublist _ _ _)
  have hnetpol : ((netpolControllerObjects config).map entryKeys).Sublist netpolControllerKeys :=
    map_if_sublist _ _ _
  rw [ownObjects, List.map_append, List.map_append, List.map_append]
  exact ((hfixed.append hsecrets).append hproxy).append hnetpol

lemma ownObjects_names {deploy : Manifest} (hd : deployment lib config = .ok deploy) :
    ((ownObjects lib config tls deploy).map Prod.fst).Sublist (ownKeys.map Prod.fst) := by
  have hkeys : ((ownObjects lib config tls deploy).map entryKeys).Sublist ownKeys :=
    ownObjects_keys hd
  have hnames := hkeys.map Prod.fst
  rw [List.map_map] at hnames
  exact hnames

lemma lookup_copyResources (dst src : Resources) (n : String) :
    (copyResources dst src).lookup n = (src.lookup n).or (dst.lookup n) :=
  Store.lookup_foldl_items dst src n

lemma lookup_addCRDs (experimental : Bool) (n : String) :
    (addCRDs experimental r).lookup n = ((addCRDs experimental ∅).lookup n).or (r.lookup n) := by
  unfold addCRDs
  cases experimental <;> simp [lookup_copyResources, Option.or_assoc]

lemma ownKeys_fresh : ∀ (experimental : Bool), ∀ n ∈ ownKeys.map Prod.fst,
      (addCRDs experimental ∅).lookup n = none := by
  decide +kernel

lemma lookup_buildResources (h : buildResources lib config tls = .ok r) :
    ∃ deploy, deployment lib config = .ok deploy ∧
    ∀ n ms, r.lookup n = some ms ↔ (n, ms) ∈ ownObjects lib config tls deploy ∨
      config.manageCRDs = true ∧ (addCRDs config.experimentalFeatures ∅).lookup n = some ms := by
  -- an entry is one of the extension's own or one of the CustomResourceDefinitions: no two share a
  -- name
  obtain ⟨deploy, hd, hr⟩ := bind_eq_ok.mp h
  cases hr
  refine ⟨deploy, hd, fun n ms => ?_⟩
  have hsub : ((ownObjects lib config tls deploy).map Prod.fst).Sublist _ := ownObjects_names hd
  have hnames := ownKeys_nodup.sublist hsub
  rw [ownObjects, List.map_append] at hnames
  obtain ⟨hbase, hnetpol, hdisj⟩ := List.nodup_append.mp hnames
  rw [addAll, Store.lookup_foldl_insert_iff hnetpol, ownObjects, List.mem_append]
  by_cases hn : n ∈ ownKeys.map Prod.fst
  · have hcrd : ∀ s : Resources, (if config.manageCRDs then addCRDs config.experimentalFeatures s
        else s).lookup n = s.lookup n := by
      intro s
      split
      · rw [lookup_addCRDs, ownKeys_fresh _ n hn, Option.none_or]
      · rfl
    rw [hcrd, addAll, Store.lookup_foldl_insert_iff hbase, ownKeys_fresh _ n hn]
    have hlater : (n, ms) ∈ fixedObjects config deploy ++ secretObjects tls ++
        proxyObjects lib config → n ∉ (netpolControllerObjects config).map Prod.fst :=
      fun hm hm' => hdisj n (List.mem_map_of_mem hm) n hm' rfl
    simp only [AList.lookup_empty, reduceCtorEq, and_false, or_false]
    constructor
    · rintro (hm | ⟨_, hm⟩)
      · exact Or.inr hm
      · exact Or.inl hm
    · rintro (hm | hm)
      · exact Or.inr ⟨hlater hm, hm⟩
      · exact Or.inl hm
  · have hown : n ∉ (ownObjects lib config tls deploy).map Prod.fst := fun hm => hn (hsub.subset hm)
    rw [ownObjects, List.map_append, List.mem_append, not_or] at hown
    have hb : (n, ms) ∉ fixedObjects config deploy ++ secretObjects tls ++
      proxyObjects lib config :=
      fun hm => hown.1 (List.mem_map_of_mem hm)
    have hc : (n, ms) ∉ netpolControllerObjects config := fun hm => hown.2 (List.mem_map_of_mem hm)
    have hnone : (addAll ∅
        (fixedObjects config deploy ++ secretObjects tls ++ proxyObjects lib config)).lookup n =
        none := Store.lookup_foldl_insert_of_not_mem hown.1
    simp only [hb, hc, hown.2, or_false, false_or, not_false_eq_true, true_and]
    split_ifs with hm
    · rw [lookup_addCRDs, hnone, Option.or_none]
      simp [hm]
    · rw [hnone]
      simp [hm]

lemma mem_of_own {deploy m : Manifest} {e : String × List Manifest}
    (h : buildResources lib config tls = .ok r)
    (hd : deployment lib config = .ok deploy) (he : e ∈ ownObjects lib config tls deploy)
    (hm : m ∈ e.2) : m ∈ manifestsOf r := by
  obtain ⟨deploy', hd', hl⟩ := lookup_buildResources h
  rw [hd] at hd'
  cases hd'
  exact mem_manifestsOf.mpr ⟨e.1, e.2, (hl _ _).mpr (Or.inl he), hm⟩

lemma splitCRDs_eq (raw : List Document) (stem : String) (keepGroups : Option (List String)) :
    splitCRDs raw stem keepGroups =
      (raw.filter fun crd => !(decide (crd.kind ≠ crdKind ∨ crd.name = "")) &&
      !keepGroups.any (fun groups => crd.group ∉ groups)).foldl
        (fun result crd => result.insert ("crd-" ++ stem ++ "-" ++ crd.name ++ ".yaml")
          [crd.manifest]) ∅ := by
  rw [List.foldl_filter, splitCRDs]
  congr 1
  funext result crd
  by_cases hk : crd.kind ≠ crdKind ∨ crd.name = ""
  · simp [hk]
  · cases hg : keepGroups.any fun groups => crd.group ∉ groups <;> simp [hk]

lemma of_lookup_splitCRDs {raw : List Document} {stem n : String}
    {keepGroups : Option (List String)}
    {ms : List Manifest} (h : (splitCRDs raw stem keepGroups).lookup n = some ms) :
    ∃ d ∈ raw, d.kind = crdKind ∧ ms = [d.manifest] := by
  rw [splitCRDs_eq] at h
  rcases Store.of_lookup_foldl_insert h with ⟨d, hd, _, rfl⟩ | hs
  · obtain ⟨hraw, hkeep⟩ := List.mem_filter.mp hd
    refine ⟨d, hraw, ?_, rfl⟩
    by_contra hk
    simp [hk] at hkeep
  · simp at hs

lemma of_lookup_addCRDs {experimental : Bool} {n : String} {ms : List Manifest}
    (h : (addCRDs experimental ∅).lookup n = some ms) :
    ∃ d ∈ gatewayAPIStandardYAML ++ gatewayAPIExperimentalYAML ++ envoyGatewayCRDsYAML,
      d.kind = crdKind ∧ ms = [d.manifest] := by
  have hcases : (splitCRDs envoyGatewayCRDsYAML "envoy-gateway"
      (some [apiGroupEnvoyGateway])).lookup n = some ms ∨
      (splitCRDs gatewayAPIExperimentalYAML "gateway-api-experimental" none).lookup n = some ms ∨
      (splitCRDs gatewayAPIStandardYAML "gateway-api" none).lookup n = some ms := by
    unfold addCRDs at h
    cases experimental <;> simp [lookup_copyResources, Option.or_eq_some_iff] at h <;> tauto
  rcases hcases with h | h | h <;> obtain ⟨d, hd, hk, rfl⟩ := of_lookup_splitCRDs h <;>
    exact ⟨d, by simp [hd], hk, rfl⟩

lemma only_buildResources (h : buildResources lib config tls = .ok r)
    (hown : ∀ deploy, deployment lib config = .ok deploy → ∀ e ∈ ownObjects lib config tls deploy,
      ∀ m ∈ e.2, P m)
    (hcrd : config.manageCRDs = true →
      ∀ d ∈ gatewayAPIStandardYAML ++ gatewayAPIExperimentalYAML ++ envoyGatewayCRDsYAML,
        d.kind = crdKind → P d.manifest) : Only P r := by
  obtain ⟨deploy, hd, hl⟩ := lookup_buildResources h
  intro n ms hn m hm
  rcases (hl n ms).mp hn with ho | ⟨hmanage, hc⟩
  · exact hown deploy hd _ ho m hm
  · obtain ⟨d, hd, hk, rfl⟩ := of_lookup_addCRDs hc
    rw [List.mem_singleton.mp hm]
    exact hcrd hmanage d hd hk

lemma Only.manifests (h : Only P r) : ∀ m ∈ manifestsOf r, P m := by
  intro m hm
  obtain ⟨n, ms, hl, hm⟩ := mem_manifestsOf.mp hm
  exact h n ms hl m hm

end Entries

section Groups

def gatewayAPICRDKeys : List ObjectKey :=
  ((gatewayAPIStandardYAML ++ gatewayAPIExperimentalYAML ++ envoyGatewayCRDsYAML).filter fun d =>
    d.kind == crdKind && d.group == apiGroupGatewayAPI).map fun d => d.manifest.key

lemma gatewayAPICRDKeys_group : ∀ k ∈ gatewayAPICRDKeys, k.group = apiExtensionsGroup := by decide

def Plain (m : Manifest) : Prop := m.key.group ≠ apiExtensionsGroup ∧ m.annotations = .ofList []

def Ordinary (m : Manifest) : Prop := Plain m ∧ m.key.kind ≠ kindSecret

def shippedSecrets (tls : TLSBundle) : List Manifest :=
  [tlsSecret tls, envoyClientSecret tls, hmacSecret tls]

def constantObjects : List Manifest :=
  [serviceAccount, clusterRole, clusterRoleBinding, leaderElectionRole,
    leaderElectionRoleBinding, service,
    podDisruptionBudget, networkPolicy, gatewayClass, envoyProxyGuard.1, envoyProxyGuard.2,
    netpolControllerServiceAccount, netpolControllerClusterRole, netpolControllerClusterRoleBinding]

lemma eq_of_mem_shippedSecrets {m : Manifest} (hm : m ∈ shippedSecrets tls) :
    m = tlsSecret tls ∨ m = envoyClientSecret tls ∨ m = hmacSecret tls := by
  simpa only [shippedSecrets, List.mem_cons, List.not_mem_nil, or_false] using hm

lemma mem_secretObjects {e : String × List Manifest} (he : e ∈ secretObjects tls) :
    e = ("secret-tls.yaml", [tlsSecret tls]) ∨ e = ("secret-envoy.yaml", [envoyClientSecret tls]) ∨
      e = ("secret-hmac.yaml", [hmacSecret tls]) := by
  simp only [secretObjects, List.mem_append] at he
  rcases he with (he | he) | he <;> split_ifs at he <;> simp_all

lemma ownObjects_forall {deploy : Manifest} (hconstant : ∀ m ∈ constantObjects, P m)
    (hdeploy : P deploy) (hconfig : P (configMap config)) (hsecrets : ∀ m ∈ shippedSecrets tls, P m)
    (hproxy : P (envoyProxyDefaults lib config)) :
    ∀ e ∈ ownObjects lib config tls deploy, ∀ m ∈ e.2, P m := by
  have hall : ∀ m ∈ (ownObjects lib config tls deploy).flatMap Prod.snd,
      m ∈ constantObjects ∨ m = deploy ∨ m = configMap config ∨ m ∈ shippedSecrets tls ∨
        m = envoyProxyDefaults lib config := by
    intro m hm
    obtain ⟨e, he, hm⟩ := List.mem_flatMap.mp hm
    simp only [ownObjects, List.mem_append] at he
    rcases he with ((he | he) | he) | he
    · simp only [fixedObjects, List.mem_cons, List.not_mem_nil, or_false] at he
      rcases he with rfl | rfl | rfl | rfl | rfl | rfl | rfl | rfl | rfl | rfl | rfl <;>
        rw [List.mem_singleton.mp hm] <;> simp [constantObjects]
    · rcases mem_secretObjects he with rfl | rfl | rfl <;> rw [List.mem_singleton.mp hm] <;>
        simp [shippedSecrets]
    · rcases List.mem_cons.mp he with rfl | he
      · rw [List.mem_singleton.mp hm]
        simp
      · split_ifs at he
        · rw [List.mem_singleton.mp he] at hm
          simp only [List.mem_cons, List.not_mem_nil, or_false] at hm
          rcases hm with rfl | rfl <;> simp [constantObjects]
        · exact absurd he List.not_mem_nil
    · unfold netpolControllerObjects at he
      split_ifs at he
      · simp only [List.mem_cons, List.not_mem_nil, or_false] at he
        rcases he with rfl | rfl | rfl <;> rw [List.mem_singleton.mp hm] <;> simp [constantObjects]
      · exact absurd he List.not_mem_nil
  intro e he m hm
  rcases hall m (List.mem_flatMap.mpr ⟨e, he, hm⟩) with h | rfl | rfl | h | rfl
  · exact hconstant m h
  · exact hdeploy
  · exact hconfig
  · exact hsecrets m h
  · exact hproxy

lemma constantObjects_ordinary : ∀ m ∈ constantObjects, Ordinary m := by
  simp only [Ordinary, Plain]
  decide +kernel

lemma ordinary_of {m : Manifest} {g k : String} (hg : m.key.group = g) (hk : m.key.kind = k)
    (ha : m.annotations = .ofList []) (hg' : g ≠ apiExtensionsGroup) (hk' : k ≠ kindSecret) :
    Ordinary m := by
  subst hg hk
  exact ⟨⟨hg', ha⟩, hk'⟩

lemma shippedSecrets_plain : ∀ m ∈ shippedSecrets tls, Plain m := by
  intro m hm
  simp only [shippedSecrets, List.mem_cons, List.not_mem_nil, or_false] at hm
  rcases hm with rfl | rfl | rfl <;> exact ⟨ne_of_eq_of_ne (b := "") rfl (by decide), rfl⟩

lemma ownObjects_cases {deploy : Manifest} (hd : deployment lib config = .ok deploy) :
    ∀ e ∈ ownObjects lib config tls deploy, ∀ m ∈ e.2, Ordinary m ∨ m ∈ shippedSecrets tls := by
  obtain ⟨hkey, _, hann⟩ := deployment_key hd
  refine ownObjects_forall (fun m hm => Or.inl (constantObjects_ordinary m hm))
    (Or.inl ?_) (Or.inl ?_) (fun m hm => Or.inr hm) (Or.inl ?_)
  · exact ordinary_of (g := "apps") (k := "Deployment") (by rw [hkey]) (by rw [hkey]) hann
      (by decide) (by decide)
  · exact ordinary_of (g := "") (k := "ConfigMap") rfl rfl rfl (by decide) (by decide)
  · exact ordinary_of (g := apiGroupEnvoyGateway) (k := "EnvoyProxy") rfl rfl rfl
      (by decide) (by decide)

lemma ownObjects_plain {deploy : Manifest} (hd : deployment lib config = .ok deploy) :
    ∀ e ∈ ownObjects lib config tls deploy, ∀ m ∈ e.2, Plain m := by
  intro e he m hm
  rcases ownObjects_cases hd e he m hm with ho | hs
  · exact ho.1
  · exact shippedSecrets_plain m hs

lemma buildResources_annotations (h : buildResources lib config tls = .ok r) (key : String)
    (hkey : ∀ d ∈ gatewayAPIStandardYAML ++ gatewayAPIExperimentalYAML ++ envoyGatewayCRDsYAML,
      d.annotations.lookup key = none) : ∀ m ∈ manifestsOf r, m.annotations.lookup key = none := by
  have honly : Only (fun m => m.annotations.lookup key = none) r := by
    refine only_buildResources h (fun deploy hd e he m hm => ?_) fun _ d hd _ => hkey d hd
    rw [(ownObjects_plain hd e he m hm).2]
    rfl
  exact honly.manifests

lemma not_mem_of_not_manageCRDs (h : buildResources lib config tls = .ok r)
    (hm : config.manageCRDs = false) :
    ∀ k ∈ gatewayAPICRDKeys, k ∉ (manifestsOf r).map Manifest.key := by
  have honly : Only (fun m => m.key.group ≠ apiExtensionsGroup) r := by
    refine only_buildResources h (fun deploy hd e he m hm => (ownObjects_plain hd e he m hm).1)
      fun ht => ?_
    rw [hm] at ht
    cases ht
  intro k hk hmem
  obtain ⟨m, hm, rfl⟩ := List.mem_map.mp hmem
  exact honly.manifests m hm (gatewayAPICRDKeys_group _ hk)

def standardEntry (d : Document) : String := "crd-gateway-api-" ++ d.name ++ ".yaml"

lemma standardEntry_listed : ∀ (experimental : Bool), ∀ d ∈ gatewayAPIGroupDocuments "standard",
    ((addCRDs experimental ∅).lookup (standardEntry d)).any
      (fun ms => ms.map Manifest.key == [d.manifest.key]) = true := by
  decide +kernel

lemma gatewayAPICRDKeys_standard :
    ∀ k ∈ gatewayAPICRDKeys, k ∈ (gatewayAPIGroupDocuments "standard").map
    fun d => d.manifest.key := by
  decide +kernel

lemma mem_of_manageCRDs (h : buildResources lib config tls = .ok r)
    (hm : config.manageCRDs = true) :
    ∀ k ∈ gatewayAPICRDKeys, k ∈ (manifestsOf r).map Manifest.key := by
  intro k hk
  obtain ⟨d, hd, rfl⟩ := List.mem_map.mp (gatewayAPICRDKeys_standard k hk)
  obtain ⟨ms, hms, hkeys⟩ :=
    (Option.any_eq_true _ _).mp (standardEntry_listed config.experimentalFeatures d hd)
  obtain ⟨deploy, _, hl⟩ := lookup_buildResources h
  have hkey : d.manifest.key ∈ ms.map Manifest.key := by
    rw [beq_iff_eq] at hkeys
    rw [hkeys]
    exact List.mem_singleton.mpr rfl
  obtain ⟨m, hmem, hmk⟩ := List.mem_map.mp hkey
  exact List.mem_map.mpr
    ⟨m, mem_manifestsOf.mpr ⟨_, ms, (hl _ _).mpr (Or.inr ⟨hm, hms⟩), hmem⟩, hmk⟩

end Groups

section Proxies

lemma buildResources_of_kind (h : buildResources lib config tls = .ok r) {kind : String}
    (hsecret : kind ≠ kindSecret) (hconfig : kind ≠ "ConfigMap") (hcrd : kind ≠ crdKind) :
    ∀ m ∈ manifestsOf r, m.key.kind = kind →
      m ∈ constantObjects ∨ deployment lib config = .ok m ∨ m = envoyProxyDefaults lib config := by
  refine (only_buildResources h (fun deploy hd => ?_) fun _ d _ hk hp => ?_).manifests
  · refine ownObjects_forall (fun m hm _ => Or.inl hm) (fun _ => Or.inr (Or.inl hd)) (fun hk => ?_)
      (fun m hm hk => ?_) fun _ => Or.inr (Or.inr rfl)
    · exact absurd hk.symm hconfig
    · simp only [shippedSecrets, List.mem_cons, List.not_mem_nil, or_false] at hm
      rcases hm with rfl | rfl | rfl <;> exact absurd hk.symm hsecret
  · have hkind : d.manifest.key.kind = crdKind := hk
    exact absurd (hp.symm.trans hkind) hcrd

lemma constantObjects_kinds : ∀ m ∈ constantObjects, m.key.kind ≠ "EnvoyProxy" ∧
      m.key.kind ≠ "Deployment" ∧
    (m.key.kind = "PodDisruptionBudget" → m = podDisruptionBudget) := by
  decide +kernel

lemma buildResources_envoyProxy (h : buildResources lib config tls = .ok r) :
    ∀ m ∈ manifestsOf r, m.key.kind = "EnvoyProxy" → m = envoyProxyDefaults lib config := by
  intro m hm hk
  rcases buildResources_of_kind h (by decide) (by decide) (by decide) m hm hk with hc | hd | hp
  · exact absurd hk (constantObjects_kinds m hc).1
  · rw [(deployment_key hd).1] at hk
    exact absurd hk (by decide)
  · exact hp

lemma buildResources_deployment (h : buildResources lib config tls = .ok r) :
    ∀ m ∈ manifestsOf r, m.key.kind = "Deployment" → deployment lib config = .ok m := by
  intro m hm hk
  rcases buildResources_of_kind h (by decide) (by decide) (by decide) m hm hk with hc | hd | rfl
  · exact absurd hk (constantObjects_kinds m hc).2.1
  · exact hd
  · exact absurd hk (by decide : "EnvoyProxy" ≠ "Deployment")

lemma buildResources_podDisruptionBudget (h : buildResources lib config tls = .ok r) :
    ∀ m ∈ manifestsOf r, m.key.kind = "PodDisruptionBudget" → m = podDisruptionBudget := by
  intro m hm hk
  rcases buildResources_of_kind h (by decide) (by decide) (by decide) m hm hk with hc | hd | rfl
  · exact (constantObjects_kinds m hc).2.2 hk
  · rw [(deployment_key hd).1] at hk
    exact absurd hk (by decide)
  · exact absurd hk (by decide : "EnvoyProxy" ≠ "PodDisruptionBudget")

lemma fixed_listed {e : String × List Manifest} {deploy m : Manifest}
    (h : buildResources lib config tls = .ok r)
    (hd : deployment lib config = .ok deploy) (he : e ∈ fixedObjects config deploy) (hm : m ∈ e.2) :
    m ∈ manifestsOf r := by
  refine mem_of_own h hd ?_ hm
  simp only [ownObjects, List.mem_append]
  exact Or.inl (Or.inl (Or.inl he))

lemma envoyProxyDefaults_listed (h : buildResources lib config tls = .ok r) :
    envoyProxyDefaults lib config ∈ manifestsOf r := by
  obtain ⟨deploy, hd, _⟩ := lookup_buildResources h
  have he : ("envoyproxy-defaults.yaml", [envoyProxyDefaults lib config]) ∈ ownObjects lib config
    tls deploy := by
    simp [ownObjects, proxyObjects]
  exact mem_of_own h hd he (List.mem_singleton.mpr rfl)

lemma buildResources_ok_iff (lib : Libraries) (config : Config) (tls : TLSBundle) :
    (∃ r, buildResources lib config tls = .ok r) ↔
      ∃ image, lib.findImage imageName = .ok image := by
  simp only [buildResources, deployment, bind_eq_ok, mapError_eq_ok]
  constructor
  · rintro ⟨_, _, ⟨image, hi, _⟩, _⟩
    exact ⟨image, hi⟩
  · rintro ⟨image, hi⟩
    exact ⟨_, _, ⟨image, hi, rfl⟩, rfl⟩

end Proxies

section Secrets

lemma buildResources_secrets (h : buildResources lib config tls = .ok r) :
    ∀ m ∈ manifestsOf r, m.key.kind = kindSecret → m ∈ shippedSecrets tls := by
  have honly : Only (fun m => m.key.kind = kindSecret → m ∈ shippedSecrets tls) r := by
    refine only_buildResources h (fun deploy hd e he m hm hk => ?_) fun _ d _ hkind hk => ?_
    · rcases ownObjects_cases hd e he m hm with ho | hs
      · exact absurd hk ho.2
      · exact hs
    · have hcrd : d.manifest.key.kind = crdKind := hkind
      rw [hcrd] at hk
      exact absurd hk (by decide)
  exact honly.manifests

lemma eq_of_secret_key {m s : Manifest} (h : buildResources lib config tls = .ok r)
    (hm : m ∈ manifestsOf r) (hs : s ∈ shippedSecrets tls) (hkey : m.key = s.key) : m = s := by
  have hsecret : s.key.kind = kindSecret := by
    simp only [shippedSecrets, List.mem_cons, List.not_mem_nil, or_false] at hs
    rcases hs with rfl | rfl | rfl <;> rfl
  have hnodup : ((shippedSecrets tls).map Manifest.key).Nodup := by
    have hkeys : (shippedSecrets tls).map Manifest.key = (shippedSecrets {}).map Manifest.key := rfl
    rw [hkeys]
    decide
  have hshipped := buildResources_secrets h m hm (by rw [hkey, hsecret])
  exact List.inj_on_of_nodup_map hnodup hshipped hs hkey

lemma secret_listed {n : String} {m : Manifest} (h : buildResources lib config tls = .ok r)
    (hm : (n, [m]) ∈ secretObjects tls) : m ∈ manifestsOf r := by
  obtain ⟨deploy, hd, _⟩ := lookup_buildResources h
  have he : (n, [m]) ∈ ownObjects lib config tls deploy := by simp [ownObjects, hm]
  exact mem_of_own h hd he (List.mem_singleton.mpr rfl)

end Secrets

end EnvoyGatewayExtension.EnvoyGateway
