import EnvoyGatewayExtension.EnvoyGateway.Listing

namespace EnvoyGatewayExtension.EnvoyGateway

open Kubernetes Stores

variable {lib : Libraries} {config : Config} {tls : TLSBundle} {r : Resources}

lemma map_key_manifestsOf : (manifestsOf r).map Manifest.key = r.items.flatMap fun e =>
      e.2.map Manifest.key := by
  rw [manifestsOf, List.map_flatMap]

def standardKeys : List (String × List ObjectKey) :=
  ownKeys ++ (addCRDs false ∅).items.map entryKeys

lemma standardKeys_nodup : (standardKeys.flatMap Prod.snd).Nodup := by decide +kernel

lemma entry_of_standard (h : buildResources lib config tls = .ok r)
    (hc : ¬ (config.manageCRDs = true ∧ config.experimentalFeatures = true)) {n : String}
    {ms : List Manifest} (hl : r.lookup n = some ms) : (n, ms.map Manifest.key) ∈ standardKeys := by
  obtain ⟨deploy, hd, hentry⟩ := lookup_buildResources h
  rcases (hentry n ms).mp hl with ho | ⟨hm, hcrd⟩
  · exact List.mem_append_left _ ((ownObjects_keys hd).subset (List.mem_map.mpr ⟨_, ho, rfl⟩))
  · have hstandard : config.experimentalFeatures = false :=
      Bool.eq_false_iff.mpr fun he => hc ⟨hm, he⟩
    rw [hstandard] at hcrd
    exact List.mem_append_right _ (List.mem_map.mpr ⟨(n, ms), Store.mem_items.mpr hcrd, rfl⟩)

def gatewayCRDEntry : String := "crd-gateway-api-gateways.gateway.networking.k8s.io.yaml"
def gatewayCRDExperimentalEntry : String :=
  "crd-gateway-api-experimental-gateways.gateway.networking.k8s.io.yaml"

lemma experimental_entries : ∀ n ∈ [gatewayCRDEntry, gatewayCRDExperimentalEntry],
    ((addCRDs true ∅).lookup n).map (·.map Manifest.key) = some [gatewayCRDKey] := by decide +kernel

lemma gatewayCRD_listed (h : buildResources lib config tls = .ok r) (hm : config.manageCRDs = true)
    (he : config.experimentalFeatures = true) {n : String}
    (hn : n ∈ [gatewayCRDEntry, gatewayCRDExperimentalEntry]) :
    ∃ ms, r.lookup n = some ms ∧ ms.map Manifest.key = [gatewayCRDKey] := by
  obtain ⟨ms, hms, hkey⟩ := Option.map_eq_some_iff.mp (experimental_entries n hn)
  obtain ⟨deploy, _, hentry⟩ := lookup_buildResources h
  rw [he] at hentry
  exact ⟨ms, (hentry n ms).mpr (Or.inr ⟨hm, hms⟩), hkey⟩

lemma not_nodup_of_entries {n n' : String} {ms ms' : List Manifest} {k : ObjectKey}
    (hl : r.lookup n = some ms)
    (hl' : r.lookup n' = some ms') (hn : n ≠ n') (hk : ms.map Manifest.key = [k])
    (hk' : ms'.map Manifest.key = [k]) : ¬ ((manifestsOf r).map Manifest.key).Nodup := by
  intro hnodup
  rw [map_key_manifestsOf] at hnodup
  have hdisjoint := Store.disjoint_parts hnodup hl hl' hn
  rw [hk, hk'] at hdisjoint
  exact hdisjoint (List.mem_singleton.mpr rfl) (List.mem_singleton.mpr rfl)

theorem one_manifest_per_object_iff (h : buildResources lib config tls = .ok r) :
    ((manifestsOf r).map Manifest.key).Nodup ↔
      ¬ (config.manageCRDs = true ∧ config.experimentalFeatures = true) := by
  constructor
  · rintro hnodup ⟨hm, he⟩
    obtain ⟨ms, hl, hk⟩ := gatewayCRD_listed h hm he (n := gatewayCRDEntry) (by simp)
    obtain ⟨ms', hl', hk'⟩ := gatewayCRD_listed h hm he (n := gatewayCRDExperimentalEntry) (by simp)
    exact not_nodup_of_entries hl hl' (by decide) hk hk' hnodup
  · intro hc
    rw [map_key_manifestsOf]
    exact Store.nodup_parts standardKeys_nodup fun n ms hl => entry_of_standard h hc hl

section Sampled

def fullBundle : TLSBundle := ⟨[1], [2], [3], [4], [5], [6]⟩

def standardConfig : Config where
  manageCRDs := true
  manageDataPlaneNetworkPolicies := true
  shootKubernetesVersion := "1.31"

theorem one_manifest_per_object_standard :
    ∃ r, buildResources (sampleLibraries {}) standardConfig fullBundle = .ok r ∧
    (manifestsOf r).length = 38 ∧ ((manifestsOf r).map Manifest.key).Nodup := by
  have hbuild : buildResources (sampleLibraries {}) standardConfig fullBundle = .ok _ := rfl
  refine ⟨_, hbuild, ?_, (one_manifest_per_object_iff hbuild).mpr (by decide)⟩
  decide +kernel

theorem experimental_channel_lists_twice : ∃ r ms ms', buildResources (sampleLibraries {})
    { manageCRDs := true, experimentalFeatures := true } {} = .ok r ∧
    r.lookup gatewayCRDEntry = some ms ∧ r.lookup gatewayCRDExperimentalEntry = some ms' ∧
    ms.map Manifest.key =
      [⟨apiExtensionsGroup, crdKind, "", "gateways.gateway.networking.k8s.io"⟩] ∧
    ms'.map Manifest.key = ms.map Manifest.key ∧ ¬ ((manifestsOf r).map Manifest.key).Nodup := by
  have hbuild : buildResources (sampleLibraries {})
      { manageCRDs := true, experimentalFeatures := true } {} = .ok _ := rfl
  obtain ⟨ms, hl, hk⟩ := gatewayCRD_listed hbuild rfl rfl (n := gatewayCRDEntry) (by simp)
  obtain ⟨ms', hl', hk'⟩ :=
    gatewayCRD_listed hbuild rfl rfl (n := gatewayCRDExperimentalEntry) (by simp)
  exact ⟨_, ms, ms', hbuild, hl, hl', hk, hk'.trans hk.symm,
    not_nodup_of_entries hl hl' (by decide) hk hk'⟩

end Sampled

end EnvoyGatewayExtension.EnvoyGateway
