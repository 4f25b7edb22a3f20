import EnvoyGatewayExtension.Actuator.Custody
import EnvoyGatewayExtension.Actuator.Retries

namespace EnvoyGatewayExtension.Actuator

open Effects Kubernetes EnvoyGateway Stores World Relation

variable {lib : Libraries} {generate : Generator} {ex : Invocation} {cluster : Cluster}
  {shoot : Shoot} {w w' w'' u : World} {ms : List Manifest}

def declared (ms : List Manifest) : Store ObjectKey Manifest :=
  ms.foldl (fun o m => o.insert m.key m) ∅

structure Pending (lib : Libraries) (ms : List Manifest) (w : World) : Prop where
  custody : Custody lib w
  listed : ∃ mr, w.managedResource = some mr ∧ mr.terminating = false ∧ mr.manifests = ms

section ResourceManager

lemma lookup_foldl_insert_declared {o : Store ObjectKey Manifest} {k : ObjectKey}
    (hk : k ∈ ms.map Manifest.key) :
    (ms.foldl (fun o m => o.insert m.key m) o).lookup k = (declared ms).lookup k := by
  induction ms using List.reverseRecOn with
  | nil => cases hk
  | append_singleton ms m ih =>
    rw [declared, List.foldl_append, List.foldl_append, List.foldl_cons, List.foldl_cons,
      List.foldl_nil, List.foldl_nil]
    by_cases hm : k = m.key
    · rw [hm, AList.lookup_insert, AList.lookup_insert]
    · rw [AList.lookup_insert_ne hm, AList.lookup_insert_ne hm]
      refine ih ?_
      rw [List.map_append, List.mem_append] at hk
      exact hk.resolve_right fun h => hm (List.mem_singleton.mp h)

lemma Pending.applied (h : Pending lib ms w) {k : ObjectKey} (hk : Shippable lib k) :
    w.apply.objects.lookup k = (declared ms).lookup k := by
  obtain ⟨mr, hm, ht, rfl⟩ := h.listed
  by_cases hin : k ∈ mr.manifests.map Manifest.key
  · rw [apply_lookup hm ht (h.custody.released mr hm)]
    exact lookup_foldl_insert_declared hin
  · -- an object that is listed no longer was in the ledger, and the ledger is now the list
    have habsent : w.apply.objects.lookup k = none := by
      refine Option.not_isSome_iff_eq_none.mp fun hs => ?_
      obtain ⟨mr', hm', hin'⟩ := (custody_pass h.custody).tracked k hk hs
      rw [apply_managedResource hm ht] at hm'
      cases hm'
      exact hin hin'
    rw [habsent, declared, Store.lookup_foldl_insert_of_not_mem hin]
    rfl

end ResourceManager

section Reconcile

lemma toOption_eq_some {α : Type} {x : Except GoError α} {a : α} (h : x.toOption = some a) :
    x = .ok a := by
  cases x with
  | error e => cases h
  | ok b => exact congrArg Except.ok (Option.some.inj h)

lemma awakePlan_parts {f : View → View} {ca : CAState}
    (h : awakePlan lib generate ex cluster shoot ca = some f) :
    ∃ config tls resources g, readConfig lib shoot.kubernetesVersion
      ex.providerConfig = .ok config ∧
      bundled generate ex ca = .ok tls ∧ buildResources lib config tls = .ok resources ∧
      netpolPlan lib ex cluster config.manageDataPlaneNetworkPolicies = some g ∧
      f = fun v => g (v.shipped (manifestsOf resources)) := by
  obtain ⟨config, hconfig, h⟩ := Option.bind_eq_some_iff.mp h
  obtain ⟨tls, htls, h⟩ := Option.bind_eq_some_iff.mp h
  obtain ⟨_, g, hdeploy, hg, rfl⟩ := mem_inTurn.mp h
  obtain ⟨resources, hresources, rfl⟩ := Option.map_eq_some_iff.mp hdeploy
  exact ⟨config, tls, resources, g, toOption_eq_some hconfig, toOption_eq_some htls,
    toOption_eq_some hresources, hg, rfl⟩

end Reconcile

end EnvoyGatewayExtension.Actuator
