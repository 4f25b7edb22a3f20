import EnvoyGatewayExtension.Actuator.CRDRetention
import EnvoyGatewayExtension.Effects.Interference

namespace EnvoyGatewayExtension.Actuator

open Effects Kubernetes EnvoyGateway Stores World Relation

variable {lib : Libraries} {generate : Generator} {w w' : World} {ex : Invocation}
  {K : ObjectKey → Prop}

section Shipping

def Shippable (lib : Libraries) (k : ObjectKey) : Prop :=
  ∃ config tls resources, buildResources lib config tls = .ok resources ∧
    k ∈ (manifestsOf resources).map Manifest.key

def Collectable (lib : Libraries) (m : Manifest) : Prop :=
  keepObject m = false ∧ Shippable lib m.key

end Shipping

structure Custody (lib : Libraries) (w : World) : Prop where
  released : ∀ mr, w.managedResource = some mr → mr.keepObjects = false
  manifests : ∀ mr, w.managedResource = some mr → ∀ m ∈ mr.manifests, Collectable lib m
  applied : ∀ mr, w.managedResource = some mr → ∀ m ∈ mr.applied, Collectable lib m
  tracked : ∀ k, Shippable lib k → (w.objects.lookup k).isSome = true →
    ∃ mr, w.managedResource = some mr ∧ k ∈ mr.applied.map Manifest.key

section ResourceManager

variable {mr : ManagedResource}

lemma apply_managedResource (hm : w.managedResource = some mr) (ht : mr.terminating = false) :
    w.apply.managedResource = some { mr with applied := mr.manifests } := by
  simp [World.apply, hm, ht]

lemma apply_lookup (hm : w.managedResource = some mr) (ht : mr.terminating = false)
    (hk : mr.keepObjects = false) (k : ObjectKey) : w.apply.objects.lookup k =
      (mr.manifests.foldl (fun o m => o.insert m.key m)
        ((dropped mr).foldl (fun o j => o.erase j) w.objects)).lookup k := by
  simp [World.apply, hm, ht, hk, World.removeObjects]

lemma apply_of_terminating (ht : ∀ mr, w.managedResource = some mr → mr.terminating = true) :
    w.apply = w := by
  rw [World.apply]
  cases hm : w.managedResource with
  | none => rfl
  | some mr => simp [ht mr hm]

lemma custody_pass (h : Custody lib w) : Custody lib w.apply := by
  by_cases hlive : ∃ mr, w.managedResource = some mr ∧ mr.terminating = false
  swap
  · rw [apply_of_terminating fun mr hm => Bool.of_not_eq_false fun ht => hlive ⟨mr, hm, ht⟩]
    exact h
  obtain ⟨mr, hm, ht⟩ := hlive
  have hafter := apply_managedResource hm ht
  refine ⟨?_, ?_, ?_, fun k hk hs => ⟨_, hafter, ?_⟩⟩
  · intro mr' hm'
    cases hafter.symm.trans hm'
    exact h.released mr hm
  · intro mr' hm'
    cases hafter.symm.trans hm'
    exact h.manifests mr hm
  · intro mr' hm'
    cases hafter.symm.trans hm'
    exact h.manifests mr hm
  · -- what was applied and is listed no longer has been dropped
    by_contra hn
    rw [apply_lookup hm ht (h.released mr hm), Store.lookup_foldl_insert_of_not_mem hn,
      Store.lookup_foldl_erase] at hs
    split_ifs at hs with hd
    · cases hs
    · obtain ⟨mr', hm', hin⟩ := h.tracked k hk hs
      cases hm.symm.trans hm'
      exact hd ((mem_dropped fun m hmem => (h.applied mr hm m hmem).1).mpr ⟨hin, hn⟩)

end ResourceManager

section Calls

end Calls

section Removal

end Removal

def Clean (lib : Libraries) (w : World) : Prop :=
  w.managedResource = none ∧ ∀ k, Shippable lib k → w.objects.lookup k = none

lemma Clean.custody (h : Clean lib w) : Custody lib w := by
  refine ⟨fun _ hm => ?_, fun _ hm => ?_, fun _ hm => ?_, fun k hk hs => ?_⟩
  · cases h.1.symm.trans hm
  · cases h.1.symm.trans hm
  · cases h.1.symm.trans hm
  · rw [h.2 k hk] at hs
    cases hs

section Runs

variable (hK : ∀ k, Shippable lib k → K k)
include hK

end Runs

section Foreign

variable {k : ObjectKey}

end Foreign

section Removed

end Removed

end EnvoyGatewayExtension.Actuator
