import EnvoyGatewayExtension.Kubernetes.Objects

namespace EnvoyGatewayExtension.Kubernetes

def Requirement.Matches (r : Requirement) (labels : Labels) : Prop :=
  match r.operator with
  | .isIn => ∃ v ∈ r.values, labels.lookup r.key = some v
  | .notIn => ∀ v ∈ r.values, labels.lookup r.key ≠ some v
  | .exists => (labels.lookup r.key).isSome = true
  | .doesNotExist => labels.lookup r.key = none

structure LabelSelector.Matches (s : LabelSelector) (labels : Labels) : Prop where
  matchLabels : ∀ k v, s.matchLabels.lookup k = some v → labels.lookup k = some v
  matchExpressions : ∀ r ∈ s.matchExpressions, r.Matches labels

lemma lookup_toFinmap {β : Type} {l : List (String × β)} (hl : (l.map Prod.fst).Nodup) {k : String}
    {v : β} :
    (l.map fun e => (⟨e.1, e.2⟩ : Sigma fun _ : String => β)).toFinmap.lookup k = some v ↔
    (k, v) ∈ l := by
  have hkeys : (l.map fun e => (⟨e.1, e.2⟩ : Sigma fun _ : String => β)).NodupKeys := by
    rw [List.NodupKeys, List.keys, List.map_map]
    exact hl
  rw [Finmap.dlookup_list_toFinmap, ← Option.mem_def, List.mem_dlookup_iff hkeys, List.mem_map]
  constructor
  · rintro ⟨⟨k', v'⟩, hm, he⟩
    obtain ⟨rfl, he⟩ := Sigma.mk.inj he
    cases he
    exact hm
  · intro hm
    exact ⟨(k, v), hm, rfl⟩

lemma Labels.lookup_ofList {l : List (String × String)} (hl : (l.map Prod.fst).Nodup)
    {k v : String} : (Labels.ofList l).lookup k = some v ↔ (k, v) ∈ l :=
  lookup_toFinmap hl

lemma matches_ofList {l : List (String × String)} (hl : (l.map Prod.fst).Nodup) {labels : Labels} :
    LabelSelector.Matches ⟨.ofList l, []⟩ labels ↔ ∀ e ∈ l, labels.lookup e.1 = some e.2 := by
  constructor
  · intro h e he
    exact h.matchLabels e.1 e.2 ((Labels.lookup_ofList hl).mpr he)
  · intro h
    refine ⟨fun k v hk => h (k, v) ((Labels.lookup_ofList hl).mp hk), by simp⟩

end EnvoyGatewayExtension.Kubernetes
