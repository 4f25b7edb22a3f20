import EnvoyGatewayExtension.NetpolController.GatewayFeed

namespace EnvoyGatewayExtension.NetpolController

open Effects Kubernetes EnvoyGateway Stores Informer

def Labelled (np : NetworkPolicy) : Prop :=
  isManagedPolicy np = true ∧ mapManagedPolicyToRequests np = [np.namespace]

lemma labelled_of_labels {np : NetworkPolicy} {name : String} {hop : Hop}
    (h : np.labels = managedLabels name hop) : Labelled np := by
  have hb : np.labels.value labelManagedBy = labelManagedByValue := by
    rw [h, Labels.value, managedLabels_managedBy]
    rfl
  have hh : np.labels.value labelHop = hop.label := by
    rw [h, Labels.value, managedLabels_hop]
    rfl
  constructor
  · rw [isManagedPolicy, hb, hh]
    cases hop <;> decide
  · rw [mapManagedPolicyToRequests, hh, requestFor]
    cases hop <;> simp

lemma policyFor_labelled (ns : String) (hop : Hop) : Labelled (policyFor ns hop) :=
  labelled_of_labels (policyFor_labels ns hop)

lemma mem_policyRequests {e : Event NetworkPolicy} {k : NamespacedName}
    (h : ∀ np ∈ e.objects, np.key = k ∧ Labelled np) : k.namespace ∈ policyRequests e := by
  have hp : managedPolicyPredicate e = true := by
    cases e with
    | create np => exact (h np List.mem_cons_self).2.1
    | update old new => exact (h new (List.mem_cons_of_mem old List.mem_cons_self)).2.1
    | delete np => exact (h np List.mem_cons_self).2.1
  have hm : ∀ np ∈ e.objects, k.namespace ∈ mapManagedPolicyToRequests np := by
    intro np hnp
    rw [(h np hnp).2.2, ← (h np hnp).1]
    exact List.mem_singleton.mpr rfl
  rw [policyRequests, if_pos hp, List.mem_flatMap]
  cases e with
  | create np => exact ⟨np, List.mem_cons_self, hm np List.mem_cons_self⟩
  | update np _ => exact ⟨np, List.mem_cons_self, hm np List.mem_cons_self⟩
  | delete np => exact ⟨np, List.mem_cons_self, hm np List.mem_cons_self⟩

lemma mem_enqueued {q reqs : List Request} {r : Request} :
    r ∈ reqs.foldl (fun q r => if r ∈ q then q else q ++ [r]) q ↔ r ∈ q ∨ r ∈ reqs := by
  induction reqs generalizing q with
  | nil => simp
  | cons x xs ih =>
    rw [List.foldl_cons, ih, List.mem_cons]
    split_ifs with hx
    · constructor
      · rintro (h | h)
        · exact Or.inl h
        · exact Or.inr (Or.inr h)
      · rintro (h | rfl | h)
        · exact Or.inl h
        · exact Or.inl hx
        · exact Or.inr h
    · rw [List.mem_append, List.mem_singleton, or_assoc]

/-- A reconcile of `ns` is queued, or an undelivered event will queue it. -/
def Owed (ns : Request) (s : State) : Prop :=
  ns ∈ s.queue ∨ (∃ k, ∃ e ∈ s.gateways.pending k, ns ∈ gatewayRequests e) ∨
    ∃ k, ∃ e ∈ s.policies.pending k, ns ∈ policyRequests e

/-- The two policies of `ns` are as built if it holds a managed Gateway, and absent otherwise. -/
def InSync (ns : Request) (s : State) : Prop :=
  ∀ hop, s.policies.api.lookup (policyKey ns hop) =
    if hasManaged s.gateways.api ns then some (policyFor ns hop) else none

structure Sound (s : State) : Prop where
  gateways : s.gateways.Everywhere (fun k gw => gw.key = k)
  policies : s.policies.Everywhere
    (fun k np => np.key = k ∧ ((∃ ns hop, k = policyKey ns hop) → Labelled np))

structure WellFormed (o : Order) (s : State) : Prop extends Sound s where
  feed : Feed o s.gateways

inductive Env (o : Order) (s : State) : State → Prop
  | worker {w} : Env o s { s with worker := w }
  | gateway {k v} : (∀ gw, v = some gw → gw.key = k) → Permitted o s.gateways.api k v →
      Env o s { s with gateways := s.gateways.write k v }
  | policy {k v} : (∀ np, v = some np → np.key = k ∧
      ((∃ ns hop, k = policyKey ns hop) → Labelled np)) → Env o s (s.writePolicy k v)
  | deliverGateway {k e i} : Next o s.gateways k → s.gateways.deliver k = some (e, i) →
      Env o s ({ s with gateways := i }.enqueue (gatewayRequests e))
  | deliverPolicy {k e i} : s.policies.deliver k = some (e, i) →
      Env o s ({ s with policies := i }.enqueue (policyRequests e))

section Steps

variable {o : Order} {s s' : State} {ns : Request}

lemma Owed.env (h : Env o s s') (ho : Owed ns s) : Owed ns s' := by
  cases h with
  | worker => exact ho
  | @gateway k v _ _ =>
    rcases ho with hq | ⟨j, e, he, hr⟩ | hp
    · exact Or.inl hq
    · refine Or.inr (Or.inl ⟨j, e, ?_, hr⟩)
      by_cases hj : j = k
      · subst hj
        rw [write_pending_self]
        exact List.mem_append_left _ he
      · rw [write_pending_ne _ _ hj]
        exact he
    · exact Or.inr (Or.inr hp)
  | @policy k v _ =>
    rcases ho with hq | hg | ⟨j, e, he, hr⟩
    · exact Or.inl hq
    · exact Or.inr (Or.inl hg)
    · refine Or.inr (Or.inr ⟨j, e, ?_, hr⟩)
      by_cases hj : j = k
      · subst hj
        rw [State.writePolicy, write_pending_self]
        exact List.mem_append_left _ he
      · rw [State.writePolicy, write_pending_ne _ _ hj]
        exact he
  | @deliverGateway k e i hn hd =>
    obtain ⟨_, hp, _, _, hne⟩ := deliver_eq_some hd
    rcases ho with hq | ⟨j, f, hf, hr⟩ | hpol
    · exact Or.inl (mem_enqueued.mpr (Or.inl hq))
    · by_cases hj : j = k
      · subst hj
        rw [hp] at hf
        rcases List.mem_cons.mp hf with rfl | hf
        · exact Or.inl (mem_enqueued.mpr (Or.inr hr))
        · exact Or.inr (Or.inl ⟨j, f, hf, hr⟩)
      · exact Or.inr (Or.inl ⟨j, f, by rw [← hne j hj] at hf; exact hf, hr⟩)
    · exact Or.inr (Or.inr hpol)
  | @deliverPolicy k e i hd =>
    obtain ⟨_, hp, _, _, hne⟩ := deliver_eq_some hd
    rcases ho with hq | hg | ⟨j, f, hf, hr⟩
    · exact Or.inl (mem_enqueued.mpr (Or.inl hq))
    · exact Or.inr (Or.inl hg)
    · by_cases hj : j = k
      · subst hj
        rw [hp] at hf
        rcases List.mem_cons.mp hf with rfl | hf
        · exact Or.inl (mem_enqueued.mpr (Or.inr hr))
        · exact Or.inr (Or.inr ⟨j, f, hf, hr⟩)
      · exact Or.inr (Or.inr ⟨j, f, by rw [← hne j hj] at hf; exact hf, hr⟩)

lemma WellFormed.env (hw : WellFormed o s) (h : Env o s s') : WellFormed o s' := by
  cases h with
  | worker => exact ⟨⟨hw.gateways, hw.policies⟩, hw.feed⟩
  | gateway hk hp => exact ⟨⟨hw.gateways.write hk, hw.policies⟩, hw.feed.write hp⟩
  | policy hk => exact ⟨⟨hw.gateways, hw.policies.write hk⟩, hw.feed⟩
  | deliverGateway hn hd =>
    exact ⟨⟨hw.gateways.deliver hd, hw.policies⟩, (hw.feed.deliver hw.gateways hn hd).1⟩
  | deliverPolicy hd => exact ⟨⟨hw.gateways, hw.policies.deliver hd⟩, hw.feed⟩

lemma owed_of_pending (hw : WellFormed o s) (ns : Request) (hop : Hop)
    (h : s.policies.pending (policyKey ns hop) ≠ []) : Owed ns s := by
  obtain ⟨e, he⟩ := List.exists_mem_of_ne_nil _ h
  refine Or.inr (Or.inr ⟨policyKey ns hop, e, he, ?_⟩)
  apply mem_policyRequests (k := policyKey ns hop)
  intro np hnp
  have hnp' := hw.policies.2 _ e he np hnp
  exact ⟨hnp'.1, hnp'.2 ⟨ns, hop, rfl⟩⟩

lemma owed_or_cached_policy (hw : WellFormed o s) (ns : Request) (hop : Hop) : Owed ns s ∨
    s.policies.cache.lookup (policyKey ns hop) = s.policies.api.lookup (policyKey ns hop) := by
  by_cases hp : s.policies.pending (policyKey ns hop) = []
  · exact Or.inr (cache_eq hp)
  · exact Or.inl (owed_of_pending hw ns hop hp)

lemma owed_or_cached_gateways (hw : WellFormed o s) (ns : Request) :
    Owed ns s ∨ hasManaged s.gateways.cache ns = hasManaged s.gateways.api ns :=
  (hw.feed.noticed hw.gateways ns).imp (fun h => Or.inr (Or.inl h)) id

lemma gateways_env (hw : WellFormed o s) (h : Env o s s') (ns : Request) :
    Owed ns s' ∨ hasManaged s'.gateways.api ns = hasManaged s.gateways.api ns := by
  cases h with
  | worker => exact Or.inr rfl
  | policy hk => exact Or.inr rfl
  | @gateway k v hk hp =>
    exact (hp.noticed hw.gateways hk ns).imp (fun h => Or.inr (Or.inl ⟨k, h⟩)) id
  | deliverGateway hn hd =>
    obtain ⟨_, _, ha, _, _⟩ := deliver_eq_some hd
    exact Or.inr (congrArg (hasManaged · ns) ha)
  | deliverPolicy hd => exact Or.inr rfl

lemma cached_gateways_env (hw : WellFormed o s) (h : Env o s s') (ns : Request) :
    Owed ns s' ∨ hasManaged s'.gateways.cache ns = hasManaged s.gateways.cache ns := by
  cases h with
  | worker => exact Or.inr rfl
  | policy hk => exact Or.inr rfl
  | gateway hk hp => exact Or.inr rfl
  | deliverGateway hn hd =>
    exact ((hw.feed.deliver hw.gateways hn hd).2 ns).imp
      (fun hr => Or.inl (mem_enqueued.mpr (Or.inr hr))) id
  | deliverPolicy hd => exact Or.inr rfl

lemma policy_env (hw : WellFormed o s) (h : Env o s s') (ns : Request) (hop : Hop) : Owed ns s' ∨
    s'.policies.api.lookup (policyKey ns hop) = s.policies.api.lookup (policyKey ns hop) := by
  have hw' := hw.env h
  cases h with
  | worker => exact Or.inr rfl
  | gateway hk hm => exact Or.inr rfl
  | @policy k v hk =>
    by_cases hkey : policyKey ns hop = k
    · subst hkey
      by_cases hv : s.policies.api.lookup (policyKey ns hop) = v
      · exact Or.inr ((Store.lookup_set_self ..).trans hv.symm)
      · refine Or.inl (owed_of_pending hw' ns hop ?_)
        rw [State.writePolicy, write_pending_self]
        exact List.append_ne_nil_of_right_ne_nil _ (Event.ofChange_ne_nil hv)
    · exact Or.inr (Store.lookup_set_ne _ _ hkey)
  | deliverGateway hn hd => exact Or.inr rfl
  | deliverPolicy hd =>
    obtain ⟨_, _, ha, _, _⟩ := deliver_eq_some hd
    exact Or.inr (congrArg _ ha)

lemma cached_policy_env (hw : WellFormed o s) (h : Env o s s') (ns : Request) (hop : Hop) :
    Owed ns s' ∨
    s'.policies.cache.lookup (policyKey ns hop) = s.policies.cache.lookup (policyKey ns hop) := by
  by_cases hp : s.policies.pending (policyKey ns hop) = []
  · cases h with
    | worker => exact Or.inr rfl
    | gateway hk hm => exact Or.inr rfl
    | policy hk => exact Or.inr rfl
    | deliverGateway hn hd => exact Or.inr rfl
    | @deliverPolicy k e i hd =>
      obtain ⟨_, hk, _, hc, _⟩ := deliver_eq_some hd
      have hne : policyKey ns hop ≠ k := by
        rintro rfl
        rw [hp] at hk
        cases hk
      refine Or.inr ?_
      change i.cache.lookup _ = _
      rw [hc]
      exact Store.lookup_set_ne _ _ hne
  · exact Or.inl ((owed_of_pending hw ns hop hp).env h)

lemma settled_env (hw : WellFormed o s) (h : Env o s s') (hs : Owed ns s ∨ InSync ns s) :
    Owed ns s' ∨ InSync ns s' := by
  by_cases ho : Owed ns s'
  · exact Or.inl ho
  · refine Or.inr fun hop => ?_
    have hg := (gateways_env hw h ns).resolve_left ho
    have hp := (policy_env hw h ns hop).resolve_left ho
    rw [hp, hg]
    exact hs.resolve_left (fun hc => ho (hc.env h)) hop

end Steps

end EnvoyGatewayExtension.NetpolController
