import EnvoyGatewayExtension.NetpolController.Convergence

namespace EnvoyGatewayExtension.NetpolController

open Effects Kubernetes EnvoyGateway Stores Informer

def answers : Handler shootClient GoError State := fun s c r s' => Answers s c r s'

section CurrentReads

variable {s s' : State} {ns : Request} {hop : Hop} {tr : List (Answered shootClient GoError State)}

def CurrentAt (ns : Request) (hop : Hop) (s : State) : Prop :=
  s.policies.cache.lookup (policyKey ns hop) = s.policies.api.lookup (policyKey ns hop) ∧
    ∀ np, s.policies.api.lookup (policyKey ns hop) = some np → np.key = policyKey ns hop

def Rewrites (k : NamespacedName) (v : Option NetworkPolicy) (s s' : State) : Prop :=
  s'.gateways = s.gateways ∧ s'.policies.cache = s.policies.cache ∧
    ∀ j, s'.policies.api.lookup j = if j = k then v else s.policies.api.lookup j

lemma rewrites_write (s : State) (k : NamespacedName) (v : Option NetworkPolicy) :
    Rewrites k v s (s.writePolicy k v) :=
  ⟨rfl, rfl, fun j => Store.lookup_set _ k j v⟩

lemma rewrites_refl (s : State) (k : NamespacedName) :
    Rewrites k (s.policies.api.lookup k) s s := by
  refine ⟨rfl, rfl, fun j => ?_⟩
  split_ifs with hj
  · rw [hj]
  · rfl

lemma CurrentAt.of_rewrites {hop' : Hop} {v : Option NetworkPolicy} (hc : CurrentAt ns hop s)
    (h : Rewrites (policyKey ns hop') v s s') (hne : hop ≠ hop') : CurrentAt ns hop s' := by
  have hk : policyKey ns hop ≠ policyKey ns hop' := fun he => hne (policyKey_eq_iff.mp he).2
  have hl := (h.2.2 (policyKey ns hop)).trans (if_neg hk)
  unfold CurrentAt
  rw [h.2.1, hl]
  exact hc

lemma exec_apply (hop : Hop) (hc : CurrentAt ns hop s)
    (he : Exec answers (apply (policyFor ns hop)) s tr (.ok ()) s') :
    Rewrites (policyKey ns hop) (some (policyFor ns hop)) s s' := by
  obtain ⟨r, s₁, tr₁, tr₂, _, hget, hput⟩ := Exec.bind_ok_iff.mp (Exec.mapFault_ok_iff.mp he)
  rw [policyFor_key] at hget
  obtain ⟨rfl, hok, herr⟩ := answers_get (Exec.request_iff.mp (Exec.attempt_ok_iff.mp hget)).1
  cases r with
  | error e =>
    simp only at hput
    split_ifs at hput with hn
    · have hw := answers_put.1 (Exec.request_iff.mp hput).1
      rw [hw, ← policyFor_key]
      exact rewrites_write _ _ _
    · simp at hput
  | ok np =>
    have hl := hc.1.symm.trans (hok np rfl)
    have hm := mutated_eq (hc.2 np hl)
    simp only at hput
    split_ifs at hput with heq
    · obtain ⟨_, _, rfl⟩ := Exec.ret_iff.mp hput
      have hsame := rewrites_refl s' (policyKey ns hop)
      rw [hl, ← heq, hm] at hsame
      exact hsame
    · have hw := answers_put.2 (Exec.request_iff.mp hput).1
      rw [hw, hm, ← policyFor_key]
      exact rewrites_write _ _ _

lemma exec_prune (hop : Hop) {msg : String} (he : Exec answers
      (wrapped msg (ignoreNotFound (send (.deletePolicy (policyKey ns hop))))) s tr (.ok ()) s') :
    Rewrites (policyKey ns hop) none s s' := by
  obtain ⟨r, s₁, tr₁, tr₂, _, hdel, hrest⟩ := Exec.bind_ok_iff.mp (Exec.mapFault_ok_iff.mp he)
  have hnf : s₁ = s' ∧ ∀ e, r = .error e → e.isNotFound = true := by
    cases r with
    | ok u => exact ⟨(Exec.ret_iff.mp hrest).2.2.symm, fun _ h => by cases h⟩
    | error e =>
      simp only at hrest
      split_ifs at hrest with hn
      · exact ⟨(Exec.ret_iff.mp hrest).2.2.symm, fun _ h => by cases h; exact hn⟩
      · simp at hrest
  obtain ⟨rfl, hnf⟩ := hnf
  rcases answers_delete (Exec.request_iff.mp (Exec.attempt_ok_iff.mp hdel)).1
    hnf with rfl | ⟨rfl, hn⟩
  · exact rewrites_write _ _ _
  · rw [← hn]
    exact rewrites_refl _ _

lemma Rewrites.both {s₂ s₃ : State} {v : Hop → Option NetworkPolicy}
    (h₁ : Rewrites (policyKey ns .proxyIngress) (v .proxyIngress) s s₂)
    (h₂ : Rewrites (policyKey ns .proxyEgress) (v .proxyEgress) s₂ s₃) :
    s₃.gateways = s.gateways ∧ ∀ hop, s₃.policies.api.lookup (policyKey ns hop) = v hop := by
  refine ⟨h₂.1.trans h₁.1, fun hop => ?_⟩
  rw [h₂.2.2, h₁.2.2]
  cases hop <;> simp [policyKey_eq_iff]

lemma exec_namespaceHasManagedGateway {b : Bool}
    (he : Exec answers (namespaceHasManagedGateway ns) s tr (.ok b) s') :
    s' = s ∧ b = hasManaged s.gateways.cache ns := by
  obtain ⟨gws, s₁, tr₁, tr₂, _, hlist, hret⟩ := Exec.bind_ok_iff.mp he
  obtain ⟨_, hb, rfl⟩ := Exec.ret_iff.mp hret
  obtain ⟨rfl, hr⟩ := answers_list (Exec.request_iff.mp (Exec.mapFault_ok_iff.mp hlist)).1
  cases hb
  exact ⟨rfl, (hr gws rfl).symm⟩

lemma exec_reconcile (hg : hasManaged s.gateways.cache ns = hasManaged s.gateways.api ns)
    (hc : ∀ hop, CurrentAt ns hop s) (he : Exec answers (reconcile ns) s tr (.ok ()) s') :
    s'.gateways = s.gateways ∧ InSync ns s' := by
  obtain ⟨b, s₁, tr₁, tr₂, _, hlist, hwrite⟩ := Exec.bind_ok_iff.mp he
  obtain ⟨rfl, hb⟩ := exec_namespaceHasManagedGateway hlist
  rw [hg] at hb
  have hsync : s'.gateways = s₁.gateways ∧ ∀ hop, s'.policies.api.lookup (policyKey ns hop) =
      if b = true then some (policyFor ns hop) else none := by
    cases b with
    | false =>
      obtain ⟨_, s₂, _, _, _, h₁, hrest⟩ := Exec.bind_ok_iff.mp hwrite
      obtain ⟨_, s₃, _, _, _, h₂, hret⟩ := Exec.bind_ok_iff.mp hrest
      obtain ⟨_, _, rfl⟩ := Exec.ret_iff.mp hret
      exact (exec_prune .proxyIngress h₁).both (v := fun _ => none) (exec_prune .proxyEgress h₂)
    | true =>
      obtain ⟨_, s₂, _, _, _, h₁, h₂⟩ := Exec.bind_ok_iff.mp hwrite
      have hi := exec_apply .proxyIngress (hc _) h₁
      have he := exec_apply .proxyEgress ((hc _).of_rewrites hi (by decide)) h₂
      exact hi.both (v := fun hop => some (policyFor ns hop)) he
  refine ⟨hsync.1, fun hop => ?_⟩
  rw [hsync.1, ← hb]
  exact hsync.2 hop

lemma answers_of_perform {c : ClientCall} {r : Except GoError c.Result}
    (h : s.perform c = (r, s')) : Answers s c r s' := by
  have hd : Answers s c (s.perform c).1 (s.perform c).2 := .done
  rw [h] at hd
  exact hd

lemma apply_succeeds (hop : Hop) (hc : CurrentAt ns hop s) :
    ∃ tr s', Exec answers (apply (policyFor ns hop)) s tr (.ok ()) s' := by
  have hkey := policyFor_key ns hop
  have hget : ∀ r, s.perform (.getPolicy (policyFor ns hop).key) = (r, s) →
      Exec answers (send (.getPolicy (policyFor ns hop).key)).attempt s _ (.ok r) s :=
    fun r hr => Exec.attempt_ok_iff.mpr (Exec.request_iff.mpr ⟨answers_of_perform hr, rfl⟩)
  cases hl : s.policies.cache.lookup (policyKey ns hop) with
  | none =>
    have hapi := hc.1.symm.trans hl
    rw [← hkey] at hl hapi
    have hput : Exec answers (send (.createPolicy (policyFor ns hop))) s _ (.ok ()) _ :=
      Exec.request_iff.mpr ⟨answers_of_perform (State.perform_create hapi), rfl⟩
    exact ⟨_, _, Exec.mapFault_ok_iff.mpr (Exec.bind_ok_iff.mpr
      ⟨.error notFound, s, _, _, rfl, hget _ (State.perform_get_none hl), hput⟩)⟩
  | some np =>
    have hapi := hc.1.symm.trans hl
    have hm := mutated_eq (hc.2 np hapi)
    rw [← hkey] at hl hapi
    have hput : ∃ tr s', Exec answers (if { np with
          labels := (policyFor ns hop).labels, spec := (policyFor ns hop).spec } = np then pure ()
        else send (.updatePolicy { np with
          labels := (policyFor ns hop).labels, spec := (policyFor ns hop).spec })) s tr
            (.ok ()) s' := by
      rw [hm]
      split_ifs
      · exact ⟨_, _, .ret⟩
      · exact ⟨_, _, Exec.request_iff.mpr ⟨answers_of_perform (State.perform_update hapi), rfl⟩⟩
    obtain ⟨tr, s', hput⟩ := hput
    exact ⟨_, _, Exec.mapFault_ok_iff.mpr (Exec.bind_ok_iff.mpr
      ⟨.ok np, s, _, _, rfl, hget _ (State.perform_get hl), hput⟩)⟩

lemma reconcile_succeeds (hg : hasManaged s.gateways.cache ns = true)
    (hc : ∀ hop, CurrentAt ns hop s) : ∃ tr s', Exec answers (reconcile ns) s tr (.ok ()) s' := by
  have hlist : Exec answers (namespaceHasManagedGateway ns)
    s _ (.ok (hasManaged s.gateways.cache ns)) s :=
    Exec.bind_ok_iff.mpr ⟨gatewaysIn s.gateways.cache ns, s, _, _, rfl,
      Exec.mapFault_ok_iff.mpr (Exec.request_iff.mpr ⟨.done, rfl⟩), .ret⟩
  rw [hg] at hlist
  obtain ⟨tr₁, s₁, h₁⟩ := apply_succeeds .proxyIngress (hc _)
  have hi := exec_apply .proxyIngress (hc _) h₁
  obtain ⟨tr₂, s₂, h₂⟩ := apply_succeeds .proxyEgress ((hc .proxyEgress).of_rewrites hi (by decide))
  exact ⟨_, s₂, Exec.bind_ok_iff.mpr ⟨true, s, _, _, rfl, hlist,
    Exec.bind_ok_iff.mpr ⟨(), s₁, tr₁, tr₂, rfl, h₁, h₂⟩⟩⟩

end CurrentReads

section ThirdParty

variable {s : State} {ns : Request} {hop : Hop} {c : Option NetworkPolicy}

def edit (ns : Request) (hop : Hop) : Option NetworkPolicy → Action
  | none => .deletePolicy (policyKey ns hop)
  | some np => .putPolicy np

def Heals (ns : Request) (hop : Hop) (c : Option NetworkPolicy) (s : State) : Prop :=
  ∃ t, run s [edit ns hop c, .deliverPolicy (policyKey ns hop)] = some t ∧ ns ∈ t.queue ∧
    (∃ tr t', Exec answers (reconcile ns) t tr (.ok ()) t') ∧
    ∀ tr t', Exec answers (reconcile ns) t tr (.ok ()) t' →
      ∀ hop', t'.policies.api.lookup (policyKey ns hop') = some (policyFor ns hop')

def KeepsLabels (c : Option NetworkPolicy) : Prop :=
  ∀ np, c = some np → np.labels.value labelManagedBy = labelManagedByValue ∧
    np.labels.value labelHop ≠ ""

lemma keepsLabels_iff : KeepsLabels c ↔ ∀ np, c = some np → isManagedPolicy np = true := by
  simp only [KeepsLabels, isManagedPolicy, Bool.and_eq_true, beq_iff_eq, bne_iff_ne, ne_eq]

lemma edit_requests {e : Event NetworkPolicy}
    (he : Event.ofChange (some (policyFor ns hop)) c = [e]) :
    ns ∈ policyRequests e ↔ KeepsLabels c := by
  have hmap : ns ∈ mapManagedPolicyToRequests (policyFor ns hop) := by
    rw [(policyFor_labelled ns hop).2, policyFor_namespace]
    exact List.mem_singleton.mpr rfl
  rw [keepsLabels_iff, policyRequests]
  cases c with
  | none =>
    cases he
    simp [managedPolicyPredicate, (policyFor_labelled ns hop).1, Event.objects, hmap]
  | some np =>
    simp only [Event.ofChange] at he
    split_ifs at he
    cases he
    simp [managedPolicyPredicate, Event.objects, hmap]

lemma edit_delivered (hq : Quiescent s) (hs : InSync ns s)
    (hm : hasManaged s.gateways.api ns = true)
    (hc : c ≠ some (policyFor ns hop)) (hk : ∀ np, c = some np → np.key = policyKey ns hop) :
    ∃ e i, Event.ofChange (some (policyFor ns hop)) c = [e] ∧ i.events = [] ∧
      i.api = s.policies.api.set (policyKey ns hop) c ∧
      run s [edit ns hop c, .deliverPolicy (policyKey ns hop)] =
        some ({ s with policies := i }.enqueue (policyRequests e)) := by
  obtain ⟨hr, _, _, _, hp⟩ := hq
  rw [List.isEmpty_iff] at hp
  have hl := (hs hop).trans (if_pos hm)
  obtain ⟨e, i, he, hd, hi, hapi⟩ :=
    write_deliver hp (k := policyKey ns hop) (v := c) (by rw [hl]; exact hc.symm)
  rw [hl] at he
  refine ⟨e, i, he, hi, hapi, ?_⟩
  have hstep : step s (edit ns hop c) = some (s.writePolicy (policyKey ns hop) c) := by
    cases c with
    | none => rfl
    | some np => rw [← hk np rfl]; rfl
  simp only [run, runSteps, hstep, Option.bind_some]
  simp only [step, State.writePolicy, hr, if_true, hd, Option.map_some, Option.bind_some]

theorem heals_iff_keepsLabels (hq : Quiescent s) (hs : InSync ns s)
    (hm : hasManaged s.gateways.api ns = true) (hc : c ≠ some (policyFor ns hop))
    (hk : ∀ np, c = some np → np.key = policyKey ns hop) : Heals ns hop c s ↔ KeepsLabels c := by
  obtain ⟨e, i, he, hi, hapi, hrun⟩ := edit_delivered hq hs hm hc hk
  have hqueue : ns ∈ ({ s with policies := i }.enqueue (policyRequests e)).queue ↔
    KeepsLabels c := by
    rw [← edit_requests he]
    refine mem_enqueued.trans ?_
    simp [hq.2.1]
  constructor
  · rintro ⟨t, ht, hn, _⟩
    rw [hrun] at ht
    cases ht
    exact hqueue.mp hn
  · intro hkeep
    have hg : hasManaged s.gateways.cache ns = hasManaged s.gateways.api ns := by
      apply hasManaged_congr
      intro k _
      rw [cache_eq]
      simp [Informer.pending, backlog, List.isEmpty_iff.mp hq.2.2.2.1]
    have hcur : ∀ hop',
      CurrentAt ns hop' ({ s with policies := i }.enqueue (policyRequests e)) := by
      intro hop'
      refine ⟨cache_eq (by simp [State.enqueue, Informer.pending, backlog, hi]), ?_⟩
      intro np hnp
      change i.api.lookup _ = _ at hnp
      rw [hapi, Store.lookup_set] at hnp
      split_ifs at hnp with heq
      · rw [heq]
        exact hk np hnp
      · rw [(hs hop').trans (if_pos hm)] at hnp
        cases hnp
        exact policyFor_key ns hop'
    refine ⟨_, hrun, hqueue.mpr hkeep, reconcile_succeeds (hg.trans hm) hcur, ?_⟩
    intro tr t' hexec hop'
    obtain ⟨hgw, hsync⟩ :=
      exec_reconcile (s := { s with policies := i }.enqueue (policyRequests e)) hg hcur hexec
    refine (hsync hop').trans (if_pos ?_)
    rw [hgw]
    exact hm

end ThirdParty

def otherGateway : Gateway := ⟨"shop", "web", gatewayClassName, false⟩

def shopInSync : State :=
  idle [otherGateway] [dataPlaneProxyIngressPolicy "shop", proxyEgressPolicy "shop"]

def strippedPolicy : NetworkPolicy where
  «namespace» := "shop"
  name := dataPlaneNetworkPolicyName
  labels := .ofList [(labelName, dataPlaneNetworkPolicyName), (labelHop, Hop.proxyIngress.label)]
  spec :=
    { podSelector := proxyPodSelector, policyTypes := [.ingress], ingress := [{ ports := [] }] }

theorem heals_iff_keepsLabels_deleted : Heals "shop" .proxyEgress none shopInSync :=
  (heals_iff_keepsLabels (by decide) (fun hop => by cases hop <;> rfl) (by decide) (by simp)
    (fun _ h => by cases h)).mpr fun _ h => by cases h

theorem stripped_policy_stays :
    ∃ t, run shopInSync
      [.putPolicy strippedPolicy, .deliverPolicy (policyKey "shop" .proxyIngress)] = some t ∧
      Quiescent t ∧ hasManaged t.gateways.api "shop" = true ∧
      t.policies.api.lookup (policyKey "shop" .proxyIngress) = some strippedPolicy ∧
      strippedPolicy ≠ dataPlaneProxyIngressPolicy "shop" := by
  refine ⟨_, rfl, by decide, by decide, rfl, ?_⟩
  intro h
  exact absurd (congrArg (fun np => np.labels.value labelManagedBy) h) (by decide)

end EnvoyGatewayExtension.NetpolController
