import EnvoyGatewayExtension.NetpolController.Runs
import EnvoyGatewayExtension.NetpolController.Writes
import Mathlib.Data.Set.Card

namespace EnvoyGatewayExtension.NetpolController

open Effects Kubernetes EnvoyGateway Stores Informer

def wanted (gateways : Gateways) (ns : Request) (hop : Hop) : Option NetworkPolicy :=
  if hasManaged gateways ns then some (policyFor ns hop) else none

structure CaughtUp (ns : Request) (s : State) : Prop where
  gateways : ∀ k, k.namespace = ns → s.gateways.pending k = []
  policies : ∀ hop, s.policies.pending (policyKey ns hop) = []

def Prompt (s : State) : Action → Prop
  | .deliverGateway _ => True
  | .deliverPolicy _ => True
  | .take ns => CaughtUp ns s
  | .answer => True
  | .finish => True
  | _ => False

structure CatchesUp (s t : State) : Prop where
  gateways : t.gateways.api = s.gateways.api
  policies : t.policies.api = s.policies.api
  seenGateways : ∀ k, s.gateways.pending k = [] → t.gateways.pending k = []
  seenPolicies : ∀ k, s.policies.pending k = [] → t.policies.pending k = []

section CatchesUp

variable {s t u : State} {ns : Request} {hop : Hop}

lemma CatchesUp.refl (s : State) : CatchesUp s s := ⟨rfl, rfl, fun _ h => h, fun _ h => h⟩

lemma CatchesUp.trans (h : CatchesUp s t) (h' : CatchesUp t u) : CatchesUp s u :=
  ⟨h'.gateways.trans h.gateways, h'.policies.trans h.policies,
    fun k hk => h'.seenGateways k (h.seenGateways k hk), fun k hk =>
      h'.seenPolicies k (h.seenPolicies k hk)⟩

lemma catchesUp_star (h : Relation.ReflTransGen CatchesUp s t) : CatchesUp s t := by
  induction h with
  | refl => exact .refl s
  | tail _ hr ih => exact ih.trans hr

lemma pending_deliver {κ α : Type} [DecidableEq κ] {i i' : Informer κ α} {j k : κ} {e : Event α}
    (hd : i.deliver k = some (e, i')) (hj : i.pending j = []) : i'.pending j = [] := by
  obtain ⟨_, hp, _, _, hne⟩ := deliver_eq_some hd
  by_cases hk : j = k
  · subst hk
    rw [hj] at hp
    cases hp
  · rw [hne j hk]
    exact hj

lemma catchesUp_gateway {k : NamespacedName} {e : Event Gateway}
    {i : Informer NamespacedName Gateway}
    {q : List Request} (hd : s.gateways.deliver k = some (e, i)) :
    CatchesUp s { s with gateways := i, queue := q } :=
  ⟨(deliver_eq_some hd).2.2.1, rfl, fun _ hj => pending_deliver hd hj, fun _ hj => hj⟩

lemma catchesUp_policy {k : NamespacedName} {e : Event NetworkPolicy}
    {i : Informer NamespacedName NetworkPolicy}
    {q : List Request} (hd : s.policies.deliver k = some (e, i)) :
    CatchesUp s { s with policies := i, queue := q } :=
  ⟨rfl, (deliver_eq_some hd).2.2.1, fun _ hj => hj, fun _ hj => pending_deliver hd hj⟩

lemma catchesUp_worker {w : Option (Request × Client Unit)} {q : List Request} :
    CatchesUp s { s with queue := q, worker := w } :=
  ⟨rfl, rfl, fun _ hj => hj, fun _ hj => hj⟩

end CatchesUp

section Reconcile

def answered : Handler shootClient GoError State := fun s c r t => (r, t) = s.perform c

lemma answered_perform (s : State) (c : ClientCall) :
    answered s c (s.perform c).1 (s.perform c).2 := rfl

def ClientCall.Restores (gateways : Gateways) (ns : Request) (c : ClientCall) : Prop :=
  ∀ k v, c.writes = some (k, v) → ∃ hop, k = policyKey ns hop ∧ v = wanted gateways ns hop

def Succeeds (ns : Request) (p : Client Unit) (s : State) : Prop :=
  Ensures (disturbed CatchesUp answered) (fun e => ClientCall.Restores s.gateways.api ns e.call) p
    (fun out _ => out = .ok ()) s

variable {s t : State} {ns : Request} {hop : Hop}

structure Fresh (gateways : Gateways) (ns : Request) (hop : Hop) (s : State) : Prop where
  gateways : s.gateways.api = gateways
  seen : s.policies.pending (policyKey ns hop) = []
  keyed : Keyed s

lemma Fresh.catchesUp {gateways : Gateways} (hf : Fresh gateways ns hop s) (h : CatchesUp s t) :
    Fresh gateways ns hop t := by
  refine ⟨h.gateways.trans hf.gateways, h.seenPolicies _ hf.seen, ?_⟩
  intro k np hk
  rw [h.policies] at hk
  exact hf.keyed k np hk

lemma Fresh.performed {gateways : Gateways} {c : ClientCall} {hop' : Hop}
    (hf : Fresh gateways ns hop' s)
    (hne : hop' ≠ hop) (hc : ∀ k v, c.writes = some (k, v) → k = policyKey ns hop) :
    Fresh gateways ns hop' (s.perform c).2 := by
  have hkeyed := hf.keyed.perform c
  rcases perform_writes s c with hs | ⟨k, v, hw, hs⟩
  · rw [hs]
    exact hf
  · rw [hs] at hkeyed ⊢
    refine ⟨hf.gateways, ?_, hkeyed⟩
    have hk : policyKey ns hop' ≠ k := by
      rw [hc k v hw]
      exact fun he => hne (policyKey_eq_iff.mp he).2
    change (s.policies.write k v).pending _ = []
    rw [write_pending_ne _ _ hk]
    exact hf.seen

lemma answered_fresh {gateways : Gateways} {c : ClientCall} {r : Except GoError c.Result}
    {hop' : Hop} (ha : disturbed CatchesUp answered s c r t) (hne : hop' ≠ hop)
    (hc : ∀ k v, c.writes = some (k, v) → k = policyKey ns hop) (hf : Fresh gateways ns hop' s) :
    Fresh gateways ns hop' t := by
  obtain ⟨u, hu, ha⟩ := ha
  obtain ⟨_, rfl⟩ := Prod.mk.inj ha
  exact (hf.catchesUp (catchesUp_star hu)).performed hne hc

lemma answered_get {k : NamespacedName} {r : Except GoError (ClientCall.getPolicy k).Result}
    (ha : disturbed CatchesUp answered s (.getPolicy k) r t) (hp : s.policies.pending k = []) :
    CatchesUp s t ∧ ((∃ np, s.policies.api.lookup k = some np ∧ r = .ok np) ∨
      (s.policies.api.lookup k = none ∧ r = .error notFound)) := by
  obtain ⟨u, hu, ha⟩ := ha
  have hsu := catchesUp_star hu
  have hcache := cache_eq (hsu.seenPolicies k hp)
  rw [hsu.policies] at hcache
  cases hl : s.policies.api.lookup k with
  | none =>
    rw [answered, State.perform_get_none (hcache.trans hl)] at ha
    obtain ⟨rfl, rfl⟩ := Prod.mk.inj ha
    exact ⟨hsu, Or.inr ⟨rfl, rfl⟩⟩
  | some np =>
    rw [answered, State.perform_get (hcache.trans hl)] at ha
    obtain ⟨rfl, rfl⟩ := Prod.mk.inj ha
    exact ⟨hsu, Or.inl ⟨np, rfl, rfl⟩⟩

lemma answered_create {np : NetworkPolicy} {r : Except GoError (ClientCall.createPolicy np).Result}
    (ha : disturbed CatchesUp answered s (.createPolicy np) r t)
    (hl : s.policies.api.lookup np.key = none) : r = .ok () := by
  obtain ⟨u, hu, ha⟩ := ha
  rw [← (catchesUp_star hu).policies] at hl
  rw [answered, State.perform_create hl] at ha
  exact (Prod.mk.inj ha).1

lemma answered_update {np old : NetworkPolicy}
    {r : Except GoError (ClientCall.updatePolicy np).Result}
    (ha : disturbed CatchesUp answered s (.updatePolicy np) r t)
    (hl : s.policies.api.lookup np.key = some old) : r = .ok () := by
  obtain ⟨u, hu, ha⟩ := ha
  rw [← (catchesUp_star hu).policies] at hl
  rw [answered, State.perform_update hl] at ha
  exact (Prod.mk.inj ha).1

lemma answered_delete {k : NamespacedName} {r : Except GoError (ClientCall.deletePolicy k).Result}
    (ha : disturbed CatchesUp answered s (.deletePolicy k) r t) :
    ∀ e, r = .error e → e.isNotFound = true := by
  obtain ⟨u, hu, ha⟩ := ha
  intro e he
  rw [answered, State.perform] at ha
  cases hl : u.policies.api.lookup k with
  | none =>
    rw [hl] at ha
    have hr := (Prod.mk.inj ha).1
    rw [he, Except.error.injEq] at hr
    rw [hr]
    rfl
  | some np =>
    rw [hl] at ha
    have hr := (Prod.mk.inj ha).1
    rw [he] at hr
    cases hr

def Handles (gateways : Gateways) (ns : Request) (hop : Hop) (p : Client Unit) : Prop :=
  ∀ s, Fresh gateways ns hop s → Ensures (disturbed CatchesUp answered)
    (fun e => ClientCall.Restores gateways ns e.call) p
    (fun out t => out = .ok () ∧ ∀ hop', hop' ≠ hop → Fresh gateways ns hop' s →
      Fresh gateways ns hop' t) s

lemma handles_apply {gateways : Gateways} (ns : Request) (hop : Hop)
    (hm : hasManaged gateways ns = true) : Handles gateways ns hop (apply (policyFor ns hop)) := by
  have hwanted : wanted gateways ns hop = some (policyFor ns hop) := if_pos hm
  have hrestores : ∀ c : ClientCall,
      c.writes = some ((policyFor ns hop).key, some (policyFor ns hop)) →
      c.Restores gateways ns := by
    intro c hc k v hw
    rw [hc] at hw
    cases hw
    exact ⟨hop, policyFor_key ns hop, hwanted.symm⟩
  have hown : ∀ c : ClientCall, c.writes = some ((policyFor ns hop).key, some (policyFor ns hop)) →
      ∀ k v, c.writes = some (k, v) → k = policyKey ns hop := by
    intro c hc k v hw
    rw [hc] at hw
    cases hw
    exact policyFor_key ns hop
  intro s hf
  refine ensures_wrapped (ensures_createOrUpdate (Ensures.request_iff.mpr fun r t ha => ⟨?_, ?_⟩))
  · intro k v hw
    cases hw
  rw [policyFor_key] at ha
  obtain ⟨hst, ⟨np, hl, rfl⟩ | ⟨hl, rfl⟩⟩ := answered_get ha hf.seen
  · have hmut := mutated_eq (hf.keyed _ np hl)
    dsimp only
    split_ifs with heq
    · exact ⟨rfl, fun _ _ h => h.catchesUp hst⟩
    · refine Ensures.request_iff.mpr fun r u hu => ?_
      rw [hmut] at hu
      have hl' : t.policies.api.lookup (policyFor ns hop).key = some np := by
        rw [hst.policies, policyFor_key]
        exact hl
      refine ⟨hrestores _ (by rw [hmut]; rfl), ?_, fun hop' hne h => ?_⟩
      · rw [answered_update hu hl']
        rfl
      · exact answered_fresh hu hne (hown _ rfl) (h.catchesUp hst)
  · dsimp only
    rw [if_pos (show notFound.isNotFound = true from rfl)]
    refine Ensures.request_iff.mpr fun r u hu => ?_
    have hl' : t.policies.api.lookup (policyFor ns hop).key = none := by
      rw [hst.policies, policyFor_key]
      exact hl
    refine ⟨hrestores _ rfl, ?_, fun hop' hne h => ?_⟩
    · rw [answered_create hu hl']
      rfl
    · exact answered_fresh hu hne (hown _ rfl) (h.catchesUp hst)

lemma handles_prune {gateways : Gateways} (ns : Request) (hop : Hop) (msg : String)
    (hm : hasManaged gateways ns = false) :
    Handles gateways ns hop
      (wrapped msg (ignoreNotFound (send (.deletePolicy (policyKey ns hop))))) := by
  have hwanted : wanted gateways ns hop = none := by
    rw [wanted, hm]
    rfl
  intro s hf
  refine ensures_wrapped
    (ensures_ignoreNotFound (Ensures.request_iff.mpr fun r t ha => ⟨?_, ?_, ?_⟩))
  · intro k v hw
    cases hw
    exact ⟨hop, rfl, hwanted.symm⟩
  · refine fun _ => ⟨rfl, fun hop' hne h => answered_fresh ha hne (fun k v hw => ?_) h⟩
    cases hw
    rfl
  · intro e he hn
    rw [answered_delete ha e he] at hn
    cases hn

lemma ensures_handles {gateways : Gateways} {p q : Client Unit}
    (hp : Handles gateways ns .proxyIngress p)
    (hq : Handles gateways ns .proxyEgress q) (hf : ∀ hop, Fresh gateways ns hop s) :
    Ensures (disturbed CatchesUp answered) (fun e => ClientCall.Restores gateways ns e.call)
      (p >>= fun _ => q) (fun out _ => out = .ok ()) s := by
  refine Ensures.bind (hp s (hf _)) (fun _ t ht => ?_) fun e t ht => ht.1
  have hegress := ht.2 .proxyEgress (by decide) (hf _)
  exact (hq t hegress).mono (fun _ hj => hj) fun _ _ h => h.1

lemma answered_list {r : Except GoError (ClientCall.listGateways ns).Result}
    (ha : disturbed CatchesUp answered s (.listGateways ns) r t) (hc : CaughtUp ns s) :
    CatchesUp s t ∧ ∃ gws, r = .ok gws ∧ gws.any isManaged = hasManaged s.gateways.api ns := by
  obtain ⟨u, hu, ha⟩ := ha
  have hsu := catchesUp_star hu
  obtain ⟨rfl, rfl⟩ := Prod.mk.inj ha
  refine ⟨hsu, _, rfl, ?_⟩
  change hasManaged t.gateways.cache ns = _
  apply hasManaged_congr
  intro k hk
  rw [cache_eq (hsu.seenGateways k (hc.gateways k hk)), hsu.gateways]

lemma succeeds_reconcile (hk : Keyed s) (hc : CaughtUp ns s) : Succeeds ns (reconcile ns) s := by
  have hfresh : ∀ hop, Fresh s.gateways.api ns hop s := fun hop => ⟨rfl, hc.policies hop, hk⟩
  refine Ensures.bind (P := fun out t => CatchesUp s t ∧ out = .ok (hasManaged s.gateways.api ns))
    ?_ ?_ ?_
  · refine Ensures.bind (P := fun out t => CatchesUp s t ∧
      ∃ gws, out = .ok gws ∧ gws.any isManaged = hasManaged s.gateways.api ns) ?_ ?_ ?_
    · refine ensures_wrapped (Ensures.request_iff.mpr fun r t ha => ⟨?_, ?_⟩)
      · intro k v hw
        cases hw
      · obtain ⟨hst, gws, rfl, hany⟩ := answered_list ha hc
        exact ⟨hst, gws, rfl, hany⟩
    · rintro gws t ⟨hst, gws', he, hany⟩
      cases he
      exact ⟨hst, congrArg Except.ok hany⟩
    · rintro e t ⟨_, gws, he, _⟩
      cases he
  · rintro b t ⟨hst, hb⟩
    have hft : ∀ hop, Fresh s.gateways.api ns hop t := fun hop => (hfresh hop).catchesUp hst
    cases hb
    cases hm : hasManaged s.gateways.api ns with
    | false =>
      change Ensures _ _ (pruneNamespace ns) _ _
      rw [pruneNamespace_eq]
      exact ensures_handles (handles_prune ns .proxyIngress _ hm)
        (handles_prune ns .proxyEgress _ hm) hft
    | true =>
      exact ensures_handles (handles_apply ns .proxyIngress hm)
        (handles_apply ns .proxyEgress hm) hft
  · rintro e t ⟨_, he⟩
    cases he

end Reconcile

section Budget

variable {s t : State} {ns : Request} {hop : Hop} {n : ℕ}

lemma within_apply (np : NetworkPolicy) : (apply np).Within 2 := by
  apply Prog.within_mapFault
  apply Prog.within_bind (m := 1) (n := 1) (Prog.within_attempt (Prog.within_request _))
  intro x
  cases x with
  | ok np' =>
    dsimp only
    split_ifs
    · trivial
    · exact Prog.within_request _
  | error e =>
    dsimp only
    split_ifs
    · exact Prog.within_request _
    · trivial

lemma within_deletePolicyNamed (ns name : String) : (deletePolicyNamed ns name).Within 2 := by
  apply Prog.within_mapFault
  apply Prog.within_bind (m := 1) (n := 1) (Prog.within_attempt (Prog.within_request _))
  intro x
  cases x with
  | ok u => trivial
  | error e =>
    dsimp only
    split_ifs <;> trivial

lemma within_reconcile (ns : Request) : (reconcile ns).Within 5 := by
  apply Prog.within_bind (m := 1) (n := 4)
  · exact Prog.within_bind (m := 1) (n := 0) (Prog.within_mapFault _ (Prog.within_request _))
      fun _ => trivial
  · intro b
    cases b with
    | false =>
      change (pruneNamespace ns).Within 4
      rw [pruneNamespace_eq]
      exact Prog.within_bind (m := 2) (n := 2) (within_deletePolicyNamed _ _) fun _ =>
        within_deletePolicyNamed _ _
    | true => exact Prog.within_bind (m := 2) (n := 2) (within_apply _) fun _ => within_apply _

def outOfSync (s : State) : Set (Request × Hop) :=
  {x | s.policies.api.lookup (policyKey x.1 x.2) ≠ wanted s.gateways.api x.1 x.2}

lemma outOfSync_finite (s : State) : (outOfSync s).Finite := by
  let namespaces := (s.policies.api.items.map fun e => e.1.namespace) ++ s.gateways.api.items.map
    fun e => e.1.namespace
  have hbig : (Set.Finite {x : Request × Hop | x.1 ∈ namespaces}) := by
    have hprod :
      ({ns | ns ∈ namespaces} ×ˢ ({Hop.proxyIngress, Hop.proxyEgress} : Set Hop)).Finite :=
      (List.finite_toSet namespaces).prod (Set.toFinite _)
    refine hprod.subset ?_
    rintro ⟨ns, hop⟩ hns
    exact ⟨hns, by cases hop <;> simp⟩
  refine hbig.subset ?_
  rintro ⟨ns, hop⟩ hx
  by_contra hns
  obtain ⟨hpolicy, hgateway⟩ := not_or.mp (mt List.mem_append.mpr hns)
  refine hx ?_
  have habsent : s.policies.api.lookup (policyKey ns hop) = none := by
    rw [Option.eq_none_iff_forall_ne_some]
    intro np hnp
    exact hpolicy (List.mem_map.mpr ⟨_, Store.mem_items.mpr hnp, rfl⟩)
  have hnone : ¬ hasManaged s.gateways.api ns = true := by
    intro hm
    obtain ⟨k, gw, hl, hk, _⟩ := hasManaged_iff.mp hm
    exact hgateway (List.mem_map.mpr ⟨_, Store.mem_items.mpr hl, hk⟩)
  rw [habsent, wanted, if_neg hnone]

lemma outOfSync_write (s : State) (ns : Request) (hop : Hop) :
    outOfSync (s.writePolicy (policyKey ns hop) (wanted s.gateways.api ns hop)) = outOfSync s \
      {(ns, hop)} := by
  ext ⟨ns', hop'⟩
  change (s.policies.api.set _ _).lookup _ ≠ _ ↔ s.policies.api.lookup _ ≠ _ ∧ _
  by_cases hx : ns' = ns ∧ hop' = hop
  · obtain ⟨rfl, rfl⟩ := hx
    rw [Store.lookup_set_self]
    simp [State.writePolicy]
  · rw [Store.lookup_set_ne _ _ (mt policyKey_eq_iff.mp hx)]
    simp only [State.writePolicy, Set.mem_singleton_iff, Prod.mk.injEq, hx,
      not_false_eq_true, and_true]

def Left : ℕ → Option (Request × Client Unit) → Prop
  | _, none => True
  | n, some (_, p) => ∃ m, n = m + 1 ∧ p.Within m

noncomputable def backlogOf (s : State) : ℕ :=
  15 * ((outOfSync s).ncard + s.gateways.events.length + s.policies.events.length) +
    7 * s.queue.length

def Affords (n : ℕ) (s : State) : Prop := ∃ w, Left w s.worker ∧ backlogOf s + w ≤ n

structure OnCourse (s : State) : Prop where
  running : s.running = true
  keyed : Keyed s
  worker : ∀ r p, s.worker = some (r, p) → Succeeds r p s

lemma Succeeds.catchesUp {p : Client Unit} (hp : Succeeds ns p s) (h : CatchesUp s t) :
    Succeeds ns p t := by
  rw [Succeeds, h.gateways]
  exact Ensures.environment (I := shootClient) (J := fun c => c.Restores s.gateways.api ns)
    (Q := fun out => out = .ok ()) hp h

lemma OnCourse.catchesUp (ho : OnCourse s) (h : CatchesUp s t) (hr : t.running = true)
    (hw : t.worker = s.worker) : OnCourse t := by
  refine ⟨hr, ?_, ?_⟩
  · intro k np hk
    rw [h.policies] at hk
    exact ho.keyed k np hk
  · intro r p hp
    rw [hw] at hp
    exact (ho.worker r p hp).catchesUp h

lemma outOfSync_catchesUp (h : CatchesUp s t) : outOfSync t = outOfSync s := by
  rw [outOfSync, outOfSync, h.gateways, h.policies]

lemma enqueued_length (q reqs : List Request) :
    (reqs.foldl (fun q r => if r ∈ q then q else q ++ [r]) q).length ≤ q.length + reqs.length := by
  induction reqs generalizing q with
  | nil => simp
  | cons r reqs ih =>
    rw [List.foldl_cons, List.length_cons]
    refine (ih _).trans ?_
    split_ifs
    · omega
    · rw [List.length_append, List.length_singleton]
      omega

lemma gatewayRequests_length (e : Event Gateway) : (gatewayRequests e).length ≤ 2 := by
  rw [gatewayRequests]
  split_ifs
  · cases e <;> simp [Event.objects, mapGatewayToRequests]
  · simp

lemma mapManagedPolicyToRequests_length (np : NetworkPolicy) :
    (mapManagedPolicyToRequests np).length ≤ 1 := by
  rw [mapManagedPolicyToRequests]
  split_ifs <;> simp

lemma policyRequests_length (e : Event NetworkPolicy) : (policyRequests e).length ≤ 2 := by
  rw [policyRequests]
  split_ifs
  · cases e with
    | create np =>
      have hnp := mapManagedPolicyToRequests_length np
      simp only [Event.objects, List.flatMap_cons, List.flatMap_nil, List.append_nil]
      omega
    | update old new =>
      have hold := mapManagedPolicyToRequests_length old
      have hnew := mapManagedPolicyToRequests_length new
      simp only [Event.objects, List.flatMap_cons, List.flatMap_nil, List.append_nil,
        List.length_append]
      omega
    | delete np =>
      have hnp := mapManagedPolicyToRequests_length np
      simp only [Event.objects, List.flatMap_cons, List.flatMap_nil, List.append_nil]
      omega
  · simp

inductive Prompted (s : State) : State → Prop
  | gateway {k : NamespacedName} {e : Event Gateway} {i : Informer NamespacedName Gateway} :
      s.gateways.deliver k = some (e, i) →
        Prompted s ({ s with gateways := i }.enqueue (gatewayRequests e))
  | policy {k : NamespacedName} {e : Event NetworkPolicy}
      {i : Informer NamespacedName NetworkPolicy} :
      s.policies.deliver k = some (e, i) →
        Prompted s ({ s with policies := i }.enqueue (policyRequests e))
  | take {r : Request} : s.worker = none → r ∈ s.queue → CaughtUp r s →
      Prompted s { s with queue := s.queue.filter (· ≠ r), worker := some (r, reconcile r) }
  | answer {r : Request} {c : ClientCall} {k : Except GoError c.Result → Client Unit} :
      s.worker = some (r, .call c k) → Prompted s (reply (s.perform c).2 r (k (s.perform c).1))
  | finish {r : Request} : s.worker = some (r, .ret ()) → Prompted s { s with worker := none }
  | requeue {r : Request} {e : GoError} : s.worker = some (r, .fail e) →
      Prompted s ({ s with worker := none }.enqueue [r])

lemma prompted_of_step {a : Action} (ha : Prompt s a) (h : step s a = some t) : Prompted s t := by
  cases a with
  | deliverGateway k =>
    cases steps_of_step h with
    | deliverGateway _ hd => exact .gateway hd
    | replied ha => simp at ha
  | deliverPolicy k =>
    cases steps_of_step h with
    | deliverPolicy _ hd => exact .policy hd
    | replied ha => simp at ha
  | take r =>
    cases steps_of_step h with
    | take _ hw hq => exact .take (Option.isNone_iff_eq_none.mp hw) hq ha
    | replied ha => simp at ha
  | answer =>
    simp only [step] at h
    split at h
    · next r c k hw =>
      cases h
      exact .answer hw
    · cases h
  | finish =>
    cases steps_of_step h with
    | finish hw => exact .finish hw
    | requeue hw => exact .requeue hw
    | replied ha => simp at ha
  | _ => exact ha.elim

lemma OnCourse.not_failed {r : Request} {e : GoError} (ho : OnCourse s)
    (hw : s.worker = some (r, .fail e)) : False := by
  have hout : Except.error e = Except.ok () := ho.worker r _ hw
  cases hout

lemma OnCourse.restores {r : Request} {c : ClientCall} {k : Except GoError c.Result → Client Unit}
    (ho : OnCourse s) (hw : s.worker = some (r, .call c k)) : c.Restores s.gateways.api r :=
  (Ensures.answered (ho.worker r _ hw) (answered_perform s c)).1

lemma perform_frame (s : State) (c : ClientCall) :
    (s.perform c).2.gateways = s.gateways ∧ (s.perform c).2.running = s.running ∧
    (s.perform c).2.queue = s.queue := by
  rcases perform_writes s c with hs | ⟨k, v, _, hs⟩
  · rw [hs]
    exact ⟨rfl, rfl, rfl⟩
  · rw [hs]
    exact ⟨rfl, rfl, rfl⟩

lemma OnCourse.step (ho : OnCourse s) (h : Prompted s t) : OnCourse t := by
  cases h with
  | gateway hd => exact ho.catchesUp (catchesUp_gateway hd) ho.running rfl
  | policy hd => exact ho.catchesUp (catchesUp_policy hd) ho.running rfl
  | take hw hq hc =>
    refine ⟨ho.running, ho.keyed, ?_⟩
    intro r' p hp
    obtain ⟨rfl, rfl⟩ := Prod.mk.inj (Option.some.inj hp)
    exact (succeeds_reconcile ho.keyed hc).catchesUp catchesUp_worker
  | @answer r c k hw =>
    obtain ⟨hg, hr, _⟩ := perform_frame s c
    refine ⟨hr.trans ho.running, ho.keyed.perform c, ?_⟩
    intro r' p hp
    obtain ⟨rfl, rfl⟩ := Prod.mk.inj (Option.some.inj hp)
    have hrest := (Ensures.answered (ho.worker r _ hw) (answered_perform s c)).2
    rw [← hg] at hrest
    exact Succeeds.catchesUp hrest catchesUp_worker
  | finish hw => exact ⟨ho.running, ho.keyed, fun _ _ hp => by cases hp⟩
  | requeue hw => exact (ho.not_failed hw).elim

lemma backlogOf_perform {c : ClientCall} (hc : c.Restores s.gateways.api ns) :
    backlogOf (s.perform c).2 ≤ backlogOf s := by
  rcases perform_writes s c with hs | ⟨k, v, hw, hs⟩
  · rw [hs]
  · obtain ⟨hop, rfl, rfl⟩ := hc k v hw
    obtain ⟨hle, hsame⟩ := write_length s.policies (policyKey ns hop) (wanted s.gateways.api ns hop)
    rw [hs, backlogOf, backlogOf, outOfSync_write]
    change 15 * (_ + s.gateways.events.length + (s.policies.write _ _).events.length) +
      7 * s.queue.length ≤ _
    by_cases hx : (ns, hop) ∈ outOfSync s
    · have hcard := Set.ncard_sdiff_singleton_add_one hx (outOfSync_finite s)
      omega
    · rw [Set.sdiff_singleton_eq_self hx, hsame (not_not.mp hx)]

lemma affords_of {w : ℕ} (hw : Left w t.worker) (h : backlogOf t + w < n) : ∃ m < n, Affords m t :=
  ⟨_, h, w, hw, le_rfl⟩

lemma backlogOf_gateway {k : NamespacedName} {e : Event Gateway}
    {i : Informer NamespacedName Gateway} (hd : s.gateways.deliver k = some (e, i)) :
    backlogOf ({ s with gateways := i }.enqueue (gatewayRequests e)) < backlogOf s := by
  have hsync : outOfSync ({ s with gateways := i }.enqueue (gatewayRequests e)) = outOfSync s :=
    outOfSync_catchesUp (catchesUp_gateway hd)
  have hqueue : ({ s with gateways := i }.enqueue (gatewayRequests e)).queue.length ≤
    s.queue.length + 2 :=
    (enqueued_length s.queue _).trans (Nat.add_le_add_left (gatewayRequests_length e) _)
  have hevents : s.gateways.events.length =
      ({ s with gateways := i }.enqueue (gatewayRequests e)).gateways.events.length + 1 :=
    deliver_length hd
  have hothers : ({ s with gateways := i }.enqueue (gatewayRequests e)).policies = s.policies := rfl
  rw [backlogOf, backlogOf, hsync, hothers]
  omega

lemma backlogOf_policy {k : NamespacedName} {e : Event NetworkPolicy}
    {i : Informer NamespacedName NetworkPolicy} (hd : s.policies.deliver k = some (e, i)) :
    backlogOf ({ s with policies := i }.enqueue (policyRequests e)) < backlogOf s := by
  have hsync : outOfSync ({ s with policies := i }.enqueue (policyRequests e)) = outOfSync s :=
    outOfSync_catchesUp (catchesUp_policy hd)
  have hqueue : ({ s with policies := i }.enqueue (policyRequests e)).queue.length ≤
    s.queue.length + 2 :=
    (enqueued_length s.queue _).trans (Nat.add_le_add_left (policyRequests_length e) _)
  have hevents : s.policies.events.length =
      ({ s with policies := i }.enqueue (policyRequests e)).policies.events.length + 1 :=
    deliver_length hd
  have hothers : ({ s with policies := i }.enqueue (policyRequests e)).gateways = s.gateways := rfl
  rw [backlogOf, backlogOf, hsync, hothers]
  omega

lemma backlogOf_take {r : Request} {w : Option (Request × Client Unit)} (hq : r ∈ s.queue) :
    backlogOf { s with queue := s.queue.filter (· ≠ r), worker := w } + 7 ≤ backlogOf s := by
  have hshorter : (s.queue.filter (· ≠ r)).length < s.queue.length :=
    List.length_filter_lt_length_iff_exists.mpr ⟨r, hq, by simp⟩
  have hsync : outOfSync { s with queue := s.queue.filter (· ≠ r), worker := w } =
    outOfSync s := rfl
  rw [backlogOf, backlogOf, hsync]
  dsimp only
  omega

lemma Affords.step (ho : OnCourse s) (h : Prompted s t) (hs : Affords n s) :
    ∃ m < n, Affords m t := by
  obtain ⟨w, hw, hn⟩ := hs
  cases h with
  | gateway hd =>
    have hless := backlogOf_gateway hd
    exact affords_of hw (by omega)
  | policy hd =>
    have hless := backlogOf_policy hd
    exact affords_of hw (by omega)
  | @take r hnone hq hc =>
    have hless := backlogOf_take (w := some (r, reconcile r)) hq
    exact affords_of ⟨5, rfl, within_reconcile r⟩ (by omega)
  | @answer r c k hworker =>
    rw [hworker] at hw
    obtain ⟨m, rfl, hm⟩ := hw
    cases m with
    | zero => exact hm.elim
    | succ m =>
      have hle : backlogOf (reply (s.perform c).2 r (k (s.perform c).1)) ≤ backlogOf s :=
        backlogOf_perform (ho.restores hworker)
      exact affords_of ⟨m, rfl, hm _⟩ (by omega)
  | @finish r hworker =>
    rw [hworker] at hw
    obtain ⟨m, rfl, _⟩ := hw
    have hsame : backlogOf { s with worker := none } = backlogOf s := rfl
    exact affords_of (w := 0) trivial (by omega)
  | requeue hworker => exact (ho.not_failed hworker).elim

end Budget

section Rest

variable {s t : State}

structure Beside (s t : State) : Prop where
  gateways : t.gateways.api = s.gateways.api
  foreign : ∀ k, (∀ ns hop, k ≠ policyKey ns hop) →
    t.policies.api.lookup k = s.policies.api.lookup k

lemma Beside.trans {u : State} (h : Beside s t) (h' : Beside t u) : Beside s u :=
  ⟨h'.gateways.trans h.gateways, fun k hk => (h'.foreign k hk).trans (h.foreign k hk)⟩

lemma CatchesUp.beside (h : CatchesUp s t) : Beside s t :=
  ⟨h.gateways, fun k _ => congrArg (AList.lookup k) h.policies⟩

lemma beside_step (ho : OnCourse s) (h : Prompted s t) : Beside s t := by
  cases h with
  | gateway hd => exact (catchesUp_gateway hd).beside
  | policy hd => exact (catchesUp_policy hd).beside
  | take => exact catchesUp_worker.beside
  | @answer r c k hw =>
    have hc := ho.restores hw
    refine Beside.trans (t := (s.perform c).2) ?_ catchesUp_worker.beside
    rcases perform_writes s c with hs | ⟨j, v, hv, hs⟩
    · rw [hs]
      exact (CatchesUp.refl s).beside
    · obtain ⟨hop, rfl, _⟩ := hc j v hv
      rw [hs]
      exact ⟨rfl, fun k hk => Store.lookup_set_ne _ _ (hk r hop)⟩
  | finish => exact catchesUp_worker.beside
  | requeue => exact catchesUp_worker.beside

lemma prompt_or_quiescent (hr : s.running = true) : Quiescent s ∨ ∃ a t, Prompt s a ∧
      step s a = some t := by
  by_cases hg : s.gateways.events = []
  · by_cases hp : s.policies.events = []
    · cases hw : s.worker with
      | some x =>
        obtain ⟨r, p⟩ := x
        right
        cases p with
        | ret u => exact ⟨.finish, _, trivial, by simp only [step, hw]; rfl⟩
        | fail e => exact ⟨.finish, _, trivial, by simp only [step, hw]; rfl⟩
        | call c k => exact ⟨.answer, _, trivial, by simp only [step, hw]; rfl⟩
      | none =>
        cases hq : s.queue with
        | nil => exact Or.inl ⟨hr, hq, by rw [hw]; rfl, by rw [hg]; rfl, by rw [hp]; rfl⟩
        | cons r q =>
          have hc : CaughtUp r s :=
            ⟨fun k _ => pending_of_events hg k, fun hop => pending_of_events hp _⟩
          exact Or.inr ⟨.take r, _, hc,
            if_pos ⟨hr, by rw [hw]; rfl, by rw [hq]; exact List.mem_cons_self⟩⟩
    · obtain ⟨k, d, hd⟩ := deliver_of_mem hp
      exact Or.inr ⟨.deliverPolicy k, _, trivial, by simp only [step, hr, hd]; rfl⟩
  · obtain ⟨k, d, hd⟩ := deliver_of_mem hg
    exact Or.inr ⟨.deliverGateway k, _, trivial, by simp only [step, hr, hd]; rfl⟩

lemma prompt_admissible {a : Action} (h : Prompt s a) : Admissible .perObject s a := by
  cases a <;> trivial

lemma rest_of_tracked (htracked : Tracked .perObject s) (hkeyed : Keyed s) (hrun : s.running = true)
    (hidle : s.worker = none) {as : List Action} (hpath : Path step Prompt s as t) :
    as.length ≤ backlogOf s ∧
      ((∃ a u, Prompt t a ∧ step t a = some u) ∨ Quiescent t) ∧
      (Quiescent t →
        (∀ ns hop, t.policies.api.lookup (policyKey ns hop) = wanted s.gateways.api ns hop) ∧
        ∀ k, (∀ ns hop, k ≠ policyKey ns hop) →
          t.policies.api.lookup k = s.policies.api.lookup k) := by
  have hcourse : OnCourse s := ⟨hrun, hkeyed, fun _ _ hp => by rw [hidle] at hp; cases hp⟩
  have hkept : OnCourse t ∧ Beside s t := by
    refine hpath.invariant (J := fun u => OnCourse u ∧ Beside s u) ?_
      ⟨hcourse, (CatchesUp.refl s).beside⟩
    rintro u a v ha hn ⟨ho, hb⟩
    have hstep := prompted_of_step ha hn
    exact ⟨ho.step hstep, hb.trans (beside_step ho hstep)⟩
  refine ⟨?_, (prompt_or_quiescent hkept.1.running).symm,
    fun hq => ⟨fun ns hop => ?_, hkept.2.foreign⟩⟩
  · refine hpath.length_le (K := fun n u => OnCourse u ∧ Affords n u) ?_
      ⟨hcourse, 0, by rw [hidle]; trivial, le_rfl⟩
    rintro n u a v ha hn ⟨ho, hb⟩
    have hstep := prompted_of_step ha hn
    obtain ⟨m, hm, hk⟩ := hb.step ho hstep
    exact ⟨m, hm, ho.step hstep, hk⟩
  · have hmore := hpath.reach (B := Admissible .perObject) fun _ _ h => prompt_admissible h
    have hsync := ((tracked_reach htracked hmore).active hq.1).inSync hq ns hop
    rw [hkept.2.gateways] at hsync
    exact hsync

theorem controller_comes_to_rest {gws : List Gateway} {nps : List NetworkPolicy}
    (hnps : ∀ np ∈ nps, ∀ ns hop, np.key ≠ policyKey ns hop)
    (hreach : Reach step (Admissible .perObject) (initial gws nps) s) (hrun : s.running = true)
    (hidle : s.worker = none) {as : List Action} (hpath : Path step Prompt s as t) :
    as.length ≤ backlogOf s ∧
      ((∃ a u, Prompt t a ∧ step t a = some u) ∨ Quiescent t) ∧
      (Quiescent t →
        (∀ ns hop, t.policies.api.lookup (policyKey ns hop) = wanted s.gateways.api ns hop) ∧
        ∀ k, (∀ ns hop, k ≠ policyKey ns hop) →
          t.policies.api.lookup k = s.policies.api.lookup k) := by
  have htracked := tracked_reach (tracked_initial .perObject hnps) hreach
  exact rest_of_tracked htracked (keyed_reach hreach) hrun hidle hpath

theorem controller_comes_to_rest_started :
    ∃ s t, run (initial [defaultGateway] []) [.start] = some s ∧
    Path step Prompt s [.take "default", .deliverGateway ⟨"default", "eg"⟩] t ∧ 2 ≤ backlogOf s ∧
    ((∃ a u, Prompt t a ∧ step t a = some u) ∨ Quiescent t) := by
  obtain ⟨s, hs⟩ : ∃ s, run (initial [defaultGateway] []) [.start] = some s := ⟨_, rfl⟩
  obtain ⟨u, hu, hg, hp⟩ : ∃ u, step s (.deliverGateway ⟨"default", "eg"⟩) = some u ∧
      u.gateways.events = [] ∧ u.policies.events = [] := by
    cases hs
    exact ⟨_, rfl, rfl, rfl⟩
  obtain ⟨t, ht⟩ : ∃ t, step u (.take "default") = some t := by
    cases hs
    cases hu
    exact ⟨_, rfl⟩
  have hc : CaughtUp "default" u :=
    ⟨fun k _ => pending_of_events hg k, fun hop => pending_of_events hp _⟩
  have hpath : Path step Prompt s [.take "default", .deliverGateway ⟨"default", "eg"⟩] t :=
    .step (.step .nil trivial hu) hc ht
  have hreach : Reach step (Admissible .perObject) (initial [defaultGateway] []) s :=
    .of_runSteps hs fun a ha _ => by
      rw [List.mem_singleton.mp ha]
      trivial
  have hidle : s.running = true ∧ s.worker = none := by
    cases hs
    exact ⟨rfl, rfl⟩
  have hrest := controller_comes_to_rest (by simp) hreach hidle.1 hidle.2 hpath
  exact ⟨s, t, hs, hpath, hrest.1, hrest.2.1⟩

end Rest

end EnvoyGatewayExtension.NetpolController
