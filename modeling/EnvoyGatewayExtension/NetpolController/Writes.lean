import EnvoyGatewayExtension.Effects.Triples
import EnvoyGatewayExtension.NetpolController.Convergence

namespace EnvoyGatewayExtension.NetpolController

open Effects Kubernetes EnvoyGateway Stores

@[ext] structure Objects where
  gateways : Gateways
  policies : Policies
  keyed : ∀ k np, policies.lookup k = some np → np.key = k

variable {o o' t : Objects} {ns : String} {hop : Hop} {k : NamespacedName}
  {v : Option NetworkPolicy}

section CurrentReads

def Objects.state (o : Objects) : State where
  gateways := .synced o.gateways
  policies := .synced o.policies
  queue := []
  worker := none
  running := true

def current : Handler shootClient GoError Objects := fun o c r o' =>
  ∃ s, Answers o.state c r s ∧ o'.gateways = s.gateways.api ∧ o'.policies = s.policies.api

def ClientCall.writes : ClientCall → Option (NamespacedName × Option NetworkPolicy)
  | createPolicy np => some (np.key, some np)
  | updatePolicy np => some (np.key, some np)
  | deletePolicy k => some (k, none)
  | _ => none

lemma perform_writes (s : State) (c : ClientCall) :
    (s.perform c).2 = s ∨ ∃ k v, c.writes = some (k, v) ∧ (s.perform c).2 = s.writePolicy k v := by
  cases c with
  | listGateways ns => exact Or.inl rfl
  | getPolicy k =>
    left
    simp only [State.perform]
    split <;> rfl
  | createPolicy np =>
    simp only [State.perform]
    split
    · exact Or.inl rfl
    · exact Or.inr ⟨_, _, rfl, rfl⟩
  | updatePolicy np =>
    simp only [State.perform]
    split
    · exact Or.inr ⟨_, _, rfl, rfl⟩
    · exact Or.inl rfl
  | deletePolicy k =>
    simp only [State.perform]
    split
    · exact Or.inr ⟨_, _, rfl, rfl⟩
    · exact Or.inl rfl

lemma current_writes {c : ClientCall} {r : Except GoError c.Result} (h : current o c r o') :
    o' = o ∨ ∃ k v, c.writes = some (k, v) ∧ o'.gateways = o.gateways ∧
    o'.policies = o.policies.set k v := by
  obtain ⟨s, ha, hg, hp⟩ := h
  have hs : s = o.state ∨ ∃ k v, c.writes = some (k, v) ∧ s = o.state.writePolicy k v := by
    cases ha with
    | done => exact perform_writes o.state c
    | refused => exact Or.inl rfl
    | lost => exact perform_writes o.state c
  rcases hs with rfl | ⟨k, v, hc, rfl⟩
  · exact Or.inl (Objects.ext hg hp)
  · exact Or.inr ⟨k, v, hc, hg, hp⟩

lemma perform_keyed (o : Objects) (c : ClientCall) {np : NetworkPolicy}
    (h : (o.state.perform c).2.policies.api.lookup k = some np) : np.key = k := by
  rcases perform_writes o.state c with hs | ⟨j, v, hc, hs⟩
  · rw [hs] at h
    exact o.keyed k np h
  · rw [hs] at h
    have hl : (o.policies.set j v).lookup k = some np := h
    rw [Store.lookup_set] at hl
    split_ifs at hl with hk
    · subst hl hk
      cases c <;> cases hc <;> rfl
    · exact o.keyed k np hl

def Objects.perform (o : Objects) (c : ClientCall) : Except GoError c.Result × Objects :=
  ((o.state.perform c).1, ⟨(o.state.perform c).2.gateways.api, (o.state.perform c).2.policies.api,
    fun _ _ h => perform_keyed o c h⟩)

lemma current_perform (o : Objects) (c : ClientCall) :
    current o c (o.perform c).1 (o.perform c).2 :=
  ⟨_, .done, rfl, rfl⟩

lemma current_list {r : Except GoError (ClientCall.listGateways ns).Result}
    (h : current o (.listGateways ns) r o') :
    o' = o ∧ ∀ gws, r = .ok gws → hasManaged o.gateways ns = gws.any isManaged := by
  obtain ⟨s, ha, hg, hp⟩ := h
  obtain ⟨rfl, hr⟩ := answers_list ha
  exact ⟨Objects.ext hg hp, hr⟩

lemma current_get {r : Except GoError (ClientCall.getPolicy k).Result}
    (h : current o (.getPolicy k) r o') :
    o' = o ∧ (∀ np, r = .ok np → o.policies.lookup k = some np) ∧
      ∀ e, r = .error e → e.isNotFound = true → o.policies.lookup k = none := by
  obtain ⟨s, ha, hg, hp⟩ := h
  obtain ⟨rfl, hr⟩ := answers_get ha
  exact ⟨Objects.ext hg hp, hr⟩

lemma current_create {np : NetworkPolicy} {r : Except GoError (ClientCall.createPolicy np).Result}
    (h : current o (.createPolicy np) r o') (hr : r = .ok ()) :
    o'.policies = o.policies.set np.key (some np) := by
  subst hr
  obtain ⟨s, ha, _, hp⟩ := h
  rw [hp, answers_put.1 ha]
  rfl

lemma current_update {np : NetworkPolicy} {r : Except GoError (ClientCall.updatePolicy np).Result}
    (h : current o (.updatePolicy np) r o') (hr : r = .ok ()) :
    o'.policies = o.policies.set np.key (some np) := by
  subst hr
  obtain ⟨s, ha, _, hp⟩ := h
  rw [hp, answers_put.2 ha]
  rfl

lemma current_delete {r : Except GoError (ClientCall.deletePolicy k).Result}
    (h : current o (.deletePolicy k) r o') (hr : ∀ e, r = .error e → e.isNotFound = true) :
    o'.policies.lookup k = none := by
  obtain ⟨s, ha, _, hp⟩ := h
  rw [hp]
  rcases answers_delete ha hr with rfl | ⟨rfl, hn⟩
  · exact Store.lookup_set_self _ k none
  · exact hn

lemma current_delete_absent {r : Except GoError (ClientCall.deletePolicy k).Result}
    (h : current o (.deletePolicy k) r o') (hn : o.policies.lookup k = none) : o' = o := by
  obtain ⟨s, ha, hg, hp⟩ := h
  have hperform : (o.state.perform (.deletePolicy k)).2 = o.state := by
    have hapi : o.state.policies.api.lookup k = none := hn
    simp only [State.perform, hapi]
  have hs : s = o.state := by
    cases ha with
    | done => exact hperform
    | refused => rfl
    | lost => exact hperform
  subst hs
  exact Objects.ext hg hp

end CurrentReads

section OnePolicy

structure Drives (k : NamespacedName) (v : Option NetworkPolicy) (o t : Objects) : Prop where
  gateways : t.gateways = o.gateways
  others : ∀ j, j ≠ k → t.policies.lookup j = o.policies.lookup j
  moved : t.policies.lookup k = o.policies.lookup k ∨ t.policies.lookup k = v
  still : o.policies.lookup k = v → t = o

lemma Drives.refl (k : NamespacedName) (v : Option NetworkPolicy) (o : Objects) : Drives k v o o :=
  ⟨rfl, fun _ _ => rfl, Or.inl rfl, fun _ => rfl⟩

lemma drives_of_writes {c : ClientCall} {r : Except GoError c.Result} (h : current o c r t)
    (hc : c.writes = some (k, v)) (hstill : o.policies.lookup k = v → t = o) : Drives k v o t := by
  rcases current_writes h with rfl | ⟨j, u, hj, hg, hp⟩
  · exact Drives.refl k v t
  · rw [hc] at hj
    cases hj
    refine ⟨hg, fun j hj => ?_, Or.inr ?_, hstill⟩
    · rw [hp, Store.lookup_set_ne _ _ hj]
    · rw [hp, Store.lookup_set_self]

def Lands (k : NamespacedName) (v : Option NetworkPolicy) (o : Objects) (out : Except GoError Unit)
    (t : Objects) : Prop :=
  Drives k v o t ∧ ∀ u, out = .ok u → t.policies.lookup k = v

lemma ensures_apply (ns : String) (hop : Hop) (o : Objects) :
    Ensures current (fun _ => True) (apply (policyFor ns hop))
      (Lands (policyKey ns hop) (some (policyFor ns hop)) o) o := by
  refine ensures_wrapped_ok
    (ensures_createOrUpdate (Ensures.request_iff.mpr fun r t ha => ⟨trivial, ?_⟩))
  rw [policyFor_key] at ha
  obtain ⟨rfl, hok, herr⟩ := current_get ha
  cases r with
  | error e =>
    dsimp only
    split_ifs with hn
    · have habsent := herr e rfl hn
      refine Ensures.request_iff.mpr fun r u ha => ⟨trivial, ?_, fun _ hu => ?_⟩
      · refine drives_of_writes ha (by rw [← policyFor_key]; rfl) fun hl => ?_
        rw [habsent] at hl
        cases hl
      · rw [current_create ha hu, ← policyFor_key]
        exact Store.lookup_set_self _ _ _
    · exact ⟨Drives.refl _ _ _, fun _ hu => by cases hu⟩
  | ok np =>
    have hl := hok np rfl
    have hm := mutated_eq (t.keyed _ np hl)
    dsimp only
    split_ifs with heq
    · refine ⟨Drives.refl _ _ _, fun _ _ => ?_⟩
      rw [hl, ← heq, hm]
    · refine Ensures.request_iff.mpr fun r u ha => ⟨trivial, ?_, fun _ hu => ?_⟩
      · refine drives_of_writes ha (by rw [hm, ← policyFor_key]; rfl) fun hsame => ?_
        rw [hl, Option.some.injEq] at hsame
        exact absurd (hm.trans hsame.symm) heq
      · rw [current_update ha hu, hm, ← policyFor_key]
        exact Store.lookup_set_self _ _ _

lemma ensures_prune (msg : String) (k : NamespacedName) (o : Objects) :
    Ensures current (fun _ => True) (wrapped msg (ignoreNotFound (send (.deletePolicy k))))
      (Lands k none o) o := by
  refine ensures_wrapped_ok
    (ensures_ignoreNotFound (Ensures.request_iff.mpr fun r t ha => ⟨trivial, ?_⟩))
  have hdrives : Drives k none o t := drives_of_writes ha rfl (current_delete_absent ha)
  exact ⟨fun hr => ⟨hdrives, fun _ _ => current_delete ha hr⟩,
    fun e _ _ => ⟨hdrives, fun _ hu => by cases hu⟩⟩

end OnePolicy

section Namespace

def desired (o : Objects) (ns : String) (hop : Hop) : Option NetworkPolicy :=
  if hasManaged o.gateways ns then some (policyFor ns hop) else none

lemma desired_congr (h : t.gateways = o.gateways) : desired t = desired o := by
  funext ns hop
  rw [desired, h]
  rfl

structure Attempted (ns : String) (v : Hop → Option NetworkPolicy) (o : Objects)
    (out : Except GoError Unit) (t : Objects) : Prop where
  gateways : t.gateways = o.gateways
  others : ∀ k, (∀ hop, k ≠ policyKey ns hop) → t.policies.lookup k = o.policies.lookup k
  moved : ∀ hop, t.policies.lookup (policyKey ns hop) = o.policies.lookup (policyKey ns hop) ∨
    t.policies.lookup (policyKey ns hop) = v hop
  settled : out = .ok () → ∀ hop, t.policies.lookup (policyKey ns hop) = v hop
  still : (∀ hop, o.policies.lookup (policyKey ns hop) = v hop) → t = o

lemma attempted_refl (ns : String) (v : Hop → Option NetworkPolicy) (o : Objects) (e : GoError) :
    Attempted ns v o (.error e) o :=
  ⟨rfl, fun _ _ => rfl, fun _ => Or.inl rfl, (fun h => by cases h), fun _ => rfl⟩

lemma ingress_ne_egress (ns : String) : policyKey ns .proxyIngress ≠ policyKey ns .proxyEgress := by
  intro h
  exact absurd (policyKey_eq_iff.mp h).2 (by decide)

lemma attempted_both {v : Hop → Option NetworkPolicy} {out : Except GoError Unit}
    (h₁ : Drives (policyKey ns .proxyIngress) (v .proxyIngress) o o')
    (h₂ : Lands (policyKey ns .proxyEgress) (v .proxyEgress) o' out t)
    (hfirst : out = .ok () → o'.policies.lookup (policyKey ns .proxyIngress) = v .proxyIngress) :
    Attempted ns v o out t := by
  have hingress := h₂.1.others _ (ingress_ne_egress ns)
  have hegress := h₁.others _ (ingress_ne_egress ns).symm
  refine ⟨h₂.1.gateways.trans h₁.gateways, fun k hk => ?_, fun hop => ?_,
    fun hout hop => ?_, fun hv => ?_⟩
  · rw [h₂.1.others k (hk _), h₁.others k (hk _)]
  · cases hop with
    | proxyIngress =>
      rw [hingress]
      exact h₁.moved
    | proxyEgress =>
      rw [← hegress]
      exact h₂.1.moved
  · cases hop with
    | proxyIngress =>
      rw [hingress]
      exact hfirst hout
    | proxyEgress => exact h₂.2 () hout
  · obtain rfl := h₁.still (hv _)
    exact h₂.1.still (hv _)

lemma ensures_both {p q : Client Unit} {v : Hop → Option NetworkPolicy}
    (hp : ∀ o, Ensures current (fun _ => True) p
      (Lands (policyKey ns .proxyIngress) (v .proxyIngress) o) o)
    (hq : ∀ o, Ensures current (fun _ => True) q
      (Lands (policyKey ns .proxyEgress) (v .proxyEgress) o) o)
    (o : Objects) : Ensures current (fun _ => True) (p >>= fun _ => q) (Attempted ns v o) o := by
  refine Ensures.bind (hp o) (fun _ o' h₁ => ?_) fun e o' h₁ => ?_
  · refine (hq o').mono (fun _ hj => hj) fun out t h₂ => ?_
    exact attempted_both h₁.1 h₂ fun _ => h₁.2 _ rfl
  · exact attempted_both h₁.1 ⟨Drives.refl _ _ _, fun _ h => by cases h⟩ fun h => by cases h

def deletePolicyNamed (ns name : String) : Client Unit :=
  wrapped ("failed to delete NetworkPolicy " ++ ns ++ "/" ++ name)
    (ignoreNotFound (send (.deletePolicy ⟨ns, name⟩)))

lemma pruneNamespace_eq (ns : String) : pruneNamespace ns =
    deletePolicyNamed ns dataPlaneNetworkPolicyName >>= fun _ =>
      deletePolicyNamed ns proxyEgressNetworkPolicyName := by
  have hlast : ∀ p : Client Unit, (p >>= fun _ => pure ()) = p := Prog.bind_ret
  simp only [pruneNamespace, List.forM_eq_forM, List.forM_cons, List.forM_nil, hlast]
  rfl

lemma ensures_pruneNamespace (ns : String) (o : Objects) :
    Ensures current (fun _ => True) (pruneNamespace ns) (Attempted ns (fun _ => none) o) o := by
  rw [pruneNamespace_eq]
  exact ensures_both (fun o => ensures_prune _ _ o) (fun o => ensures_prune _ _ o) o

lemma ensures_reconcile (ns : String) (o : Objects) :
    Ensures current (fun _ => True) (reconcile ns) (Attempted ns (desired o ns) o) o := by
  refine Ensures.bind (P := fun out t => t = o ∧ ∀ b, out = .ok b → b = hasManaged o.gateways ns)
    ?_ ?_ ?_
  · refine Ensures.bind (P := fun out t => t = o ∧ ∀ gws, out = .ok gws →
      hasManaged o.gateways ns = gws.any isManaged) ?_ ?_ ?_
    · refine ensures_wrapped_ok (Ensures.request_iff.mpr fun r t ha => ⟨trivial, ?_⟩)
      obtain ⟨rfl, hr⟩ := current_list ha
      exact ⟨rfl, hr⟩
    · rintro gws t ⟨rfl, hr⟩
      exact ⟨rfl, fun b hb => by cases hb; exact (hr gws rfl).symm⟩
    · rintro e t ⟨rfl, _⟩
      exact ⟨rfl, fun b hb => by cases hb⟩
  · rintro b t ⟨rfl, hb⟩
    have hb := hb b rfl
    cases b with
    | false =>
      have hnone : desired t ns = fun _ => none := by
        funext hop
        rw [desired, ← hb, if_neg Bool.false_ne_true]
      rw [hnone]
      exact ensures_pruneNamespace ns t
    | true =>
      have hsome : desired t ns = fun hop => some (policyFor ns hop) := by
        funext hop
        rw [desired, ← hb, if_pos rfl]
      rw [hsome]
      exact ensures_both (fun o => ensures_apply ns .proxyIngress o)
        (fun o => ensures_apply ns .proxyEgress o) t
  · rintro e t ⟨rfl, _⟩
    exact attempted_refl _ _ _ e

end Namespace

section Attempts

variable {l l' : List (String × Except GoError Unit)} {o₁ o₂ : Objects}

inductive Attempts : Objects → List (String × Except GoError Unit) → Objects → Prop
  | nil {o : Objects} : Attempts o [] o
  | run {o o' t : Objects} {ns : String} {tr : List (Answered shootClient GoError Objects)}
      {out : Except GoError Unit} {l : List (String × Except GoError Unit)} :
      Exec current (reconcile ns) o tr out o' → Attempts o' l t → Attempts o ((ns, out) :: l) t

lemma attempted_of_exec {tr : List (Answered shootClient GoError Objects)}
    {out : Except GoError Unit}
    (he : Exec current (reconcile ns) o tr out o') : Attempted ns (desired o ns) o out o' :=
  ((ensures_reconcile ns o).sound he).1

lemma Attempts.gateways (h : Attempts o l t) : t.gateways = o.gateways := by
  induction h with
  | nil => rfl
  | run he _ ih => exact ih.trans (attempted_of_exec he).gateways

lemma Attempts.others (h : Attempts o l t)
    (hk : ∀ ns hop, ns ∈ l.map Prod.fst → k ≠ policyKey ns hop) :
    t.policies.lookup k = o.policies.lookup k := by
  induction h with
  | nil => rfl
  | run he _ ih =>
    rw [ih fun ns hop hn => hk ns hop (List.mem_cons_of_mem _ hn)]
    exact (attempted_of_exec he).others k fun hop => hk _ hop List.mem_cons_self

lemma Attempts.moved (h : Attempts o l t) (ns : String) (hop : Hop) :
    t.policies.lookup (policyKey ns hop) = o.policies.lookup (policyKey ns hop) ∨
      t.policies.lookup (policyKey ns hop) = desired o ns hop := by
  induction h with
  | nil => exact Or.inl rfl
  | @run o o' t ns' tr out l he _ ih =>
    have ha := attempted_of_exec he
    rw [desired_congr ha.gateways] at ih
    have hfirst : o'.policies.lookup (policyKey ns hop) = o.policies.lookup (policyKey ns hop) ∨
        o'.policies.lookup (policyKey ns hop) = desired o ns hop := by
      by_cases hns : ns = ns'
      · subst hns
        exact ha.moved hop
      · exact Or.inl (ha.others _ fun hop' hk => hns (policyKey_eq_iff.mp hk).1)
    rcases ih with hsame | hdesired
    · rw [hsame]
      exact hfirst
    · exact Or.inr hdesired

lemma Attempts.settled (h : Attempts o l t) (hok : (ns, .ok ()) ∈ l) (hop : Hop) :
    t.policies.lookup (policyKey ns hop) = desired o ns hop := by
  induction h with
  | nil => exact absurd hok List.not_mem_nil
  | @run o o' t ns' tr out l he hrest ih =>
    have ha := attempted_of_exec he
    rcases List.mem_cons.mp hok with heq | hok
    · obtain ⟨rfl, rfl⟩ := Prod.mk.inj heq
      rcases hrest.moved ns hop with hsame | hdesired
      · rw [hsame]
        exact ha.settled rfl hop
      · rw [hdesired, desired_congr ha.gateways]
    · rw [ih hok, desired_congr ha.gateways]

lemma Attempts.confluent (h : Attempts o l o₁) (h' : Attempts o l' o₂)
    (hsame : ∀ ns, ns ∈ l.map Prod.fst ↔ ns ∈ l'.map Prod.fst)
    (hok : ∀ ns, ns ∈ l.map Prod.fst → (ns, .ok ()) ∈ l)
    (hok' : ∀ ns, ns ∈ l'.map Prod.fst → (ns, .ok ()) ∈ l') :
    o₁.gateways = o₂.gateways ∧ ∀ k, o₁.policies.lookup k = o₂.policies.lookup k := by
  -- the end of a list of attempts in which every namespace succeeds once depends on its namespaces
  -- alone
  refine ⟨h.gateways.trans h'.gateways.symm, fun k => ?_⟩
  by_cases hk : ∃ ns hop, ns ∈ l.map Prod.fst ∧ k = policyKey ns hop
  · obtain ⟨ns, hop, hns, rfl⟩ := hk
    rw [h.settled (hok ns hns), h'.settled (hok' ns ((hsame ns).mp hns))]
  · have hother : ∀ ns hop, ns ∈ l.map Prod.fst → k ≠ policyKey ns hop :=
      fun ns hop hns hkey => hk ⟨ns, hop, hns, hkey⟩
    rw [h.others hother, h'.others fun ns hop hns => hother ns hop ((hsame ns).mpr hns)]

theorem reconcile_converges (o : Objects) (ns : String) :
    (∀ tr out t, Exec current (reconcile ns) o tr out t →
      t.gateways = o.gateways ∧
      (∀ k, (∀ hop, k ≠ policyKey ns hop) → t.policies.lookup k = o.policies.lookup k) ∧
      (out = .ok () →
        (∀ hop, t.policies.lookup (policyKey ns hop) =
          if hasManaged o.gateways ns then some (policyFor ns hop) else none) ∧
        ∀ tr' out' t', Exec current (reconcile ns) t tr' out' t' → t' = t)) ∧
    ∀ l l' o₁ o₂, Attempts o l o₁ → Attempts o l' o₂ →
    (∀ ns, ns ∈ l.map Prod.fst ↔ ns ∈ l'.map Prod.fst) →
      (∀ ns, ns ∈ l.map Prod.fst → (ns, .ok ()) ∈ l) →
      (∀ ns, ns ∈ l'.map Prod.fst → (ns, .ok ()) ∈ l') →
      o₁.gateways = o₂.gateways ∧ ∀ k, o₁.policies.lookup k = o₂.policies.lookup k := by
  refine ⟨fun tr out t he => ?_,
    fun l l' o₁ o₂ h h' hsame hok hok' => h.confluent h' hsame hok hok'⟩
  have ha := attempted_of_exec he
  refine ⟨ha.gateways, ha.others, fun hout => ⟨ha.settled hout, fun tr' out' t' he' => ?_⟩⟩
  refine (attempted_of_exec he').still fun hop => ?_
  rw [ha.settled hout, desired_congr ha.gateways]

def Objects.ofLists (gateways : List Gateway) (policies : List NetworkPolicy) : Objects where
  gateways := .keyed Gateway.key gateways
  policies := .keyed NetworkPolicy.key policies
  keyed _ _ h := (Store.of_lookup_keyed h).2

def userPolicy : NetworkPolicy where
  «namespace» := "shop"
  name := "envoy-gateway-proxies"
  labels := .ofList [("app", "web")]
  spec := { podSelector := ⟨.ofList [("app", "web")], []⟩, policyTypes := [.ingress] }

def shopObjects : Objects :=
  .ofLists [⟨"shop", "web", "gardener-envoy-gateway", false⟩] [userPolicy]

theorem reconcile_converges_shop :
    ∃ tr t, Exec current (reconcile "shop") shopObjects tr (.ok ()) t ∧
    shopObjects.policies.lookup (policyKey "shop" .proxyIngress) = some userPolicy ∧
    ∀ hop, t.policies.lookup (policyKey "shop" hop) = some (policyFor "shop" hop) := by
  obtain ⟨tr, he⟩ := exec_serve (I := shootClient) current_perform (reconcile "shop") shopObjects
  have hok : (serve (I := shootClient) Objects.perform (reconcile "shop") shopObjects).1 = .ok () :=
    rfl
  rw [hok] at he
  refine ⟨tr, _, he, rfl, fun hop => ?_⟩
  have hsettled := (((reconcile_converges shopObjects "shop").1 tr _ _ he).2.2 rfl).1 hop
  exact hsettled.trans (if_pos (by decide))

end Attempts

end EnvoyGatewayExtension.NetpolController
