import EnvoyGatewayExtension.Actuator.OrphanSweep
import EnvoyGatewayExtension.Kubernetes.NetworkPolicies
import EnvoyGatewayExtension.NetpolController.Writes

namespace EnvoyGatewayExtension.Actuator

open Effects Kubernetes EnvoyGateway Stores Relation
open NetpolController (Objects pruneNamespace current shopObjects userPolicy)

variable {generate : Generator} {w w' s t : World} {o o' : Objects} {k : NamespacedName}
  {np : NetworkPolicy}

section ByLabels

def CarriesLabels (policies : Store NamespacedName NetworkPolicy) (k : NamespacedName) : Prop :=
  ∃ np, policies.lookup k = some np ∧ managedDataPlanePolicy np.labels = true

def PrunedTo (D : NamespacedName → Prop) (s t : World) : Prop :=
  Store.ErasedIn D s.policies t.policies

lemma prunedTo_of_star {D : NamespacedName → Prop} (h : ReflTransGen (PrunedTo D) s t) :
    PrunedTo D s t := by
  induction h with
  | refl => exact Store.ErasedIn.refl D _
  | tail _ hr ih => exact ih.trans hr

lemma perform_deletePolicy_lookup (generate : Generator) (s : World) (k : NamespacedName) :
    (s.perform generate (.deletePolicy k)).2.policies.lookup k = none ∧
      ∀ j, j ≠ k → (s.perform generate (.deletePolicy k)).2.policies.lookup j =
        s.policies.lookup j := by
  simp only [World.perform]
  split_ifs with hl
  · exact ⟨AList.lookup_erase _ _, fun j hj => AList.lookup_erase_ne hj⟩
  · exact ⟨by simpa using hl, fun _ _ => rfl⟩

lemma perform_deletePolicy_error {e : GoError}
    (h : (s.perform generate (.deletePolicy k)).1 = .error e) : e.isNotFound = true := by
  simp only [World.perform] at h
  split at h
  · cases h
  · cases h
    rfl

lemma answers_deletePolicy {D : NamespacedName → Prop}
    {r : Except GoError (Call.deletePolicy k).Result}
    (h : Answers generate s (.deletePolicy k) r t) (hk : D k) : PrunedTo D s t ∧
      ((∀ e, r = .error e → e.isNotFound = true) → t.policies.lookup k = none) := by
  obtain ⟨hgone, hothers⟩ := perform_deletePolicy_lookup generate s k
  have hpruned : PrunedTo D s (s.perform generate (.deletePolicy k)).2 := by
    intro j
    by_cases hj : j = k
    · subst hj
      exact Or.inr ⟨hgone, hk⟩
    · exact Or.inl (hothers j hj)
  cases h with
  | done => exact ⟨hpruned, fun _ => hgone⟩
  | refused htransient =>
    refine ⟨Store.ErasedIn.refl D _, fun hr => ?_⟩
    have hn := hr _ rfl
    rw [GoError.isNotFound_of_transient htransient] at hn
    cases hn
  | lost => exact ⟨hpruned, fun _ => hgone⟩

lemma answers_listPolicies {r : Except GoError Call.listPolicies.Result}
    (h : Answers generate s .listPolicies r t) : t = s ∧ ∀ items, r = .ok items → ∀ np, np ∈ items ↔
      managedDataPlanePolicy np.labels = true ∧ ∃ k, s.policies.lookup k = some np := by
  refine ⟨h.reads rfl, fun items hr np => ?_⟩
  cases h with
  | done =>
    cases hr
    rw [List.mem_filter, List.mem_map, and_comm]
    refine and_congr_right fun _ => ⟨?_, ?_⟩
    · rintro ⟨⟨k, np'⟩, hm, rfl⟩
      exact ⟨k, Store.mem_items.mp hm⟩
    · rintro ⟨k, hk⟩
      exact ⟨(k, np), Store.mem_items.mpr hk, rfl⟩
  | refused => cases hr
  | lost => cases hr

lemma ensures_pruneDataPlanePolicies (generate : Generator)
    (hkeyed : ∀ k np, w.policies.lookup k = some np → np.key = k) :
    Ensures (answers generate) (fun _ => True) pruneDataPlanePolicies
      (fun out t => PrunedTo (CarriesLabels w.policies) w t ∧
        (out = .ok () → ∀ k, CarriesLabels w.policies k → t.policies.lookup k = none)) w := by
  have hrefl : PrunedTo (CarriesLabels w.policies) w w := Store.ErasedIn.refl _ _
  refine Ensures.bind (P := fun _ t => t = w) (ensures_wrapped (Ensures.request_iff.mpr ?_)) ?_ ?_
  · exact fun r t ha => ⟨trivial, ha.reads rfl⟩
  · rintro _ t rfl
    refine Ensures.bind (P := fun out u => u = t ∧ ∀ items, out = .ok items → ∀ np, np ∈ items ↔
      managedDataPlanePolicy np.labels = true ∧ ∃ k, t.policies.lookup k = some np) ?_ ?_ ?_
    · refine ensures_wrapped_ok (Ensures.request_iff.mpr fun r u ha => ⟨trivial, ?_⟩)
      obtain ⟨rfl, hr⟩ := answers_listPolicies ha
      exact ⟨rfl, hr⟩
    · rintro items u ⟨rfl, hitems⟩
      have hitems := hitems items rfl
      have hloop := Ensures.forM_each (h := answers generate) (J := fun _ => True) (s := u)
        (f := fun np : NetworkPolicy =>
          wrapped ("failed to delete managed data-plane NetworkPolicy " ++ np.namespace ++
            "/" ++ np.name) (ignoreNotFound (send (.deletePolicy np.key))))
        (R := PrunedTo (CarriesLabels u.policies))
          (G := fun np t => t.policies.lookup np.key = none) items
        (fun np s t hr hg => by rcases hr np.key with he | he; exacts [he.trans hg, he.1])
        fun np hnp s _ => ?_
      · refine hloop.mono (fun _ hj => hj) fun out t ht =>
          ⟨prunedTo_of_star ht.1, fun hout k hk => ?_⟩
        obtain ⟨np, hl, hm⟩ := hk
        rw [← hkeyed k np hl]
        exact ht.2 hout np ((hitems np).mpr ⟨hm, k, hl⟩)
      · obtain ⟨hm, k, hl⟩ := (hitems np).mp hnp
        have hcarries : CarriesLabels u.policies np.key := ⟨np, (hkeyed k np hl).symm ▸ hl, hm⟩
        refine ensures_wrapped
          (ensures_ignoreNotFound (Ensures.request_iff.mpr fun r t ha => ⟨trivial, ?_⟩))
        obtain ⟨hpruned, hgone⟩ := answers_deletePolicy ha hcarries
        exact ⟨fun hn => ⟨.single hpruned, fun _ => hgone hn⟩,
          fun e _ _ => ⟨.single hpruned, fun he => by cases he⟩⟩
    · rintro e u ⟨rfl, _⟩
      exact ⟨hrefl, fun he => by cases he⟩
  · rintro e t rfl
    exact ⟨hrefl, fun he => by cases he⟩

lemma exec_pruneDataPlanePolicies (generate : Generator) (w : World) :
    ∃ tr w', Exec (answers generate) pruneDataPlanePolicies w tr (.ok ()) w' := by
  have hok : Ensures (answered generate) (fun _ => True) pruneDataPlanePolicies
    (fun out _ => out = .ok ()) w := by
    refine Ensures.bind (P := fun out _ => out = .ok ())
      (ensures_wrapped (Ensures.request_iff.mpr ?_)) ?_ ?_
    · intro r t ha
      obtain ⟨rfl, _⟩ := Prod.mk.inj ha
      exact ⟨trivial, rfl⟩
    · intro _ t _
      refine Ensures.bind (P := fun out _ => ∃ items, out = .ok items)
        (ensures_wrapped (Ensures.request_iff.mpr ?_)) ?_ ?_
      · intro r t ha
        obtain ⟨rfl, _⟩ := Prod.mk.inj ha
        exact ⟨trivial, _, rfl⟩
      · intro items t _
        refine Ensures.forM_ok items fun np t => ensures_ignoreNotFound_ok
          (Ensures.request_iff.mpr fun r u ha => ?_)
        exact ⟨trivial, fun e he => perform_deletePolicy_error
          ((congrArg Prod.fst ha).symm.trans he)⟩
      · rintro e t ⟨_, he⟩
        cases he
    · rintro e t he
      cases he
  obtain ⟨tr, out, w', he, rfl⟩ :=
    Ensures.exists_exec (h := answers generate) (fun _ _ => Answers.done) hok
  exact ⟨tr, w', he⟩

end ByLabels

section ByNames

def CarriesName (k : NamespacedName) : Prop := ∃ hop, k.name = policyName hop

lemma carriesName_iff : CarriesName k ↔ ∃ hop, k = policyKey k.namespace hop := by
  constructor
  · rintro ⟨hop, hk⟩
    exact ⟨hop, by rw [policyKey, ← hk]⟩
  · rintro ⟨hop, hk⟩
    exact ⟨hop, by rw [hk]; rfl⟩

def NamesPruned (o t : Objects) : Prop := Store.ErasedIn CarriesName o.policies t.policies

lemma namesPruned_of_star {o t : Objects} (h : ReflTransGen NamesPruned o t) : NamesPruned o t := by
  induction h with
  | refl => exact Store.ErasedIn.refl _ _
  | tail _ hr ih => exact ih.trans hr

lemma namesPruned_of_attempted {ns : String} {out : Except GoError Unit}
    (h : NetpolController.Attempted ns (fun _ => none) o out o') : NamesPruned o o' := by
  intro k
  by_cases hk : ∃ hop, k = policyKey ns hop
  · obtain ⟨hop, rfl⟩ := hk
    rcases h.moved hop with hsame | hgone
    · exact Or.inl hsame
    · exact Or.inr ⟨hgone, hop, rfl⟩
  · exact Or.inl (h.others k fun hop he => hk ⟨hop, he⟩)

lemma ensures_pruneNamespaces (namespaces : List String) (o : Objects) :
    Ensures current (fun _ => True) (namespaces.forM pruneNamespace)
      (fun out t => NamesPruned o t ∧ (out = .ok () → ∀ ns ∈ namespaces, ∀ hop,
        t.policies.lookup (policyKey ns hop) = none)) o := by
  have hloop := Ensures.forM_each (h := current) (J := fun _ => True) (s := o) (f := pruneNamespace)
    (R := NamesPruned) (G := fun ns t => ∀ hop, t.policies.lookup (policyKey ns hop) = none)
    namespaces
    (fun ns s t hr hg hop => by
      rcases hr (policyKey ns hop) with he | he
      exacts [he.trans (hg hop), he.1])
    fun ns _ s _ => (NetpolController.ensures_pruneNamespace ns s).mono (fun _ hj => hj)
      fun out t ht => ⟨.single (namesPruned_of_attempted ht), ht.settled⟩
  exact hloop.mono (fun _ hj => hj) fun out t ht => ⟨namesPruned_of_star ht.1, ht.2⟩

lemma objects_deletePolicy_error {e : GoError} (h : (o.perform (.deletePolicy k)).1 = .error e) :
    e.isNotFound = true := by
  simp only [Objects.perform, NetpolController.State.perform] at h
  split at h
  · cases h
  · cases h
    rfl

lemma exec_pruneNamespaces (namespaces : List String) (o : Objects) :
    ∃ tr t, Exec current (namespaces.forM pruneNamespace) o tr (.ok ()) t := by
  have hok : Ensures (fun o c r o' => (r, o') = o.perform c) (fun _ => True)
      (namespaces.forM pruneNamespace) (fun out _ => out = .ok ()) o := by
    refine Ensures.forM_ok namespaces fun ns t => Ensures.forM_ok _ fun name u => ?_
    refine ensures_ignoreNotFound_ok
      (Ensures.request_iff.mpr fun r v ha => ⟨trivial, fun e he => ?_⟩)
    exact objects_deletePolicy_error ((congrArg Prod.fst ha).symm.trans he)
  obtain ⟨tr, out, t, he, rfl⟩ := Ensures.exists_exec NetpolController.current_perform hok
  exact ⟨tr, t, he⟩

end ByNames

section Agreement

def PrunesAgree (o : Objects) : Prop :=
  ∀ generate (w : World) tr w' (namespaces : List String) tr' (t : Objects),
    w.policies = o.policies → Exec (answers generate) pruneDataPlanePolicies w tr (.ok ()) w' →
    (∀ k np, o.policies.lookup k = some np → k.namespace ∈ namespaces) →
    Exec current (namespaces.forM pruneNamespace) o tr' (.ok ()) t →
    (∀ k, w'.policies.lookup k = t.policies.lookup k) ∧
    ∀ k np, o.policies.lookup k = some np → managedDataPlanePolicy np.labels = false →
      w'.policies.lookup k = some np ∧ t.policies.lookup k = some np

lemma lookup_of_pruneDataPlanePolicies {tr : List (Answered clusters GoError World)}
    (hw : w.policies = o.policies)
    (he : Exec (answers generate) pruneDataPlanePolicies w tr (.ok ()) w') :
    w'.policies.lookup k = some np ↔ o.policies.lookup k = some np ∧
    managedDataPlanePolicy np.labels = false := by
  obtain ⟨⟨hpruned, hgone⟩, _⟩ := (ensures_pruneDataPlanePolicies generate (hw ▸ o.keyed)).sound he
  rw [Store.ErasedIn.lookup_iff hpruned (hgone rfl), hw]
  refine and_congr_right fun hl => ?_
  simp [CarriesLabels, hl]

lemma lookup_of_pruneNamespaces {namespaces : List String}
    {tr : List (Answered NetpolController.shootClient GoError Objects)}
    (hall : ∀ k np, o.policies.lookup k = some np → k.namespace ∈ namespaces)
    (he : Exec current (namespaces.forM pruneNamespace) o tr (.ok ()) o') :
    o'.policies.lookup k = some np ↔ o.policies.lookup k = some np ∧ ¬ CarriesName k := by
  obtain ⟨⟨hpruned, hgone⟩, _⟩ := (ensures_pruneNamespaces namespaces o).sound he
  refine Store.ErasedIn.lookup_iff hpruned fun k hk => ?_
  rcases hpruned k with hsame | hnone
  · cases hl : o.policies.lookup k with
    | none => rw [hsame, hl]
    | some np =>
      obtain ⟨hop, hkey⟩ := carriesName_iff.mp hk
      rw [hkey]
      exact hgone rfl k.namespace (hall k np hl) hop
  · exact hnone.1

theorem prunesAgree_iff (o : Objects) : PrunesAgree o ↔
    ∀ k np, o.policies.lookup k = some np →
      (managedDataPlanePolicy np.labels = true ↔ ∃ hop, k.name = policyName hop) := by
  constructor
  · intro h k np hl
    obtain ⟨tr, w', he⟩ :=
      exec_pruneDataPlanePolicies (fun _ _ => .ok ∅) { cluster := none, policies := o.policies }
    obtain ⟨tr', t, he'⟩ := exec_pruneNamespaces (o.policies.items.map fun e => e.1.namespace) o
    have hall : ∀ k np, o.policies.lookup k = some np → k.namespace ∈ o.policies.items.map fun e =>
      e.1.namespace :=
      fun k np hl => List.mem_map.mpr ⟨(k, np), Store.mem_items.mpr hl, rfl⟩
    have hsame := (h _ _ tr w' _ tr' t rfl he hall he').1 k
    have hlabels : w'.policies.lookup k = some np ↔ _ := lookup_of_pruneDataPlanePolicies rfl he
    rw [hsame, lookup_of_pruneNamespaces hall he'] at hlabels
    simp only [hl, true_and, CarriesName] at hlabels
    rw [← not_iff_not, hlabels, Bool.not_eq_true]
  · intro h generate w tr w' namespaces tr' t hw he hall he'
    have hkept : ∀ k np, w'.policies.lookup k = some np ↔ t.policies.lookup k = some np := by
      intro k np
      rw [lookup_of_pruneDataPlanePolicies hw he, lookup_of_pruneNamespaces hall he']
      refine and_congr_right fun hl => ?_
      rw [CarriesName, ← h k np hl, Bool.not_eq_true]
    refine ⟨fun k => Option.ext fun np => hkept k np, fun k np hl hlabels => ?_⟩
    have hleft := (lookup_of_pruneDataPlanePolicies hw he).mpr ⟨hl, hlabels⟩
    exact ⟨hleft, (hkept k np).mp hleft⟩

theorem user_policy_pruned_by_name : ∃ tr w' tr' t,
    shopObjects.policies.lookup userPolicy.key = some userPolicy ∧
    managedDataPlanePolicy userPolicy.labels = false ∧
    Exec (answers fun _ _ => .ok ∅) pruneDataPlanePolicies
      { cluster := none, policies := shopObjects.policies } tr (.ok ()) w' ∧
    w'.policies.lookup userPolicy.key = some userPolicy ∧
    Exec current (["shop"].forM pruneNamespace) shopObjects tr' (.ok ()) t ∧
      t.policies.lookup userPolicy.key = none := by
  obtain ⟨tr, w', he⟩ := exec_pruneDataPlanePolicies (fun _ _ => .ok ∅)
    { cluster := none, policies := shopObjects.policies }
  obtain ⟨tr', t, he'⟩ := exec_pruneNamespaces ["shop"] shopObjects
  refine ⟨tr, w', tr', t, rfl, rfl, he, ?_, he', ?_⟩
  · exact (lookup_of_pruneDataPlanePolicies (o := shopObjects) rfl he).mpr ⟨rfl, rfl⟩
  · exact (((ensures_pruneNamespaces ["shop"] shopObjects).sound he').1.2 rfl) "shop"
      (by simp) .proxyIngress

end Agreement

end EnvoyGatewayExtension.Actuator
