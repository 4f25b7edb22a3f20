import EnvoyGatewayExtension.NetpolController.Bookkeeping

namespace EnvoyGatewayExtension.NetpolController

open Effects Kubernetes EnvoyGateway Stores Informer

def Rely (o : Order) (s s' : State) : Prop := WellFormed o s ∧ Env o s s'

def Served (o : Order) : Handler shootClient GoError State :=
  fun s c r s' => WellFormed o s ∧ Answers s c r s'

def OwnCall : ClientCall → Prop
  | .createPolicy np => Labelled np
  | .updatePolicy np => Labelled np
  | _ => True

section Answers

variable {o : Order} {s s' : State} {ns : Request}

lemma perform_env {c : ClientCall} (hc : OwnCall c) :
    (s.perform c).2 = s ∨ Env o s (s.perform c).2 := by
  cases c with
  | listGateways ns => exact Or.inl rfl
  | getPolicy k =>
    left
    simp only [State.perform]
    split <;> rfl
  | createPolicy np =>
    simp only [State.perform]
    split
    · exact Or.inl rfl
    · exact Or.inr (.policy fun a ha => by cases ha; exact ⟨rfl, fun _ => hc⟩)
  | updatePolicy np =>
    simp only [State.perform]
    split
    · exact Or.inr (.policy fun a ha => by cases ha; exact ⟨rfl, fun _ => hc⟩)
    · exact Or.inl rfl
  | deletePolicy k =>
    simp only [State.perform]
    split
    · exact Or.inr (.policy fun a ha => by cases ha)
    · exact Or.inl rfl

lemma answers_env {c : ClientCall} {r : Except GoError c.Result} (hc : OwnCall c)
    (h : Answers s c r s') : s' = s ∨ Env o s s' := by
  cases h with
  | done => exact perform_env hc
  | refused => exact Or.inl rfl
  | lost => exact perform_env hc

lemma served_of_stable {P : State → Prop} (hP : Stable (Rely o) P) (c : ClientCall)
    {r : Except GoError c.Result} (hc : OwnCall c) (h : Served o s c r s') (hs : P s) : P s' := by
  rcases answers_env hc h.2 with rfl | he
  · exact hs
  · exact hP s s' ⟨h.1, he⟩ hs

lemma stable_wellFormed : Stable (Rely o) (WellFormed o) := fun _ _ h hw => hw.env h.2

lemma stable_settled (ns : Request) : Stable (Rely o) (fun s => Owed ns s ∨ InSync ns s) :=
  fun _ _ h hs => settled_env h.1 h.2 hs

lemma stable_observed {β : Type} {f : State → β}
    (hf : ∀ s s', WellFormed o s → Env o s s' → Owed ns s' ∨ f s' = f s) (b : β) :
    Stable (Rely o) (fun s => Owed ns s ∨ f s = b) := by
  rintro s s' ⟨hw, he⟩ (ho | hb)
  · exact Or.inl (ho.env he)
  · rw [← hb]
    exact hf s s' hw he

lemma stable_seen (ns : Request) (b : Bool) :
    Stable (Rely o) (fun s => Owed ns s ∨ hasManaged s.gateways.cache ns = b) :=
  stable_observed (fun _ _ hw he => cached_gateways_env hw he ns) b

lemma stable_cached (ns : Request) (hop : Hop) (v : Option NetworkPolicy) :
    Stable (Rely o) (fun s => Owed ns s ∨ s.policies.cache.lookup (policyKey ns hop) = v) :=
  stable_observed (fun _ _ hw he => cached_policy_env hw he ns hop) v

lemma stable_stored (ns : Request) (hop : Hop) (v : Option NetworkPolicy) :
    Stable (Rely o) (fun s => Owed ns s ∨ s.policies.api.lookup (policyKey ns hop) = v) :=
  stable_observed (fun _ _ hw he => policy_env hw he ns hop) v

lemma answers_list {r : Except GoError (ClientCall.listGateways ns).Result}
    (h : Answers s (.listGateways ns) r s') :
    s' = s ∧ ∀ gws, r = .ok gws → hasManaged s.gateways.cache ns = gws.any isManaged := by
  cases h with
  | done => exact ⟨rfl, fun gws hr => by cases hr; rfl⟩
  | refused _ => exact ⟨rfl, fun gws hr => by cases hr⟩
  | lost _ => exact ⟨rfl, fun gws hr => by cases hr⟩

lemma answers_get {k : NamespacedName} {r : Except GoError (ClientCall.getPolicy k).Result}
    (h : Answers s (.getPolicy k) r s') :
    s' = s ∧ (∀ np, r = .ok np → s.policies.cache.lookup k = some np) ∧
      ∀ e, r = .error e → e.isNotFound = true → s.policies.cache.lookup k = none := by
  have hread : (s.perform (.getPolicy k)).2 = s := by
    simp only [State.perform]
    split <;> rfl
  cases h with
  | done =>
    refine ⟨hread, ?_, ?_⟩
    · intro np hr
      simp only [State.perform] at hr
      split at hr
      · next hl =>
        cases hr
        exact hl
      · cases hr
    · intro e hr _
      simp only [State.perform] at hr
      split at hr
      · cases hr
      · next hl => exact hl
  | refused ht => exact ⟨rfl, (fun _ hr => by cases hr),
    (fun e hr hn => by cases hr; simp_all [GoError.transient])⟩
  | lost ht => exact ⟨hread, (fun _ hr => by cases hr),
    (fun e hr hn => by cases hr; simp_all [GoError.transient])⟩

lemma answers_put {np : NetworkPolicy} :
    (Answers s (.createPolicy np) (.ok ()) s' → s' = s.writePolicy np.key (some np)) ∧
      (Answers s (.updatePolicy np) (.ok ()) s' → s' = s.writePolicy np.key (some np)) := by
  constructor
  · intro h
    generalize hr : (Except.ok () : Except GoError (ClientCall.createPolicy np).Result) = r at h
    cases h with
    | done =>
      simp only [State.perform] at hr ⊢
      split at hr <;> simp_all
    | refused _ => cases hr
    | lost _ => cases hr
  · intro h
    generalize hr : (Except.ok () : Except GoError (ClientCall.updatePolicy np).Result) = r at h
    cases h with
    | done =>
      simp only [State.perform] at hr ⊢
      split at hr <;> simp_all
    | refused _ => cases hr
    | lost _ => cases hr

lemma answers_delete {k : NamespacedName} {r : Except GoError (ClientCall.deletePolicy k).Result}
    (h : Answers s (.deletePolicy k) r s') (hr : ∀ e, r = .error e → e.isNotFound = true) :
    s' = s.writePolicy k none ∨ (s' = s ∧ s.policies.api.lookup k = none) := by
  cases h with
  | done =>
    simp only [State.perform]
    split
    · exact Or.inl rfl
    · next hn => exact Or.inr ⟨rfl, hn⟩
  | refused ht => exact absurd (hr _ rfl) (by simp_all [GoError.transient])
  | lost ht => exact absurd (hr _ rfl) (by simp_all [GoError.transient])

end Answers

def Got (ns : Request) (hop : Hop) : Except GoError NetworkPolicy → State → Prop
  | .ok np, s => np.key = policyKey ns hop ∧
      (Owed ns s ∨ s.policies.cache.lookup (policyKey ns hop) = some np)
  | .error e, s => e.isNotFound = true →
      Owed ns s ∨ s.policies.cache.lookup (policyKey ns hop) = none

section Reconcile

variable {o : Order} {s s' : State} {ns : Request} {hop : Hop}

lemma stable_got (ns : Request) (hop : Hop) (r : Except GoError NetworkPolicy) :
    Stable (Rely o) (Got ns hop r) := by
  cases r with
  | ok np => exact fun t t' h hg => ⟨hg.1, stable_cached ns hop _ t t' h hg.2⟩
  | error e => exact fun t t' h hg he => stable_cached ns hop _ t t' h (hg he)

lemma got_of_answers {r : Except GoError (ClientCall.getPolicy (policyKey ns hop)).Result}
    (hw : WellFormed o s) (h : Answers s (.getPolicy (policyKey ns hop)) r s') :
    WellFormed o s' ∧ Got ns hop r s' := by
  obtain ⟨rfl, hok, herr⟩ := answers_get h
  refine ⟨hw, ?_⟩
  cases r with
  | ok np => exact ⟨(hw.policies.cached (hok np rfl)).1, Or.inr (hok np rfl)⟩
  | error e => exact fun hn => Or.inr (herr e rfl hn)

lemma owed_of_put (hw : WellFormed o s)
    (hc : Owed ns s ∨ s.policies.cache.lookup (policyKey ns hop) ≠ some (policyFor ns hop)) :
    Owed ns (s.writePolicy (policyKey ns hop) (some (policyFor ns hop))) := by
  have he : Env o s (s.writePolicy (policyKey ns hop) (some (policyFor ns hop))) :=
    .policy fun np hnp => by
      cases hnp
      exact ⟨policyFor_key ns hop, fun _ => policyFor_labelled ns hop⟩
  rcases hc with ho | hc
  · exact ho.env he
  · refine (owed_or_cached_policy (hw.env he) ns hop).resolve_right fun heq => hc ?_
    exact heq.trans (Store.lookup_set_self ..)

lemma safe_put {c : ClientCall} {v : Option NetworkPolicy} (hw : WellFormed o s)
    (hs : Owed ns s ∨ s.policies.cache.lookup (policyKey ns hop) = v)
    (hv : v ≠ some (policyFor ns hop))
    (hc : c = .createPolicy (policyFor ns hop) ∨ c = .updatePolicy (policyFor ns hop)) :
    Safe (Rely o) (Served o) (send c) (fun out t => (∃ e, out = .error e) ∨ Owed ns t) s := by
  refine Safe.request (A := fun r t => (∃ e, r = .error e) ∨ Owed ns t)
    (stable_wellFormed.and (stable_cached ns hop v)) ⟨hw, hs⟩
    (fun r t t' h ho => ho.imp id (Owed.env h.2)) ?_ (fun _ _ h => h)
  rintro t r t' ⟨hw', ho⟩ ⟨_, ha⟩
  have hput := owed_of_put hw' (ho.imp id fun h => h ▸ hv)
  rw [← policyFor_key] at hput
  rcases hc with rfl | rfl
  · cases r with
    | error e => exact Or.inl ⟨e, rfl⟩
    | ok u => exact Or.inr (answers_put.1 ha ▸ hput)
  · cases r with
    | error e => exact Or.inl ⟨e, rfl⟩
    | ok u => exact Or.inr (answers_put.2 ha ▸ hput)

lemma mutated_eq {np : NetworkPolicy} (h : np.key = policyKey ns hop) :
    { np with labels := (policyFor ns hop).labels, spec := (policyFor ns hop).spec } =
      policyFor ns hop := by
  rw [← policyFor_key] at h
  obtain ⟨hn, hm⟩ := NamespacedName.mk.inj h
  rw [hn, hm]

lemma failed_mapError {out : Except GoError Unit} {f : GoError → GoError}
    (h : ∃ e, out = .error e) : ∃ e, out.mapError f = .error e := by
  obtain ⟨e, rfl⟩ := h
  exact ⟨f e, rfl⟩

lemma safe_apply (hw : WellFormed o s) (ns : Request) (hop : Hop) :
    Safe (Rely o) (Served o) (apply (policyFor ns hop))
      (fun out t => (∃ e, out = .error e) ∨ Owed ns t ∨
      t.policies.cache.lookup (policyKey ns hop) = some (policyFor ns hop)) s := by
  apply Safe.mapFault
  apply Safe.bind
  apply Safe.attempt
  rw [policyFor_key]
  refine Safe.request (P := WellFormed o) (A := fun r t => WellFormed o t ∧ Got ns hop r t)
    stable_wellFormed hw
    (fun r => stable_wellFormed.and (stable_got ns hop r))
      (fun t r t' hw' hr => got_of_answers hw' hr.2) ?_
  rintro (e | np) t ⟨hw', hg⟩
  · change Safe _ _ (if e.isNotFound then _ else _) _ _
    split_ifs with he
    · exact (safe_put hw' (hg he) (by simp) (Or.inl rfl)).mono fun _ _ h =>
        h.imp failed_mapError Or.inl
    · exact fun t' _ => Or.inl ⟨_, rfl⟩
  · obtain ⟨hk, hc⟩ := hg
    change Safe _ _ (if _ then _ else _) _ _
    simp only [mutated_eq hk]
    split_ifs with heq
    · rw [← heq] at hc
      exact Safe.ret (stable_cached ns hop _) hc fun _ h => Or.inr h
    · exact (safe_put hw' hc (fun h => heq (Option.some.inj h).symm)
        (Or.inr (congrArg ClientCall.updatePolicy (mutated_eq hk)))).mono
        fun _ _ h => h.imp failed_mapError Or.inl

lemma safe_prune (hw : WellFormed o s) (ns : Request) (hop : Hop) (msg : String) :
    Safe (Rely o) (Served o)
      (wrapped msg (ignoreNotFound (send (.deletePolicy (policyKey ns hop)))))
      (fun out t => (∃ e, out = .error e) ∨ Owed ns t ∨
        t.policies.api.lookup (policyKey ns hop) = none) s := by
  apply Safe.mapFault
  apply Safe.bind
  apply Safe.attempt
  refine Safe.request (P := WellFormed o)
    (A := fun r t => (∀ e, r = .error e → e.isNotFound = true) →
      Owed ns t ∨ t.policies.api.lookup (policyKey ns hop) = none) stable_wellFormed hw ?_ ?_ ?_
  · exact fun r t t' h hn he => stable_stored ns hop none t t' h (hn he)
  · rintro t r t' _ ⟨_, ha⟩ hr
    rcases answers_delete ha hr with rfl | ⟨rfl, hn⟩
    · exact Or.inr (Store.lookup_set_self ..)
    · exact Or.inr hn
  · rintro (e | u) t ht
    · change Safe _ _ (if e.isNotFound then _ else _) _ _
      split_ifs with he
      · refine Safe.ret (stable_stored ns hop none) (ht ?_) fun _ h => Or.inr h
        intro e' he'
        cases he'
        exact he
      · exact fun t' _ => Or.inl ⟨_, rfl⟩
    · exact Safe.ret (stable_stored ns hop none) (ht fun _ h => by cases h) fun _ h => Or.inr h

lemma safe_namespaceHasManagedGateway (hw : WellFormed o s) (ns : Request) :
    Safe (Rely o) (Served o) (namespaceHasManagedGateway ns)
      (fun out t => WellFormed o t ∧ ∀ b, out = .ok b → Owed ns t ∨
        hasManaged t.gateways.cache ns = b) s := by
  apply Safe.bind
  apply Safe.mapFault
  refine Safe.request (P := WellFormed o)
    (A := fun r t => WellFormed o t ∧ ∀ gws, r = .ok gws →
      Owed ns t ∨ hasManaged t.gateways.cache ns = gws.any isManaged) stable_wellFormed hw ?_ ?_ ?_
  · exact fun r => stable_wellFormed.and fun t t' h hg gws hr => stable_seen ns _ t t' h (hg gws hr)
  · intro t r t' hw' ha
    obtain ⟨rfl, hr⟩ := answers_list ha.2
    exact ⟨hw', fun gws hok => Or.inr (hr gws hok)⟩
  · rintro (e | gws) t ⟨hw', hg⟩
    · exact Safe.fail stable_wellFormed hw' fun t' h => ⟨h, fun b hb => by cases hb⟩
    · refine Safe.ret (stable_wellFormed.and (stable_seen ns (gws.any isManaged)))
        ⟨hw', hg gws rfl⟩ ?_
      exact fun t' h => ⟨h.1, fun b hb => by cases hb; exact h.2⟩

lemma safe_then {p q : Client Unit} {A J : State → Prop} {Q : Except GoError Unit → State → Prop}
    (hp : Safe (Rely o) (Served o) p (fun out t => (∃ e, out = .error e) ∨ A t) s)
    (hu : p.Uses OwnCall) (hJ : Stable (Rely o) J) (hj : J s) (hQ : ∀ e t, Q (.error e) t)
    (hq : ∀ t, A t → J t → Safe (Rely o) (Served o) q Q t) :
    Safe (Rely o) (Served o) (p >>= fun _ => q) Q s := by
  apply Safe.bind
  refine (hp.frame hu hJ (fun _ c _ _ => served_of_stable hJ c) hj).mono ?_
  rintro (e | u) t ⟨ha, hj'⟩
  · exact fun t' _ => hQ e t'
  · exact hq t (ha.resolve_left fun ⟨e, he⟩ => by cases he) hj'

lemma uses_apply (ns : Request) (hop : Hop) : (apply (policyFor ns hop)).Uses OwnCall := by
  have hl : ∀ np : NetworkPolicy, Labelled { np with
      labels := (policyFor ns hop).labels, spec := (policyFor ns hop).spec } :=
    fun np => labelled_of_labels (policyFor_labels ns hop)
  apply uses_wrapped
  apply uses_createOrUpdate
  · exact (Prog.uses_request _).mpr trivial
  · exact (Prog.uses_request _).mpr (hl _)
  · exact fun np => (Prog.uses_request _).mpr (hl np)

lemma uses_pruneNamespace (ns : Request) : (pruneNamespace ns).Uses OwnCall := by
  apply Prog.uses_forM
  intro name _
  exact uses_wrapped (uses_ignoreNotFound ((Prog.uses_request _).mpr trivial))

lemma uses_reconcile (ns : Request) : (reconcile ns).Uses OwnCall := by
  apply Prog.uses_bind
  · exact Prog.uses_bind (uses_wrapped ((Prog.uses_request _).mpr trivial)) fun _ => trivial
  · intro b
    cases b with
    | false => exact uses_pruneNamespace ns
    | true => exact Prog.uses_bind (uses_apply ns .proxyIngress) fun _ => uses_apply ns .proxyEgress

def Settles (ns : Request) (out : Except GoError Unit) (s : State) : Prop :=
  (∃ e, out = .error e) ∨ Owed ns s ∨ InSync ns s

lemma settles_of_cached {b : Bool} (hw : WellFormed o s)
    (hg : Owed ns s ∨ hasManaged s.gateways.cache ns = b)
    (hp : ∀ hop, Owed ns s ∨
      s.policies.api.lookup (policyKey ns hop) = if b then some (policyFor ns hop) else none) :
    Owed ns s ∨ InSync ns s := by
  by_cases ho : Owed ns s
  · exact Or.inl ho
  · refine Or.inr fun hop => ?_
    rw [← (owed_or_cached_gateways hw ns).resolve_left ho, hg.resolve_left ho]
    exact (hp hop).resolve_left ho

lemma safe_pruneNamespace (hw : WellFormed o s)
    (hg : Owed ns s ∨ hasManaged s.gateways.cache ns = false) :
    Safe (Rely o) (Served o) (pruneNamespace ns) (Settles ns) s := by
  have hu : ∀ hop msg,
    (wrapped msg (ignoreNotFound (send (.deletePolicy (policyKey ns hop))))).Uses OwnCall :=
    fun hop msg => uses_wrapped (uses_ignoreNotFound ((Prog.uses_request _).mpr trivial))
  have hJ : Stable (Rely o) _ := stable_wellFormed.and (stable_seen ns false)
  refine safe_then (safe_prune hw ns .proxyIngress _) (hu .proxyIngress _) hJ ⟨hw, hg⟩
    (fun e t => Or.inl ⟨e, rfl⟩) ?_
  intro t h₁ hj
  refine safe_then (safe_prune hj.1 ns .proxyEgress _) (hu .proxyEgress _)
    (hJ.and (stable_stored ns .proxyIngress none)) ⟨hj, h₁⟩ (fun e t => Or.inl ⟨e, rfl⟩) ?_
  intro t' h₂ hj'
  refine Safe.ret (stable_settled ns) (settles_of_cached hj'.1.1 hj'.1.2 ?_) fun _ h => Or.inr h
  intro hop
  cases hop with
  | proxyIngress => exact hj'.2
  | proxyEgress => exact h₂

lemma safe_applyBoth (hw : WellFormed o s)
    (hg : Owed ns s ∨ hasManaged s.gateways.cache ns = true) :
    Safe (Rely o) (Served o)
      (apply (dataPlaneProxyIngressPolicy ns) >>= fun _ => apply (proxyEgressPolicy ns))
      (Settles ns) s := by
  have hJ : Stable (Rely o) _ := stable_wellFormed.and (stable_seen ns true)
  refine safe_then (safe_apply hw ns .proxyIngress) (uses_apply ns .proxyIngress) hJ ⟨hw, hg⟩
    (fun e t => Or.inl ⟨e, rfl⟩) ?_
  intro t h₁ hj
  refine ((safe_apply hj.1 ns .proxyEgress).frame (uses_apply ns .proxyEgress)
    (hJ.and (stable_cached ns .proxyIngress _)) (fun _ c _ _ => served_of_stable
      (hJ.and (stable_cached ns .proxyIngress _)) c) ⟨hj, h₁⟩).mono ?_
  rintro out t' ⟨he | h₂, hj'⟩
  · exact Or.inl he
  · refine Or.inr (settles_of_cached hj'.1.1 hj'.1.2 ?_)
    intro hop
    by_cases ho : Owed ns t'
    · exact Or.inl ho
    · rw [← (owed_or_cached_policy hj'.1.1 ns hop).resolve_left ho]
      cases hop with
      | proxyIngress => exact hj'.2
      | proxyEgress => exact h₂

lemma safe_reconcile (hw : WellFormed o s) (ns : Request) :
    Safe (Rely o) (Served o) (reconcile ns) (Settles ns) s := by
  apply Safe.bind
  refine (safe_namespaceHasManagedGateway hw ns).mono ?_
  rintro (e | b) t ⟨hw', hb⟩
  · exact fun t' _ => Or.inl ⟨e, rfl⟩
  · cases b with
    | false => exact safe_pruneNamespace hw' (hb false rfl)
    | true => exact safe_applyBoth hw' (hb true rfl)

end Reconcile

end EnvoyGatewayExtension.NetpolController
