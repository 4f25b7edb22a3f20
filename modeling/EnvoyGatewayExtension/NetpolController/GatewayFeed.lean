import EnvoyGatewayExtension.NetpolController.System

namespace EnvoyGatewayExtension.NetpolController

open Kubernetes EnvoyGateway Stores Informer

lemma hasManaged_iff {store : Gateways} {ns : String} : hasManaged store ns = true ↔
    ∃ k gw, store.lookup k = some gw ∧ k.namespace = ns ∧ isManaged gw = true := by
  simp only [hasManaged, gatewaysIn, List.any_eq_true, List.mem_map, List.mem_filter, beq_iff_eq]
  constructor
  · rintro ⟨gw, ⟨⟨k, gw'⟩, ⟨he, hk⟩, rfl⟩, hm⟩
    exact ⟨k, gw', Store.mem_items.mp he, hk, hm⟩
  · rintro ⟨k, gw, he, hk, hm⟩
    exact ⟨gw, ⟨(k, gw), ⟨Store.mem_items.mpr he, hk⟩, rfl⟩, hm⟩

lemma hasManaged_mono {store store' : Gateways} {ns : String}
    (h : ∀ k, k.namespace = ns → (store.lookup k).any isManaged = (store'.lookup k).any isManaged)
    (hs : hasManaged store ns = true) : hasManaged store' ns = true := by
  obtain ⟨k, gw, hl, hk, hm⟩ := hasManaged_iff.mp hs
  have ha := h k hk
  rw [hl, Option.any_some, hm] at ha
  obtain ⟨gw', hl', hm'⟩ := (Option.any_eq_true _ _).mp ha.symm
  exact hasManaged_iff.mpr ⟨k, gw', hl', hk, hm'⟩

lemma hasManaged_congr {store store' : Gateways} {ns : String}
    (h : ∀ k, k.namespace = ns → (store.lookup k).any isManaged = (store'.lookup k).any isManaged) :
    hasManaged store ns = hasManaged store' ns :=
  Bool.eq_iff_iff.mpr ⟨hasManaged_mono h, hasManaged_mono fun k hk => (h k hk).symm⟩

lemma hasManaged_set {store : Gateways} {ns : String} {k : NamespacedName} {v : Option Gateway}
    (h : k.namespace = ns → v.any isManaged = (store.lookup k).any isManaged) :
    hasManaged (store.set k v) ns = hasManaged store ns := by
  apply hasManaged_congr
  intro j hj
  by_cases hk : j = k
  · subst hk
    rw [Store.lookup_set_self]
    exact h hj
  · rw [Store.lookup_set_ne _ _ hk]

/-- Whether the informer keeps the changes of each object in order, or those of all objects. -/
inductive Order
  | perObject
  | overall
  deriving DecidableEq

def StaysManaged : Event Gateway → Prop
  | .update old new => isManaged old = true → isManaged new = true
  | _ => True

lemma result_managed {e : Event Gateway} {x : Option Gateway} (hf : e.From x) (hk : StaysManaged e)
    (hn : managedGatewayPredicate e = false) : e.result.any isManaged = x.any isManaged := by
  cases e with
  | create gw =>
    have hm : isManaged gw = false := hn
    rcases hf with rfl | rfl <;> simp [Event.result, hm]
  | update old new =>
    have hm : isManaged new = false := hn
    have ho : isManaged old = false := by
      by_contra hc
      exact absurd (hk (Bool.eq_true_of_not_eq_false hc)) (by simp [hm])
    obtain rfl : x = some old := hf
    simp [Event.result, hm, ho]
  | delete gw =>
    have hm : isManaged gw = false := hn
    obtain rfl : x = some gw := hf
    simp [Event.result, hm]

lemma leads_managed {es : List (Event Gateway)} {x y : Option Gateway} (h : Event.Leads x es y)
    (hk : ∀ e ∈ es, StaysManaged e) (hn : ∀ e ∈ es, managedGatewayPredicate e = false) :
    x.any isManaged = y.any isManaged := by
  induction es generalizing x with
  | nil => exact congrArg _ h
  | cons e es ih =>
    have hr := result_managed h.1 (hk e List.mem_cons_self) (hn e List.mem_cons_self)
    rw [← hr]
    exact ih h.2 (fun f hf => hk f (List.mem_cons_of_mem e hf))
      (fun f hf => hn f (List.mem_cons_of_mem e hf))

lemma mem_gatewayRequests {e : Event Gateway} {k : NamespacedName} {ns : Request}
    (h : ∀ gw ∈ e.objects, gw.key = k) :
    ns ∈ gatewayRequests e ↔ managedGatewayPredicate e = true ∧ ns = k.namespace := by
  have hns : ∀ gw ∈ e.objects, gw.namespace = k.namespace := fun gw hgw => by rw [← h gw hgw]; rfl
  unfold gatewayRequests
  split_ifs with hp
  · simp only [hp, true_and, List.mem_flatMap, mapGatewayToRequests, requestFor, List.mem_singleton]
    constructor
    · rintro ⟨gw, hgw, rfl⟩
      exact hns gw hgw
    · rintro rfl
      cases e with
      | create gw => exact ⟨gw, List.mem_cons_self, (hns gw List.mem_cons_self).symm⟩
      | update gw _ => exact ⟨gw, List.mem_cons_self, (hns gw List.mem_cons_self).symm⟩
      | delete gw => exact ⟨gw, List.mem_cons_self, (hns gw List.mem_cons_self).symm⟩
  · simp [hp]

lemma staysManaged_ofChange {x v : Option Gateway}
    (h : ∀ old gw, x = some old → v = some gw → isManaged old = true → isManaged gw = true)
    {e : Event Gateway} (he : e ∈ Event.ofChange x v) : StaysManaged e := by
  cases e with
  | create gw => trivial
  | delete gw => trivial
  | update old new =>
    cases x with
    | none => cases v <;> simp [Event.ofChange] at he
    | some a =>
      cases v with
      | none => simp [Event.ofChange] at he
      | some b =>
        simp only [Event.ofChange] at he
        split_ifs at he
        · simp at he
        · obtain ⟨rfl, rfl⟩ := Event.update.inj (List.mem_singleton.mp he)
          exact h old new rfl rfl

def Steady (c : Gateways) : List (NamespacedName × Event Gateway) → Prop
  | [] => True
  | (k, e) :: es => (managedGatewayPredicate e = true ∨
      hasManaged (c.set k e.result) k.namespace = hasManaged c k.namespace) ∧
        Steady (c.set k e.result) es

def Feed : Order → Informer NamespacedName Gateway → Prop
  | .perObject, i => ∀ k, ∀ e ∈ i.pending k, StaysManaged e
  | .overall, i => Steady i.cache i.events

/-- Changes the watch can follow: no Gateway is updated out of the class, or, with all changes in
order, none that is the last one of its namespace. -/
def Permitted (o : Order) (api : Gateways) (k : NamespacedName) (v : Option Gateway) : Prop :=
  ∀ old gw, api.lookup k = some old → v = some gw → isManaged old = true → isManaged gw = true ∨
    (o = .overall ∧ hasManaged (api.set k v) k.namespace = true)

def Next : Order → Informer NamespacedName Gateway → NamespacedName → Prop
  | .perObject, _, _ => True
  | .overall, i, k => i.events.head?.map Prod.fst = some k

section Replay

variable {c : Gateways} {es : List (NamespacedName × Event Gateway)} {ns : String}

def replay (c : Gateways) (es : List (NamespacedName × Event Gateway)) : Gateways :=
  es.foldl (fun c e => c.set e.1 e.2.result) c

lemma lookup_replay {k : NamespacedName} {y : Option Gateway}
    (h : Event.Leads (c.lookup k) (backlog k es) y) : (replay c es).lookup k = y := by
  induction es generalizing c with
  | nil => exact h
  | cons e es ih =>
    obtain ⟨j, e⟩ := e
    change (replay (c.set j e.result) es).lookup k = y
    apply ih
    by_cases hj : j = k
    · subst hj
      rw [backlog, List.filter_cons_of_pos (by simp), List.map_cons] at h
      rw [Store.lookup_set_self]
      exact h.2
    · rw [backlog, List.filter_cons_of_neg (by simpa using hj)] at h
      rw [Store.lookup_set_ne _ _ (Ne.symm hj)]
      exact h

lemma hasManaged_replay (i : Informer NamespacedName Gateway) (ns : String) :
    hasManaged (replay i.cache i.events) ns = hasManaged i.api ns :=
  hasManaged_congr fun k _ => by rw [lookup_replay (i.tracks k)]

lemma Steady.replay (h : Steady c es)
    (hn : ∀ x ∈ es, x.1.namespace = ns → managedGatewayPredicate x.2 = false) :
    hasManaged (replay c es) ns = hasManaged c ns := by
  induction es generalizing c with
  | nil => rfl
  | cons x es ih =>
    obtain ⟨k, e⟩ := x
    have ht := ih h.2 fun y hy => hn y (List.mem_cons_of_mem _ hy)
    refine ht.trans ?_
    by_cases hk : k.namespace = ns
    · have he := hn (k, e) List.mem_cons_self hk
      rw [← hk]
      exact h.1.resolve_left (by simp [he])
    · exact hasManaged_set fun hc => absurd hc hk

lemma Steady.append {k : NamespacedName} {e : Event Gateway} (h : Steady c es)
    (he : managedGatewayPredicate e = true ∨
      hasManaged ((NetpolController.replay c es).set k e.result) k.namespace =
        hasManaged (NetpolController.replay c es) k.namespace) :
    Steady c (es ++ [(k, e)]) := by
  induction es generalizing c with
  | nil => exact ⟨he, trivial⟩
  | cons x es ih => exact ⟨h.1, ih h.2 he⟩

lemma Steady.creates (h : ∀ x ∈ es, ∃ gw, x.2 = .create gw ∧ c.lookup x.1 = some gw) :
    Steady c es := by
  induction es generalizing c with
  | nil => trivial
  | cons x es ih =>
    obtain ⟨k, e⟩ := x
    obtain ⟨gw, rfl, hl⟩ := h _ List.mem_cons_self
    refine ⟨Or.inr (hasManaged_set fun _ => by rw [hl]; rfl), ih ?_⟩
    intro y hy
    obtain ⟨gw', he, hl'⟩ := h y (List.mem_cons_of_mem _ hy)
    refine ⟨gw', he, ?_⟩
    change (c.set k (some gw)).lookup y.1 = some gw'
    by_cases hk : y.1 = k
    · rw [hk, Store.lookup_set_self, ← hl, ← hk, hl']
    · rw [Store.lookup_set_ne _ _ hk, hl']

end Replay

section Feed

variable {o : Order} {i i' : Informer NamespacedName Gateway} {k : NamespacedName} {ns : String}

lemma Feed.noticed (h : Feed o i) (hk : i.Everywhere (fun k gw => gw.key = k)) (ns : String) :
    (∃ k, ∃ e ∈ i.pending k, ns ∈ gatewayRequests e) ∨
    hasManaged i.cache ns = hasManaged i.api ns := by
  -- a namespace whose cached Gateways tell a different story has an announcement on its way
  by_cases hn : ∃ k, ∃ e ∈ i.pending k, ns ∈ gatewayRequests e
  · exact Or.inl hn
  · refine Or.inr ?_
    have hdrop : ∀ k e, e ∈ i.pending k → k.namespace = ns → managedGatewayPredicate e = false := by
      intro k e he hns
      by_contra hp
      refine hn ⟨k, e, he, ?_⟩
      exact (mem_gatewayRequests (hk.2 k e he)).mpr ⟨Bool.eq_true_of_not_eq_false hp, hns.symm⟩
    cases o with
    | perObject =>
      apply hasManaged_congr
      intro k hns
      exact leads_managed (i.tracks k) (h k) fun e he => hdrop k e he hns
    | overall =>
      rw [← hasManaged_replay]
      refine (Steady.replay h ?_).symm
      intro x hx hns
      refine hdrop x.1 x.2 ?_ hns
      exact List.mem_map.mpr ⟨x, List.mem_filter.mpr ⟨hx, by simp⟩, rfl⟩

lemma next_overall {e : Event Gateway} (hn : Next .overall i k) (hd : i.deliver k = some (e, i')) :
    i.events = (k, e) :: i'.events ∧ i'.cache = i.cache.set k e.result := by
  obtain ⟨_, hp, _, hc, _⟩ := deliver_eq_some hd
  obtain ⟨j, hd', he⟩ := deliver_of_pending hp
  obtain rfl := (Prod.mk.inj (Option.some.inj (hd.symm.trans hd'))).2
  simp only [Next, Option.map_eq_some_iff] at hn
  obtain ⟨⟨k', e'⟩, hh, rfl⟩ := hn
  obtain ⟨es, hes⟩ := List.head?_eq_some_iff.mp hh
  refine ⟨?_, hc⟩
  have hpend : i.pending k' = e' :: backlog k' es := by
    rw [Informer.pending, hes, backlog, List.filter_cons_of_pos (by simp), List.map_cons]
    rfl
  rw [hpend] at hp
  obtain ⟨rfl, _⟩ := List.cons.inj hp
  rw [hes, List.eraseP_cons_of_pos (by simp)] at he
  rw [hes, he]

lemma Feed.deliver {e : Event Gateway} (h : Feed o i) (hk : i.Everywhere (fun k gw => gw.key = k))
    (hn : Next o i k) (hd : i.deliver k = some (e, i')) :
    Feed o i' ∧ ∀ ns, ns ∈ gatewayRequests e ∨ hasManaged i'.cache ns = hasManaged i.cache ns := by
  obtain ⟨hf, hp, _, hc, hne⟩ := deliver_eq_some hd
  have he : e ∈ i.pending k := by rw [hp]; exact List.mem_cons_self
  -- a change that is dropped has left the namespace managed or not
  have hsame : managedGatewayPredicate e = true ∨
      hasManaged (i.cache.set k e.result) k.namespace = hasManaged i.cache k.namespace := by
    cases o with
    | perObject =>
      by_cases ha : managedGatewayPredicate e = true
      · exact Or.inl ha
      · refine Or.inr (hasManaged_set fun _ => ?_)
        exact result_managed hf (h k e he) (Bool.eq_false_of_not_eq_true ha)
    | overall =>
      have hs : Steady i.cache i.events := h
      rw [(next_overall hn hd).1] at hs
      exact hs.1
  constructor
  · cases o with
    | perObject =>
      intro j f hj
      by_cases hjk : j = k
      · subst hjk
        exact h j f (by rw [hp]; exact List.mem_cons_of_mem e hj)
      · exact h j f (by rw [← hne j hjk]; exact hj)
    | overall =>
      have hs : Steady i.cache i.events := h
      rw [(next_overall hn hd).1] at hs
      change Steady i'.cache i'.events
      rw [(next_overall hn hd).2]
      exact hs.2
  · intro ns
    rw [hc]
    by_cases hns : k.namespace = ns
    · subst hns
      exact hsame.imp (fun ha => (mem_gatewayRequests (hk.2 k e he)).mpr ⟨ha, rfl⟩) id
    · exact Or.inr (hasManaged_set fun hc => absurd hc hns)

lemma announced_or_same {v : Option Gateway} (hp : Permitted o i.api k v) {e : Event Gateway}
    (he : e ∈ Event.ofChange (i.api.lookup k) v) : managedGatewayPredicate e = true ∨
      hasManaged (i.api.set k v) k.namespace = hasManaged i.api k.namespace := by
  by_cases ha : managedGatewayPredicate e = true
  · exact Or.inl ha
  refine Or.inr ?_
  have hn : managedGatewayPredicate e = false := Bool.eq_false_of_not_eq_true ha
  obtain ⟨hfrom, hres⟩ := Event.from_of_mem_ofChange he
  by_cases hs : StaysManaged e
  · exact hasManaged_set fun _ => by rw [← hres]; exact result_managed hfrom hs hn
  · cases e with
    | create gw => exact absurd trivial hs
    | delete gw => exact absurd trivial hs
    | update old gw =>
      have hlook : i.api.lookup k = some old := hfrom
      simp only [StaysManaged, Classical.not_imp] at hs
      rcases hp old gw hlook hres.symm hs.1 with hm | ⟨_, hm⟩
      · exact absurd hm hs.2
      · rw [hm]
        exact (hasManaged_iff.mpr ⟨k, old, hlook, rfl, hs.1⟩).symm

lemma Feed.write {v : Option Gateway} (h : Feed o i) (hp : Permitted o i.api k v) :
    Feed o (i.write k v) := by
  cases o with
  | perObject =>
    intro j e he
    by_cases hj : j = k
    · subst hj
      rw [write_pending_self, List.mem_append] at he
      rcases he with he | he
      · exact h j e he
      · apply staysManaged_ofChange ?_ he
        intro old gw ho hv hm
        exact (hp old gw ho hv hm).resolve_right fun hc => by cases hc.1
    · rw [write_pending_ne _ _ hj] at he
      exact h j e he
  | overall =>
    change Steady i.cache (i.events ++ (Event.ofChange (i.api.lookup k) v).map (Prod.mk k))
    rcases Event.ofChange_cases (i.api.lookup k) v with ⟨_, hnil⟩ | ⟨_, e, hcons⟩
    · rw [hnil, List.map_nil, List.append_nil]
      exact h
    · have he : e ∈ Event.ofChange (i.api.lookup k) v := by rw [hcons]; exact List.mem_cons_self
      have hset : hasManaged ((replay i.cache i.events).set k e.result) k.namespace =
          hasManaged (i.api.set k v) k.namespace := by
        apply hasManaged_congr
        intro j _
        rw [Store.lookup_set, Store.lookup_set, lookup_replay (i.tracks j),
          (Event.from_of_mem_ofChange he).2]
      rw [hcons]
      apply Steady.append h
      rw [hset, hasManaged_replay]
      exact announced_or_same hp he

lemma Permitted.noticed {v : Option Gateway} (hp : Permitted o i.api k v)
    (hk : i.Everywhere (fun k gw => gw.key = k)) (hv : ∀ gw, v = some gw → gw.key = k)
    (ns : String) : (∃ e ∈ (i.write k v).pending k, ns ∈ gatewayRequests e) ∨
      hasManaged (i.api.set k v) ns = hasManaged i.api ns := by
  by_cases hns : k.namespace = ns
  · subst hns
    rcases Event.ofChange_cases (i.api.lookup k) v with ⟨heq, _⟩ | ⟨_, e, hcons⟩
    · exact Or.inr (hasManaged_set fun _ => by rw [heq])
    · have he : e ∈ Event.ofChange (i.api.lookup k) v := by rw [hcons]; exact List.mem_cons_self
      refine (announced_or_same hp he).imp (fun ha => ⟨e, ?_, ?_⟩) id
      · rw [write_pending_self]
        exact List.mem_append_right _ he
      · refine (mem_gatewayRequests (k := k) ?_).mpr ⟨ha, rfl⟩
        intro gw hgw
        exact (Event.mem_ofChange_objects he hgw).elim (hk.1 k gw) (hv gw)
  · exact Or.inr (hasManaged_set fun hc => absurd hc hns)

lemma Feed.resync (o : Order) (i : Informer NamespacedName Gateway) : Feed o i.resync := by
  cases o with
  | perObject =>
    intro k e he
    rw [resync_pending] at he
    obtain ⟨gw, _, rfl⟩ := List.mem_map.mp he
    trivial
  | overall =>
    apply Steady.creates
    intro x hx
    obtain ⟨y, hy, rfl⟩ := List.mem_map.mp hx
    exact ⟨y.2, rfl, Store.mem_items.mp hy⟩

lemma Feed.synced (o : Order) (store : Gateways) : Feed o (.synced store) := by
  cases o with
  | perObject => exact fun k e he => by cases he
  | overall => trivial

end Feed

end EnvoyGatewayExtension.NetpolController
