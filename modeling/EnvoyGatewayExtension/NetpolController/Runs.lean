import EnvoyGatewayExtension.NetpolController.Convergence

namespace EnvoyGatewayExtension.NetpolController

open Effects Kubernetes EnvoyGateway Stores Informer

/-- Gateways come and go and change as the order permits, policies are deleted or edited below
their labels. A stopped controller permits everything else to the Gateways as well. -/
def Admissible (o : Order) (s : State) : Action → Prop
  | .putGateway gw => s.running = true → Permitted o s.gateways.api gw.key (some gw)
  | .putPolicy np => (∃ ns hop, np.key = policyKey ns hop) → Labelled np
  | .deliverGateway k => Next o s.gateways k
  | _ => True

structure Active (o : Order) (s : State) : Prop where
  wellFormed : WellFormed o s
  worker : ∀ r p, s.worker = some (r, p) → p.Uses OwnCall ∧ Safe (Rely o) (Served o) p (Settles r) s
  settled : ∀ ns, (Owed ns s ∨ InSync ns s) ∨ ∃ p, s.worker = some (ns, p)

structure Tracked (o : Order) (s : State) : Prop where
  sound : Sound s
  stopped : s.running = false → s.worker = none
  active : s.running = true → Active o s

section Step

variable {o : Order} {s s' : State} {r : Request}

lemma Env.running_eq (h : Env o s s') : s'.running = s.running := by
  cases h <;> rfl

lemma Active.env (ha : Active o s) (h : Env o s s') (hw : s'.worker = s.worker) : Active o s' := by
  refine ⟨ha.wellFormed.env h, ?_, ?_⟩
  · intro r p hp
    rw [hw] at hp
    obtain ⟨hu, hs⟩ := ha.worker r p hp
    exact ⟨hu, hs.environment ⟨ha.wellFormed, h⟩⟩
  · intro ns
    rw [hw]
    exact (ha.settled ns).imp (settled_env ha.wellFormed h) id

lemma Active.reply {c : ClientCall} {k : Except GoError c.Result → Client Unit}
    {x : Except GoError c.Result} (ha : Active o s) (hw : s.worker = some (r, .call c k))
    (hx : Answers s c x s') : Active o (reply s' r (k x)) := by
  obtain ⟨hu, hs⟩ := ha.worker r _ hw
  have hserved : Served o s c x s' := ⟨ha.wellFormed, hx⟩
  have hwf := served_of_stable stable_wellFormed c hu.1 hserved ha.wellFormed
  refine ⟨hwf.env .worker, ?_, ?_⟩
  · intro r' p hp
    obtain ⟨rfl, rfl⟩ := Prod.mk.inj (Option.some.inj hp)
    exact ⟨hu.2 x, (hs.answered hserved).environment ⟨hwf, .worker⟩⟩
  · intro ns
    rcases ha.settled ns with h | ⟨p, hp⟩
    · have hs' := served_of_stable (stable_settled ns) c hu.1 hserved h
      exact Or.inl (settled_env hwf .worker hs')
    · rw [hw] at hp
      obtain ⟨rfl, rfl⟩ := Prod.mk.inj (Option.some.inj hp)
      exact Or.inr ⟨_, rfl⟩

lemma Active.take (ha : Active o s) (hi : s.worker.isNone = true) :
    Active o { s with queue := s.queue.filter (· ≠ r), worker := some (r, reconcile r) } := by
  have hwf : WellFormed o
      { s with queue := s.queue.filter (· ≠ r), worker := some (r, reconcile r) } :=
    ⟨⟨ha.wellFormed.gateways, ha.wellFormed.policies⟩, ha.wellFormed.feed⟩
  refine ⟨hwf, ?_, ?_⟩
  · intro r' p hp
    obtain ⟨rfl, rfl⟩ := Prod.mk.inj (Option.some.inj hp)
    exact ⟨uses_reconcile r, safe_reconcile hwf r⟩
  · intro ns
    by_cases hns : ns = r
    · subst hns
      exact Or.inr ⟨_, rfl⟩
    · rcases ha.settled ns with (ho | hs) | ⟨p, hp⟩
      · refine Or.inl (Or.inl (ho.imp (fun hq => ?_) id))
        exact List.mem_filter.mpr ⟨hq, by simpa using hns⟩
      · exact Or.inl (Or.inr hs)
      · simp [hp] at hi

lemma Active.finish (ha : Active o s) (hw : s.worker = some (r, .ret ())) :
    Active o { s with worker := none } := by
  refine ⟨ha.wellFormed.env .worker, (fun _ _ hp => by cases hp), ?_⟩
  intro ns
  left
  rcases ha.settled ns with h | ⟨p, hp⟩
  · exact h
  · rw [hw] at hp
    obtain ⟨rfl, rfl⟩ := Prod.mk.inj (Option.some.inj hp)
    exact (ha.worker r _ hw).2.returned.resolve_left fun ⟨e, he⟩ => by cases he

lemma Active.requeue {e : GoError} (ha : Active o s) (hw : s.worker = some (r, .fail e)) :
    Active o ({ s with worker := none }.enqueue [r]) := by
  refine ⟨⟨⟨ha.wellFormed.gateways, ha.wellFormed.policies⟩, ha.wellFormed.feed⟩,
    (fun _ _ hp => by cases hp), ?_⟩
  intro ns
  left
  rcases ha.settled ns with (ho | hs) | ⟨p, hp⟩
  · exact Or.inl (ho.imp (fun hq => mem_enqueued.mpr (Or.inl hq)) id)
  · exact Or.inr hs
  · rw [hw] at hp
    obtain ⟨rfl, rfl⟩ := Prod.mk.inj (Option.some.inj hp)
    exact Or.inl (Or.inl (mem_enqueued.mpr (Or.inr (List.mem_singleton.mpr rfl))))

lemma Active.start (hs : Sound s) : Active o { s with
    gateways := s.gateways.resync, policies := s.policies.resync
    queue := [], worker := none, running := true } := by
  -- the replay after a start announces every managed Gateway and every policy left behind
  have hwf : WellFormed o { s with
      gateways := s.gateways.resync, policies := s.policies.resync
      queue := [], worker := none, running := true } := by
    exact ⟨⟨hs.gateways.resync, hs.policies.resync⟩, .resync o s.gateways⟩
  refine ⟨hwf, (fun _ _ hp => by cases hp), ?_⟩
  intro ns
  left
  by_cases hp : ∃ hop, s.policies.api.lookup (policyKey ns hop) ≠ none
  · obtain ⟨hop, hp⟩ := hp
    obtain ⟨np, hnp⟩ := Option.ne_none_iff_exists'.mp hp
    refine Or.inl (owed_of_pending hwf ns hop ?_)
    rw [resync_pending, hnp]
    exact List.cons_ne_nil _ _
  · by_cases hg : hasManaged s.gateways.api ns = true
    · obtain ⟨k, gw, hl, hk, hm⟩ := hasManaged_iff.mp hg
      have he : Event.create gw ∈ s.gateways.resync.pending k := by
        rw [resync_pending, hl]
        exact List.mem_cons_self
      refine Or.inl (Or.inr (Or.inl ⟨k, .create gw, he, ?_⟩))
      exact (mem_gatewayRequests (hwf.gateways.2 k _ he)).mpr ⟨hm, hk.symm⟩
    · push Not at hp
      refine Or.inr fun hop => ?_
      change s.policies.api.lookup _ = if hasManaged s.gateways.api ns = true then _ else _
      rw [hp hop, if_neg hg]

lemma Tracked.writeGateway {k : NamespacedName} {v : Option Gateway} (ht : Tracked o s)
    (hk : ∀ gw, v = some gw → gw.key = k) (hm : s.running = true → Permitted o s.gateways.api k v) :
    Tracked o { s with gateways := s.gateways.write k v } :=
  ⟨⟨ht.sound.gateways.write hk, ht.sound.policies⟩, ht.stopped,
    fun hr => (ht.active hr).env (.gateway hk (hm hr)) rfl⟩

lemma Tracked.writePolicy {k : NamespacedName} {v : Option NetworkPolicy} (ht : Tracked o s)
    (hk : ∀ np, v = some np → np.key = k ∧ ((∃ ns hop, k = policyKey ns hop) → Labelled np)) :
    Tracked o (s.writePolicy k v) :=
  ⟨⟨ht.sound.gateways, ht.sound.policies.write hk⟩, ht.stopped,
    fun hr => (ht.active hr).env (.policy hk) rfl⟩

lemma Tracked.of_active (hr : s.running = true) (ha : Active o s) : Tracked o s :=
  ⟨ha.wellFormed.toSound, (fun hf => by rw [hr] at hf; cases hf), fun _ => ha⟩

lemma Tracked.running {w : Request × Client Unit} (ht : Tracked o s) (hw : s.worker = some w) :
    s.running = true := by
  by_contra hr
  rw [ht.stopped (Bool.eq_false_of_not_eq_true hr)] at hw
  cases hw

lemma Tracked.reply {c : ClientCall} {k : Except GoError c.Result → Client Unit}
    {x : Except GoError c.Result} (ht : Tracked o s) (hw : s.worker = some (r, .call c k))
    (hx : Answers s c x s') : Tracked o (reply s' r (k x)) := by
  have ha := ht.active (ht.running hw)
  refine .of_active ?_ (ha.reply hw hx)
  change s'.running = true
  rcases answers_env (o := o) (ha.worker r _ hw).1.1 hx with rfl | he
  · exact ht.running hw
  · exact he.running_eq.trans (ht.running hw)

lemma Tracked.step {a : Action} (ht : Tracked o s) (ha : Admissible o s a)
    (h : step s a = some s') : Tracked o s' := by
  cases steps_of_step h with
  | putGateway =>
    refine ht.writeGateway ?_ ha
    intro gw' hgw
    cases hgw
    rfl
  | deleteGateway => exact ht.writeGateway (fun _ hv => by cases hv) (fun _ _ _ _ hv => by cases hv)
  | putPolicy =>
    refine ht.writePolicy ?_
    intro np' hnp
    cases hnp
    exact ⟨rfl, ha⟩
  | deletePolicy => exact ht.writePolicy fun _ hv => by cases hv
  | deliverGateway hr hd => exact .of_active hr ((ht.active hr).env (.deliverGateway ha hd) rfl)
  | deliverPolicy hr hd => exact .of_active hr ((ht.active hr).env (.deliverPolicy hd) rfl)
  | take hr hi _ => exact .of_active hr ((ht.active hr).take hi)
  | replied _ hw hx => exact ht.reply hw hx
  | finish hw => exact .of_active (ht.running hw) ((ht.active (ht.running hw)).finish hw)
  | requeue hw => exact .of_active (ht.running hw) ((ht.active (ht.running hw)).requeue hw)
  | stop => exact ⟨⟨ht.sound.gateways, ht.sound.policies⟩, fun _ => rfl, (fun hr => by cases hr)⟩
  | start => exact .of_active rfl (.start ht.sound)

end Step

lemma tracked_initial (o : Order) {gws : List Gateway} {nps : List NetworkPolicy}
    (h : ∀ np ∈ nps, ∀ ns hop, np.key ≠ policyKey ns hop) : Tracked o (initial gws nps) := by
  refine ⟨⟨⟨?_, (fun _ _ he => by cases he)⟩, ⟨?_, (fun _ _ he => by cases he)⟩⟩,
    fun _ => rfl, (fun hr => by cases hr)⟩
  · intro k gw hk
    exact (Store.of_lookup_keyed hk).2
  · intro k np hk
    obtain ⟨hm, hk⟩ := Store.of_lookup_keyed hk
    exact ⟨hk, fun ⟨ns, hop, he⟩ => absurd (hk.trans he) (h np hm ns hop)⟩

lemma Active.inSync {o : Order} {s : State} (ha : Active o s) (hq : Quiescent s) (ns : Request) :
    InSync ns s := by
  obtain ⟨_, hqueue, hw, hg, hp⟩ := hq
  rw [List.isEmpty_iff] at hg hp
  rw [Option.isNone_iff_eq_none] at hw
  rcases ha.settled ns with ((hn | ⟨k, e, he, _⟩ | ⟨k, e, he, _⟩) | hs) | ⟨p, hwk⟩
  · simp [hqueue] at hn
  · simp [Informer.pending, backlog, hg] at he
  · simp [Informer.pending, backlog, hp] at he
  · exact hs
  · simp [hw] at hwk

lemma tracked_reach {o : Order} {s t : State} (hs : Tracked o s)
    (h : Reach step (Admissible o) s t) : Tracked o t :=
  h.invariant (fun _ _ _ ha hn ht => ht.step ha hn) hs

theorem reachable_settled {gws : List Gateway} {nps : List NetworkPolicy} {s : State}
    (hnps : ∀ np ∈ nps, ∀ ns hop, np.key ≠ policyKey ns hop)
    (hr : Reach step (Admissible .perObject) (initial gws nps) s) (ns : Request) :
    (s.running = true → InSync ns s ∨ Owed ns s ∨ ∃ p, s.worker = some (ns, p)) ∧
      (Quiescent s → InSync ns s) := by
  have ht := tracked_reach (tracked_initial .perObject hnps) hr
  constructor
  · intro hrun
    rcases (ht.active hrun).settled ns with (ho | hs) | hp
    · exact Or.inr (Or.inl ho)
    · exact Or.inl hs
    · exact Or.inr (Or.inr hp)
  · intro hq
    exact (ht.active hq.1).inSync hq ns

def defaultGateway : Gateway := ⟨"default", "eg", gatewayClassName, false⟩

def interruptedRun : List Action :=
  [.start, .deliverGateway ⟨"default", "eg"⟩, .take "default", .answer, .answer, .answer, .stop,
    .start, .deliverGateway ⟨"default", "eg"⟩, .take "default", .answer,
      .refuse (.text "timeout"), .finish,
    .deliverPolicy ⟨"default", dataPlaneNetworkPolicyName⟩,
    .take "default", .answer, .answer, .answer, .answer, .finish,
    .deliverPolicy ⟨"default", proxyEgressNetworkPolicyName⟩,
    .take "default", .answer, .answer, .answer, .finish]

theorem reachable_settled_interrupted :
    ∃ s, run (initial [defaultGateway] []) interruptedRun = some s ∧
    Quiescent s ∧ InSync "default" s := by
  have hrun : (run (initial [defaultGateway] []) interruptedRun).any
    (fun s => decide (Quiescent s)) = true := by
    decide
  obtain ⟨s, hs, hq⟩ := (Option.any_eq_true _ _).mp hrun
  have hq : Quiescent s := of_decide_eq_true hq
  refine ⟨s, hs, hq, (reachable_settled (by simp) (Reach.of_runSteps hs ?_) "default").2 hq⟩
  simp [interruptedRun, Admissible, Next]

section ClassChanges

variable {gws : List Gateway} {nps : List NetworkPolicy} {s : State}

lemma tracked_idle (o : Order) (h : ∀ ns, InSync ns (idle gws nps)) : Tracked o (idle gws nps) := by
  have hs : Sound (idle gws nps) := by
    refine ⟨⟨fun k gw hk => (Store.of_lookup_keyed hk).2, (fun _ _ he => by cases he)⟩,
      ⟨?_, (fun _ _ he => by cases he)⟩⟩
    intro k np hk
    refine ⟨(Store.of_lookup_keyed hk).2, ?_⟩
    rintro ⟨ns, hop, rfl⟩
    have hb := (h ns hop).symm.trans hk
    split_ifs at hb
    cases hb
    exact policyFor_labelled ns hop
  exact .of_active rfl ⟨⟨hs, .synced o _⟩, (fun _ _ hp => by cases hp),
    fun ns => Or.inl (Or.inr (h ns))⟩

lemma class_exit_unnoticed {old gw : Gateway} (hq : Quiescent s) (hs : InSync gw.namespace s)
    (ho : s.gateways.api.lookup gw.key = some old) (hold : isManaged old = true)
    (hgw : isManaged gw = false)
    (hlast : hasManaged (s.gateways.api.set gw.key (some gw)) gw.namespace = false) :
    ∃ t, run s [.putGateway gw, .deliverGateway gw.key] = some t ∧ Quiescent t ∧
      ¬ InSync gw.namespace t := by
  obtain ⟨hr, hqueue, hw, hg, hp⟩ := hq
  rw [List.isEmpty_iff] at hg
  have hne : old ≠ gw := by
    rintro rfl
    rw [hold] at hgw
    cases hgw
  obtain ⟨e, i, he, hd, hi, hapi⟩ :=
    write_deliver hg (k := gw.key) (v := some gw) (by simp [ho, hne])
  have hreq : gatewayRequests e = [] := by
    rw [ho, Event.ofChange, if_neg hne] at he
    cases he
    exact if_neg (by simp [managedGatewayPredicate, hgw])
  refine ⟨{ s with gateways := i }.enqueue [], ?_, ⟨hr, hqueue, hw, ?_, hp⟩, ?_⟩
  · simp only [run, runSteps, step, Option.bind_some, hr, if_true, hd, Option.map_some, hreq]
  · change i.events.isEmpty = true
    rw [hi]
    rfl
  · intro hsync
    have hbefore : hasManaged s.gateways.api gw.namespace = true :=
      hasManaged_iff.mpr ⟨gw.key, old, ho, rfl, hold⟩
    have hpol := (hs .proxyIngress).trans (if_pos hbefore)
    have hnone := hsync .proxyIngress
    change s.policies.api.lookup _ = if hasManaged i.api gw.namespace = true then _ else _ at hnone
    rw [hapi, hpol, hlast] at hnone
    cases hnone

theorem inSync_of_permitted (o : Order) :
    (∀ gws nps, (∀ ns, InSync ns (idle gws nps)) → ∀ t, Reach step (Admissible o) (idle gws nps) t →
      Quiescent t → ∀ ns, InSync ns t) ∧
    ∀ s old gw, Quiescent s → InSync gw.namespace s → s.gateways.api.lookup gw.key = some old →
      isManaged old = true → ¬ Permitted .overall s.gateways.api gw.key (some gw) →
      ∃ t, run s [.putGateway gw, .deliverGateway gw.key] = some t ∧ Quiescent t ∧
        ¬ InSync gw.namespace t := by
  constructor
  · intro gws nps hs t hr hq ns
    have ht := tracked_reach (tracked_idle o hs) hr
    exact (ht.active hq.1).inSync hq ns
  · intro s old gw hq hs ho hold hp
    have hexit : isManaged gw = false ∧
        hasManaged (s.gateways.api.set gw.key (some gw)) gw.namespace = false := by
      constructor
      · by_contra hm
        exact hp fun old' gw' _ hgw _ =>
          Or.inl (by cases hgw; exact Bool.eq_true_of_not_eq_false hm)
      · by_contra hm
        exact hp fun old' gw' _ hgw _ => Or.inr ⟨rfl, Bool.eq_true_of_not_eq_false hm⟩
    exact class_exit_unnoticed hq hs ho hold hexit.1 hexit.2

def firstGatewayRun : List Action :=
  [.putGateway defaultGateway, .deliverGateway ⟨"default", "eg"⟩, .take "default", .answer,
    .answer, .answer,
    .answer, .answer, .finish, .deliverPolicy ⟨"default", dataPlaneNetworkPolicyName⟩,
    .deliverPolicy ⟨"default", proxyEgressNetworkPolicyName⟩, .take "default", .answer, .answer,
      .answer, .finish]

def otherClassGateway : Gateway := ⟨"default", "eg", "istio", false⟩

theorem inSync_of_permitted_first_gateway :
    (∃ t, run (idle [] []) firstGatewayRun = some t ∧ Quiescent t ∧ InSync "default" t) ∧
    ∃ t, run
      (idle [defaultGateway] [dataPlaneProxyIngressPolicy "default", proxyEgressPolicy "default"])
        [.putGateway otherClassGateway, .deliverGateway otherClassGateway.key] = some t ∧
      Quiescent t ∧ ¬ InSync "default" t := by
  constructor
  · have hrun : (run (idle [] []) firstGatewayRun).any (fun t => decide (Quiescent t)) =
      true := by decide
    obtain ⟨t, ht, hq⟩ := (Option.any_eq_true _ _).mp hrun
    have hq : Quiescent t := of_decide_eq_true hq
    have hreach : Reach step (Admissible .perObject) (idle [] []) t := by
      apply Reach.of_runSteps ht
      have hjoin : isManaged defaultGateway = true := by decide
      simp [firstGatewayRun, Admissible, Next, Permitted, hjoin]
    exact ⟨t, ht, hq, (inSync_of_permitted .perObject).1 [] [] (fun _ _ => rfl) t
      hreach hq "default"⟩
  · refine (inSync_of_permitted .overall).2 _ defaultGateway otherClassGateway (by decide) ?_
      rfl (by decide) ?_
    · intro hop
      cases hop <;> rfl
    · intro hp
      exact absurd (hp defaultGateway otherClassGateway rfl rfl (by decide)) (by decide)

theorem class_exit_leaves_policies :
    ∃ t, run
      (idle [defaultGateway] [dataPlaneProxyIngressPolicy "default", proxyEgressPolicy "default"])
        [.putGateway otherClassGateway, .deliverGateway ⟨"default", "eg"⟩] = some t ∧
      Quiescent t ∧ hasManaged t.gateways.api "default" = false ∧
      t.policies.api.lookup ⟨"default", dataPlaneNetworkPolicyName⟩ =
        some (dataPlaneProxyIngressPolicy "default") ∧
      t.policies.api.lookup ⟨"default", proxyEgressNetworkPolicyName⟩ =
        some (proxyEgressPolicy "default") :=
  ⟨_, rfl, by decide, by decide, rfl, rfl⟩

end ClassChanges

end EnvoyGatewayExtension.NetpolController
