import EnvoyGatewayExtension.NetpolController.Progress
import EnvoyGatewayExtension.NetpolController.SelfHeal

namespace EnvoyGatewayExtension.NetpolController

open Effects Kubernetes EnvoyGateway Stores Informer

def Undisturbed : Action → Prop
  | .putGateway _ => False
  | .deleteGateway _ => False
  | .putPolicy _ => False
  | .deletePolicy _ => False
  | _ => True

structure Resting (gateways : Gateways) (policies : Policies) (s : State) : Prop where
  gateways : s.gateways.api = gateways
  policies : s.policies.api = policies
  currentGateways : s.gateways.Current
  currentPolicies : s.policies.Current

def ClientCall.Futile (policies : Policies) (c : ClientCall) : Prop :=
  ∀ k v, c.writes = some (k, v) → c = .deletePolicy k ∧ policies.lookup k = none

section Reconcile

variable {gateways : Gateways} {policies : Policies} {s t : State} {ns : Request} {hop : Hop}

lemma perform_futile {c : ClientCall} (hc : c.Futile s.policies.api) : (s.perform c).2 = s := by
  cases c with
  | listGateways ns => rfl
  | getPolicy k =>
    simp only [State.perform]
    split <;> rfl
  | createPolicy np => exact absurd (hc _ _ rfl).1 (by simp)
  | updatePolicy np => exact absurd (hc _ _ rfl).1 (by simp)
  | deletePolicy k =>
    simp only [State.perform]
    rw [(hc k none rfl).2]

lemma answers_futile {c : ClientCall} {x : Except GoError c.Result} (hc : c.Futile s.policies.api)
    (h : Answers s c x t) : t = s := by
  cases h with
  | done => exact perform_futile hc
  | refused => rfl
  | lost => exact perform_futile hc

def amongFailures (gateways : Gateways) (policies : Policies) : Handler shootClient GoError State :=
  disturbed (fun _ t => Resting gateways policies t) answers

lemma amongFailures_inv {c : ClientCall} {x : Except GoError c.Result}
    (h : amongFailures gateways policies s c x t)
    (hs : Resting gateways policies s) : ∃ u, Resting gateways policies u ∧ Answers u c x t := by
  obtain ⟨u, hu, ha⟩ := h
  refine ⟨u, ?_, ha⟩
  cases hu with
  | refl => exact hs
  | tail _ hr => exact hr

def Idles (gateways : Gateways) (policies : Policies) (p : Client Unit) : Prop :=
  ∀ s, Resting gateways policies s → Ensures (amongFailures gateways policies)
    (fun e => e.call.Futile policies) p (fun _ t => Resting gateways policies t) s

lemma futile_of_reads {c : ClientCall} (hc : c.writes = none) : c.Futile policies := by
  intro k v hw
  rw [hc] at hw
  cases hw

lemma idles_apply (ns : Request) (hop : Hop)
    (hp : policies.lookup (policyKey ns hop) = some (policyFor ns hop)) :
    Idles gateways policies (apply (policyFor ns hop)) := by
  intro s hs
  refine ensures_wrapped (ensures_createOrUpdate (Ensures.request_iff.mpr fun r t ha =>
    ⟨futile_of_reads rfl, ?_⟩))
  obtain ⟨u, hu, ha⟩ := amongFailures_inv ha hs
  rw [policyFor_key] at ha
  obtain ⟨rfl, hok, herr⟩ := answers_get ha
  have hcache : t.policies.cache.lookup (policyKey ns hop) = some (policyFor ns hop) := by
    rw [(hu.currentPolicies _).1, hu.policies]
    exact hp
  cases r with
  | error e =>
    dsimp only
    split_ifs with hn
    · rw [herr e rfl hn] at hcache
      cases hcache
    · exact hu
  | ok np =>
    obtain rfl := Option.some.inj ((hok np rfl).symm.trans hcache)
    dsimp only
    rw [if_pos (mutated_eq (policyFor_key ns hop))]
    exact hu

lemma idles_prune (msg : String) {k : NamespacedName} (hp : policies.lookup k = none) :
    Idles gateways policies (wrapped msg (ignoreNotFound (send (.deletePolicy k)))) := by
  have hfutile : (ClientCall.deletePolicy k).Futile policies := by
    intro j v hw
    cases hw
    exact ⟨rfl, hp⟩
  intro s hs
  refine ensures_wrapped
    (ensures_ignoreNotFound (Ensures.request_iff.mpr fun r t ha => ⟨hfutile, ?_⟩))
  obtain ⟨u, hu, ha⟩ := amongFailures_inv ha hs
  rw [← hu.policies] at hfutile
  obtain rfl := answers_futile hfutile ha
  exact ⟨fun _ => hu, fun _ _ _ => hu⟩

lemma Idles.bind {p q : Client Unit} (hp : Idles gateways policies p)
    (hq : Idles gateways policies q) : Idles gateways policies (p >>= fun _ => q) :=
  fun s hs => Ensures.bind (hp s hs) (fun _ t ht => hq t ht) fun _ _ ht => ht

lemma idles_reconcile (hsync : ∀ hop, policies.lookup (policyKey ns hop) = wanted gateways ns hop) :
    Idles gateways policies (reconcile ns) := by
  intro s hs
  refine Ensures.bind (P := fun out t => Resting gateways policies t ∧
    ∀ b, out = .ok b → b = hasManaged gateways ns) ?_ ?_ fun _ _ ht => ht.1
  · refine Ensures.bind (P := fun out t => Resting gateways policies t ∧
      ∀ gws, out = .ok gws → hasManaged gateways ns = gws.any isManaged) ?_ ?_ ?_
    · refine ensures_wrapped_ok (Ensures.request_iff.mpr fun r t ha => ⟨futile_of_reads rfl, ?_⟩)
      obtain ⟨u, hu, ha⟩ := amongFailures_inv ha hs
      obtain ⟨rfl, hr⟩ := answers_list ha
      refine ⟨hu, fun gws hg => ?_⟩
      rw [← hr gws hg, ← hu.gateways]
      exact hasManaged_congr fun k _ => by rw [(hu.currentGateways k).1]
    · rintro gws t ⟨ht, hr⟩
      exact ⟨ht, fun b hb => by cases hb; exact (hr gws rfl).symm⟩
    · rintro e t ⟨ht, _⟩
      exact ⟨ht, fun b hb => by cases hb⟩
  · rintro b t ⟨ht, hb⟩
    have hb := hb b rfl
    cases b with
    | false =>
      have hnone : ∀ hop, policies.lookup (policyKey ns hop) = none := by
        intro hop
        rw [hsync, wanted, ← hb, if_neg Bool.false_ne_true]
      change Ensures _ _ (pruneNamespace ns) _ _
      rw [pruneNamespace_eq]
      exact (idles_prune _ (hnone .proxyIngress)).bind (idles_prune _ (hnone .proxyEgress)) t ht
    | true =>
      have hsome : ∀ hop, policies.lookup (policyKey ns hop) = some (policyFor ns hop) := by
        intro hop
        rw [hsync, wanted, ← hb, if_pos rfl]
      exact (idles_apply ns .proxyIngress (hsome _)).bind
        (idles_apply ns .proxyEgress (hsome _)) t ht

end Reconcile

section Runs

variable {gateways : Gateways} {policies : Policies} {s t : State}

structure AtRest (gateways : Gateways) (policies : Policies) (s : State) : Prop where
  resting : Resting gateways policies s
  worker : ∀ r p, s.worker = some (r, p) → Ensures (amongFailures gateways policies)
    (fun e => e.call.Futile policies) p (fun _ _ => True) s

lemma AtRest.moved (h : AtRest gateways policies s) (ht : Resting gateways policies t)
    (hw : t.worker = s.worker) : AtRest gateways policies t := by
  refine ⟨ht, fun r p hp => ?_⟩
  rw [hw] at hp
  exact Ensures.environment (I := shootClient) (J := fun c => c.Futile policies)
    (Q := fun _ => True) (h.worker r p hp) ht

lemma AtRest.idle (ht : Resting gateways policies t) (hw : t.worker = none) :
    AtRest gateways policies t :=
  ⟨ht, fun r p hp => by rw [hw] at hp; cases hp⟩

lemma AtRest.step {a : Action}
    (hsync : ∀ ns hop, policies.lookup (policyKey ns hop) = wanted gateways ns hop)
    (h : AtRest gateways policies s) (ha : Undisturbed a) (hs : step s a = some t) :
    AtRest gateways policies t := by
  obtain ⟨hg, hp, hcg, hcp⟩ := h.resting
  cases steps_of_step hs with
  | putGateway => exact ha.elim
  | deleteGateway => exact ha.elim
  | putPolicy => exact ha.elim
  | deletePolicy => exact ha.elim
  | deliverGateway _ hd =>
    exact h.moved ⟨(deliver_eq_some hd).2.2.1.trans hg, hp, hcg.deliver hd, hcp⟩ rfl
  | deliverPolicy _ hd =>
    exact h.moved ⟨hg, (deliver_eq_some hd).2.2.1.trans hp, hcg, hcp.deliver hd⟩ rfl
  | @take ns _ _ _ =>
    refine ⟨⟨hg, hp, hcg, hcp⟩, fun r p hw => ?_⟩
    obtain ⟨rfl, rfl⟩ := Prod.mk.inj (Option.some.inj hw)
    refine Ensures.mono (idles_reconcile (hsync ns) _ ?_) (fun _ hj => hj) fun _ _ _ => trivial
    exact ⟨hg, hp, hcg, hcp⟩
  | @replied _ u r c k x _ hw hx =>
    obtain ⟨hfutile, hrest⟩ := Ensures.answered (h.worker r _ hw) hx
    have hu : u = s := answers_futile (by rw [hp]; exact hfutile) hx
    subst hu
    refine ⟨⟨hg, hp, hcg, hcp⟩, fun r' p hw' => ?_⟩
    obtain ⟨rfl, rfl⟩ := Prod.mk.inj (Option.some.inj hw')
    exact Ensures.environment (I := shootClient) (J := fun c => c.Futile policies)
      (Q := fun _ => True) hrest ⟨hg, hp, hcg, hcp⟩
  | finish => exact .idle ⟨hg, hp, hcg, hcp⟩ rfl
  | requeue => exact .idle ⟨hg, hp, hcg, hcp⟩ rfl
  | stop => exact .idle ⟨hg, hp, hcg, hcp⟩ rfl
  | start => exact .idle ⟨hg, hp, .resync _, .resync _⟩ rfl

theorem rest_is_stable {gws : List Gateway} {nps : List NetworkPolicy}
    (hnps : ∀ np ∈ nps, ∀ ns hop, np.key ≠ policyKey ns hop)
    (hreach : Reach step (Admissible .perObject) (initial gws nps) s) (hq : Quiescent s)
    {as : List Action} (hpath : Path step (fun _ a => Undisturbed a) s as t) :
    t.policies.api = s.policies.api ∧ t.gateways.api = s.gateways.api ∧ ∀ ns, InSync ns t := by
  have htracked := tracked_reach (tracked_initial .perObject hnps) hreach
  have hsync : ∀ ns hop, s.policies.api.lookup (policyKey ns hop) = wanted s.gateways.api ns hop :=
    fun ns hop => (htracked.active hq.1).inSync hq ns hop
  have hresting : Resting s.gateways.api s.policies.api s :=
    ⟨rfl, rfl, .of_events (List.isEmpty_iff.mp hq.2.2.2.1),
      .of_events (List.isEmpty_iff.mp hq.2.2.2.2)⟩
  have hstill := (hpath.invariant (J := AtRest s.gateways.api s.policies.api)
    (fun _ _ _ ha hn h => h.step hsync ha hn)
    (.idle hresting (Option.isNone_iff_eq_none.mp hq.2.2.1))).resting
  refine ⟨hstill.policies, hstill.gateways, fun ns hop => ?_⟩
  rw [hstill.policies, hstill.gateways]
  exact hsync ns hop

theorem rest_is_stable_restarted :
    ∃ s t, run (initial [defaultGateway] []) interruptedRun = some s ∧ Quiescent s ∧
    Path step (fun _ a => Undisturbed a) s [.start, .stop] t ∧ t.policies.api = s.policies.api := by
  have hrun : (run (initial [defaultGateway] []) interruptedRun).any
    (fun s => decide (Quiescent s)) = true := by
    decide
  obtain ⟨s, hs, hq⟩ := (Option.any_eq_true _ _).mp hrun
  have hq : Quiescent s := of_decide_eq_true hq
  have hpath : ∃ t, Path step (fun _ a => Undisturbed a) s [.start, .stop] t :=
    ⟨_, .step (.step .nil trivial rfl) trivial rfl⟩
  obtain ⟨t, ht⟩ := hpath
  have hreach : Reach step (Admissible .perObject) (initial [defaultGateway] []) s := by
    refine .of_runSteps hs ?_
    simp [interruptedRun, Admissible, Next]
  exact ⟨s, t, hs, hq, ht, (rest_is_stable (by simp) hreach hq ht).1⟩

end Runs

end EnvoyGatewayExtension.NetpolController
