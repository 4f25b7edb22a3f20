import EnvoyGatewayExtension.Actuator.Deliveries
import EnvoyGatewayExtension.NetpolController.Runs

/-! Disabling the feature: the actuator's reconcile beside the controller pod of an earlier one,
which runs on, with its credentials, until it is stopped. -/

namespace EnvoyGatewayExtension.NetpolController

def Action.editsPolicy : Action → Bool
  | putPolicy _ => true
  | deletePolicy _ => true
  | _ => false

end EnvoyGatewayExtension.NetpolController

namespace EnvoyGatewayExtension.Actuator

open Effects Kubernetes EnvoyGateway Stores
open NetpolController (Keyed)

/-- The rest of the actuator's program beside the pod. The policies of the shoot are those of
the pod's API server. -/
structure Disabling where
  world : World
  pod : NetpolController.State
  actuator : Op Unit

inductive Move
  | pod (a : NetpolController.Action)
  | answer
  | refuse (e : GoError)
  | lose (e : GoError)

namespace Disabling

def view (s : Disabling) : World := { s.world with policies := s.pod.policies.api }

def observe (pod : NetpolController.State) (w : World) : Call → NetpolController.State
  | .deletePolicy k => pod.writePolicy k (w.policies.lookup k)
  | _ => pod

def perform (generate : Generator) (s : Disabling) (c : Call) :
    Except GoError c.Result × Disabling :=
  let answer := s.view.perform generate c
  (answer.1, { s with world := answer.2, pod := observe s.pod answer.2 c })

def move (generate : Generator) (s : Disabling) : Move → Option Disabling
  | .pod a =>
    if a.editsPolicy then none else (NetpolController.step s.pod a).map fun pod => { s with pod }
  | .answer =>
    match s.actuator with
    | .call c k => some { (s.perform generate c).2 with actuator := k (s.perform generate c).1 }
    | _ => none
  | .refuse e =>
    match s.actuator with
    | .call _ k => if e.transient then some { s with actuator := k (.error e) } else none
    | _ => none
  | .lose e =>
    match s.actuator with
    | .call c k =>
      if e.transient then some { (s.perform generate c).2 with actuator := k (.error e) } else none
    | _ => none

inductive Replies (generate : Generator) (s : Disabling) (c : Call) :
    Except GoError c.Result → Disabling → Prop
  | done : Replies generate s c (s.perform generate c).1 (s.perform generate c).2
  | refused {e} : e.transient = true → Replies generate s c (.error e) s
  | lost {e} : e.transient = true → Replies generate s c (.error e) (s.perform generate c).2

variable {generate : Generator} {s s' t : Disabling} {m : Move}

lemma move_cases (h : move generate s m = some s') :
    (∃ a pod, m = .pod a ∧ a.editsPolicy = false ∧ NetpolController.step s.pod a = some pod ∧
      s' = { s with pod }) ∨
      ∃ c k r t, s.actuator = .call c k ∧ Replies generate s c r t ∧
      s' = { t with actuator := k r } := by
  cases m with
  | pod a =>
    simp only [move] at h
    split_ifs at h with ha
    obtain ⟨pod, hp, rfl⟩ := Option.map_eq_some_iff.mp h
    exact Or.inl ⟨a, pod, rfl, Bool.eq_false_of_not_eq_true ha, hp, rfl⟩
  | answer =>
    simp only [move] at h
    split at h
    · next c k hc =>
      cases h
      exact Or.inr ⟨c, k, _, _, hc, .done, rfl⟩
    · cases h
  | refuse e =>
    simp only [move] at h
    split at h
    · next c k hc =>
      split_ifs at h with he
      cases h
      exact Or.inr ⟨c, k, _, _, hc, .refused he, rfl⟩
    · cases h
  | lose e =>
    simp only [move] at h
    split at h
    · next c k hc =>
      split_ifs at h with he
      cases h
      exact Or.inr ⟨c, k, _, _, hc, .lost he, rfl⟩
    · cases h

lemma perform_deletePolicy (s : Disabling) (k j : NamespacedName) :
    (s.perform generate (.deletePolicy k)).2.pod.policies.api.lookup j =
      if j = k then none else s.pod.policies.api.lookup j := by
  have hgone : (s.view.perform generate (.deletePolicy k)).2.policies.lookup k = none := by
    simp only [World.perform]
    split
    · exact AList.lookup_erase k _
    · next hn => simpa using hn
  refine (Store.lookup_set _ k j _).trans ?_
  rw [hgone]

lemma perform_keyed (hk : Keyed s.pod) (c : Call) : Keyed (s.perform generate c).2.pod := by
  cases c
  case deletePolicy k =>
    intro j np hj
    rw [perform_deletePolicy] at hj
    split_ifs at hj
    exact hk j np hj
  all_goals exact hk

lemma Replies.keyed {c : Call} {r : Except GoError c.Result} (h : Replies generate s c r t)
    (hk : Keyed s.pod) : Keyed t.pod := by
  cases h with
  | done => exact perform_keyed hk c
  | refused => exact hk
  | lost => exact perform_keyed hk c

end Disabling

variable {lib : Libraries} {generate : Generator} {ex : Invocation} {cluster : Cluster}
  {shoot : Shoot} {s s' t : Disabling} {items : List NetworkPolicy}

section Programs

def pruneRest (items : List NetworkPolicy) : Op Unit :=
  wrapped "failed to prune data-plane NetworkPolicies after disabling the feature"
    (items.forM fun np =>
      wrapped ("failed to delete managed data-plane NetworkPolicy " ++ np.namespace ++
        "/" ++ np.name) (ignoreNotFound (send (.deletePolicy np.key))))

lemma pruneRest_cons (np : NetworkPolicy) (items : List NetworkPolicy) :
    ∃ k : Except GoError Unit → Op Unit, pruneRest (np :: items) = .call (.deletePolicy np.key) k ∧
      k (.ok ()) = pruneRest items ∧
      ∀ e, (e.isNotFound = true → k (.error e) = pruneRest items) ∧
        (e.isNotFound = false → ∃ e', k (.error e) = .fail e') := by
  refine ⟨_, rfl, rfl, fun e => ⟨fun he => ?_, fun he => ?_⟩⟩
  · change (Prog.mapFault _ (if e.isNotFound = true then (pure () : Op Unit) else .fail e) >>=
      _).mapFault _ = _
    rw [if_pos he]
    rfl
  · refine ⟨?_, ?_⟩
    rotate_left
    · change (Prog.mapFault _ (if e.isNotFound = true then (pure () : Op Unit) else .fail e) >>=
        _).mapFault _ = _
      rw [if_neg (Bool.eq_false_iff.mp he)]
      rfl

/-- Every way through the program ends in an error, or in a list of the managed policies and
the deletion of what it has shown. -/
inductive Prunes : Op Unit → Prop
  | fail {e : GoError} : Prunes (.fail e)
  | list {k : Except GoError (List NetworkPolicy) → Op Unit} :
      (∀ items, k (.ok items) = pruneRest items) →
      (∀ e, Prunes (k (.error e))) → Prunes (.call .listPolicies k)
  | call {c : Call} {k : Except GoError c.Result → Op Unit} : (∀ r, Prunes (k r)) →
      Prunes (.call c k)

lemma prunes_bind {α : Type} {p : Op α} {f : α → Op Unit} (hf : ∀ a, Prunes (f a)) :
    Prunes (p >>= f) := by
  induction p with
  | ret a => exact hf a
  | fail e => exact .fail
  | call c k ih => exact .call ih

lemma prunes_prune :
    Prunes (wrapped "failed to prune data-plane NetworkPolicies after disabling the feature"
    pruneDataPlanePolicies) := by
  refine .call (c := .newClientForShoot) fun r => ?_
  cases r with
  | error e => exact .fail
  | ok u => exact .list (fun _ => rfl) fun _ => .fail

lemma prunes_reconcileAwake
    (h : ∀ config, readConfig lib shoot.kubernetesVersion ex.providerConfig = .ok config →
      config.manageDataPlaneNetworkPolicies = false) :
    Prunes (reconcileAwake lib ex cluster shoot) := by
  unfold reconcileAwake
  cases hr : readConfig lib shoot.kubernetesVersion ex.providerConfig with
  | error e => exact .fail
  | ok config =>
    rw [Prog.ofExcept_ok, Prog.ret_bind]
    refine prunes_bind fun tls => prunes_bind fun _ => prunes_bind fun _ => ?_
    rw [h config hr]
    exact prunes_bind fun _ => prunes_prune

end Programs

section Phases

def Covers (items : List NetworkPolicy) (s : NetpolController.State) : Prop :=
  ∀ k np, s.policies.api.lookup k = some np → managedDataPlanePolicy np.labels = true →
    k ∈ items.map NetworkPolicy.key

inductive OnTrack (lib : Libraries) (ex : Invocation) (shoot : Shoot) (s : Disabling) : Prop
  | start : s.actuator = reconcile lib ex → Awake s.world shoot → OnTrack lib ex shoot s
  | before : Prunes s.actuator → OnTrack lib ex shoot s
  | pruning {items : List NetworkPolicy} : s.actuator = pruneRest items → Covers items s.pod →
      OnTrack lib ex shoot s

/-- A step of the pod that writes a managed policy the prune will not delete any more. -/
def Late (s : Disabling) (a : NetpolController.Action) : Prop :=
  a.editsPolicy = false ∧ ∃ items pod k np, s.actuator = pruneRest items ∧
    NetpolController.step s.pod a = some pod ∧
    pod.policies.api.lookup k = some np ∧ s.pod.policies.api.lookup k ≠ some np ∧
    managedDataPlanePolicy np.labels = true ∧ k ∉ items.map NetworkPolicy.key

def Timely (s : Disabling) : Move → Prop
  | .pod a => ¬ Late s a
  | _ => True

def Pruned (s : Disabling) : Prop :=
  s.actuator = .ret () → s.pod.running = false →
    ∀ k np, s.pod.policies.api.lookup k = some np → managedDataPlanePolicy np.labels = false

lemma OnTrack.pruned (h : OnTrack lib ex shoot s) : Pruned s := by
  intro hret _ k np hk
  cases h with
  | start ha _ =>
    rw [ha] at hret
    cases hret
  | before hp =>
    rw [hret] at hp
    cases hp
  | @pruning items ha hc =>
    cases items with
    | nil =>
      by_contra hm
      exact absurd (hc k np hk (Bool.eq_true_of_not_eq_false hm)) List.not_mem_nil
    | cons np items =>
      obtain ⟨_, hcall, _⟩ := pruneRest_cons np items
      rw [ha, hcall] at hret
      cases hret

variable {c : Call} {r : Except GoError c.Result}

lemma answers_of_replies (h : Disabling.Replies generate s c r t) :
    ∃ w, Answers generate s.view c r w := by
  cases h with
  | done => exact ⟨_, .done⟩
  | refused he => exact ⟨_, .refused he⟩
  | lost he => exact ⟨_, .lost he⟩

lemma covers_listed (hk : Keyed s.pod) {r : Except GoError Call.listPolicies.Result}
    (h : Disabling.Replies generate s .listPolicies r t) (hr : r = .ok items) :
    Covers items t.pod := by
  intro k np hl hm
  cases h with
  | done =>
    cases hr
    have hlookup : s.pod.policies.api.lookup k = some np := hl
    refine List.mem_map.mpr ⟨np, List.mem_filter.mpr ⟨List.mem_map.mpr ⟨(k, np), ?_, rfl⟩, hm⟩,
      hk k np hlookup⟩
    exact Store.mem_items.mpr hlookup
  | refused => cases hr
  | lost => cases hr

lemma covers_deleted {np : NetworkPolicy} {r : Except GoError (Call.deletePolicy np.key).Result}
    (h : Disabling.Replies generate s (.deletePolicy np.key) r t) (hc : Covers (np :: items) s.pod)
    (hr : ∀ e, r = .error e → e.isNotFound = true) : Covers items t.pod := by
  -- a deletion after which the prune goes on has removed its policy
  cases h with
  | done =>
    intro k np' hl hm
    rw [Disabling.perform_deletePolicy] at hl
    split_ifs at hl with hk
    exact (List.mem_cons.mp (hc k np' hl hm)).resolve_left hk
  | refused he =>
    exact absurd ((GoError.isNotFound_of_transient he).symm.trans (hr _ rfl)) Bool.false_ne_true
  | lost he =>
    exact absurd ((GoError.isNotFound_of_transient he).symm.trans (hr _ rfl)) Bool.false_ne_true

lemma prunes_started {k : Except GoError c.Result → Op Unit} (hw : Awake s.world shoot)
    (hconfig : ∀ config, readConfig lib shoot.kubernetesVersion ex.providerConfig = .ok config →
      config.manageDataPlaneNetworkPolicies = false) (hc : reconcile lib ex = .call c k)
    (hr : Disabling.Replies generate s c r t) : Prunes (k r) := by
  cases hc
  obtain ⟨w, hans⟩ := answers_of_replies hr
  cases r with
  | error e => exact .fail
  | ok cluster =>
    have hcluster : s.world.cluster = some cluster := (answers_getCluster hans).2 cluster rfl
    have hshoot : cluster.shoot = some shoot := by
      have hf := hw.found
      rw [shootOf, hcluster] at hf
      exact hf
    simp only [Prog.ofExcept_ok, Prog.mapFault_ret, Prog.bind, hshoot]
    rw [hw.alive, hw.awake, if_neg Bool.false_ne_true, if_neg Bool.false_ne_true]
    exact prunes_reconcileAwake hconfig

lemma covers_rest {np : NetworkPolicy} {k : Except GoError Unit → Op Unit}
    {r : Except GoError (Call.deletePolicy np.key).Result}
    (hk : pruneRest (np :: items) = .call (.deletePolicy np.key) k)
    (hc : Covers (np :: items) s.pod)
    (hr : Disabling.Replies generate s (.deletePolicy np.key) r t) :
    (k r = pruneRest items ∧ Covers items t.pod) ∨ ∃ e, k r = .fail e := by
  obtain ⟨k', hcall, hok, herr⟩ := pruneRest_cons np items
  cases hk.symm.trans hcall
  have hrest : (∀ e, r = .error e → e.isNotFound = true) → Covers items t.pod :=
    covers_deleted hr hc
  cases r with
  | ok u => exact Or.inl ⟨hok, hrest fun e he => by cases he⟩
  | error e =>
    cases hn : e.isNotFound with
    | true =>
      refine Or.inl ⟨(herr e).1 hn, hrest fun e' he => ?_⟩
      cases he
      exact hn
    | false => exact Or.inr ((herr e).2 hn)

lemma OnTrack.replied (h : OnTrack lib ex shoot s) (hk : Keyed s.pod)
    (hconfig : ∀ config, readConfig lib shoot.kubernetesVersion ex.providerConfig = .ok config →
      config.manageDataPlaneNetworkPolicies = false) {k : Except GoError c.Result → Op Unit}
    (hc : s.actuator = .call c k) (hr : Disabling.Replies generate s c r t) :
    OnTrack lib ex shoot { t with actuator := k r } := by
  cases h with
  | start ha hw => exact .before (prunes_started hw hconfig (ha.symm.trans hc) hr)
  | before hp =>
    rw [hc] at hp
    cases hp with
    | @list k hlist herr =>
      cases hres : r with
      | error e => exact .before (herr e)
      | ok items =>
        have hcovers : Covers items t.pod := covers_listed hk hr hres
        exact .pruning (hlist items) hcovers
    | call hall => exact .before (hall r)
  | @pruning items ha hcov =>
    rw [ha] at hc
    cases items with
    | nil => cases hc
    | cons np items =>
      obtain ⟨_, hcall, _⟩ := pruneRest_cons np items
      cases hcall.symm.trans hc
      rcases covers_rest hc hcov hr with ⟨hrest, hcovers⟩ | ⟨e, hfail⟩
      · exact .pruning hrest hcovers
      · exact .before (by rw [hfail]; exact .fail)

lemma OnTrack.pod {a : NetpolController.Action} {pod : NetpolController.State}
    (h : OnTrack lib ex shoot s)
    (ha : a.editsPolicy = false) (hl : ¬ Late s a) (hp : NetpolController.step s.pod a = some pod) :
    OnTrack lib ex shoot { s with pod } := by
  cases h with
  | start hact hw => exact .start hact hw
  | before hprunes => exact .before hprunes
  | @pruning items hact hc =>
    refine .pruning hact fun k np hk hm => ?_
    by_contra hn
    have hnew : s.pod.policies.api.lookup k ≠ some np := fun hold => hn (hc k np hold hm)
    exact hl ⟨ha, items, pod, k, np, hact, hp, hk, hnew, hm, hn⟩

lemma OnTrack.move {m : Move} (hconfig : ∀ config,
      readConfig lib shoot.kubernetesVersion ex.providerConfig = .ok config →
        config.manageDataPlaneNetworkPolicies = false)
    (h : OnTrack lib ex shoot s ∧ Keyed s.pod) (hm : Timely s m)
    (hs : Disabling.move generate s m = some s') : OnTrack lib ex shoot s' ∧ Keyed s'.pod := by
  rcases Disabling.move_cases hs with ⟨a, pod, rfl, ha, hp, rfl⟩ | ⟨c, k, r, t, hc, hr, rfl⟩
  · exact ⟨h.1.pod ha hm hp, h.2.step hp⟩
  · exact ⟨h.1.replied h.2 hconfig hc hr, hr.keyed h.2⟩

end Phases

section Late

lemma pruneRest_returns (generate : Generator) (items : List NetworkPolicy)
    (hs : s.actuator = pruneRest items) : ∃ t,
    Reach (Disabling.move generate) (fun _ _ => True) s t ∧ t.actuator = .ret () ∧
    t.pod.running = s.pod.running ∧
      ∀ k, k ∉ items.map NetworkPolicy.key →
      t.pod.policies.api.lookup k = s.pod.policies.api.lookup k := by
  induction items generalizing s with
  | nil => exact ⟨s, .refl, hs, rfl, fun _ _ => rfl⟩
  | cons np items ih =>
    obtain ⟨k, hcall, hok, herr⟩ := pruneRest_cons np items
    rw [hcall] at hs
    have hrest : k (s.perform generate (.deletePolicy np.key)).1 = pruneRest items := by
      change k (s.view.perform generate (.deletePolicy np.key)).1 = _
      simp only [World.perform]
      split
      · exact hok
      · exact (herr _).1 rfl
    have hmove : Disabling.move generate s .answer =
        some { (s.perform generate (.deletePolicy np.key)).2 with
          actuator := pruneRest items } := by
      simp only [Disabling.move, hs, hrest]
    obtain ⟨t, hr, ht, hrun, hkeep⟩ := ih (s := { (s.perform generate (.deletePolicy np.key)).2 with
      actuator := pruneRest items }) rfl
    refine ⟨t, hr.head trivial hmove, ht, hrun, fun j hj => ?_⟩
    rw [List.map_cons, List.mem_cons, not_or] at hj
    rw [hkeep j hj.2]
    exact (Disabling.perform_deletePolicy s np.key j).trans (if_neg hj.1)

lemma late_unpruned {a : NetpolController.Action} (h : Late s a) : ∃ t,
    Reach (Disabling.move generate) (fun _ _ => True) s t ∧ ¬ Pruned t := by
  obtain ⟨ha, items, pod, k, np, hact, hstep, hk, _, hm, hn⟩ := h
  have hpod : Disabling.move generate s (.pod a) = some { s with pod } := by
    simp [Disabling.move, ha, hstep]
  have hstop : Disabling.move generate { s with pod } (.pod .stop) =
      some { s with pod := { pod with running := false, queue := [], worker := none } } := rfl
  obtain ⟨t, hr, hret, hrun, hkeep⟩ := pruneRest_returns generate
    (s := { s with pod := { pod with running := false, queue := [], worker := none } }) items hact
  refine ⟨t, (hr.head trivial hstop).head trivial hpod, fun hp => ?_⟩
  rw [hp hret hrun k np ((hkeep k hn).trans hk)] at hm
  cases hm

end Late

theorem pruned_unless_late {gws : List Gateway} {nps : List NetworkPolicy}
    (hpod : Reach NetpolController.step (fun _ _ => True) (NetpolController.initial gws nps) s.pod)
    (hs : s.actuator = reconcile lib ex) (ha : Awake s.world shoot)
    (hconfig : ∀ config, readConfig lib shoot.kubernetesVersion ex.providerConfig = .ok config →
      config.manageDataPlaneNetworkPolicies = false) :
    (∀ t, Reach (Disabling.move generate) Timely s t → Pruned t) ∧
      ∀ t m, Reach (Disabling.move generate) (fun _ _ => True) s t → ¬ Timely t m →
        ∃ u, Reach (Disabling.move generate) (fun _ _ => True) t u ∧ ¬ Pruned u := by
  constructor
  · intro t hr
    have hstart : OnTrack lib ex shoot s ∧ Keyed s.pod :=
      ⟨.start hs ha, NetpolController.keyed_reach hpod⟩
    exact (hr.invariant (fun _ _ _ hm hn h => OnTrack.move hconfig h hm hn) hstart).1.pruned
  · intro t m _ hm
    cases m with
    | pod a => exact late_unpruned (not_not.mp hm)
    | answer => exact absurd trivial hm
    | refuse e => exact absurd trivial hm
    | lose e => exact absurd trivial hm

section Interleaved

open NetpolController (defaultGateway)

def disabling : Libraries := sampleLibraries { manageDataPlaneNetworkPolicies := some false }

lemma disabling_disables (config : Config)
    (h : readConfig disabling "" sampleInvocation.providerConfig = .ok config) :
    config.manageDataPlaneNetworkPolicies = false := by
  cases h
  rfl

def podRun : List NetpolController.Action :=
  [.start, .deliverGateway ⟨"default", "eg"⟩, .take "default", .answer, .answer, .answer, .answer,
    .answer, .finish,
    .deliverPolicy ⟨"default", dataPlaneNetworkPolicyName⟩,
      .deliverPolicy ⟨"default", proxyEgressNetworkPolicyName⟩,
    .take "default", .answer, .answer, .answer, .finish]

def enabledWorld : World :=
  (undisturbed enabling sampleGenerator .reconcile sampleInvocation freshWorld).2

def disablingFrom (pod : NetpolController.State) : Disabling :=
  ⟨enabledWorld, pod, reconcile disabling sampleInvocation⟩

def returned : Op Unit → Bool
  | .ret _ => true
  | _ => false

lemma returned_iff {p : Op Unit} : returned p = true ↔ p = .ret () := by
  cases p <;> simp [returned]

lemma stop_timely (s : Disabling) : Timely s (.pod .stop) := by
  rintro ⟨_, _, _, _, _, _, hp, hk, hn, _⟩
  cases hp
  exact hn hk

theorem pruned_unless_late_stopped :
    ∃ pod t, NetpolController.run (NetpolController.initial [defaultGateway] []) podRun =
      some pod ∧ (pod.policies.api.lookup ⟨"default", proxyEgressNetworkPolicyName⟩).isSome = true ∧
    Reach (Disabling.move sampleGenerator) Timely (disablingFrom pod) t ∧ t.actuator = .ret () ∧
    ∀ k np, t.pod.policies.api.lookup k = some np → managedDataPlanePolicy np.labels = false := by
  have hpod :
    ((NetpolController.run (NetpolController.initial [defaultGateway] []) podRun).any fun pod =>
      (pod.policies.api.lookup ⟨"default", proxyEgressNetworkPolicyName⟩).isSome &&
      (runSteps (Disabling.move sampleGenerator) (disablingFrom pod)
        (.pod .stop :: List.replicate 18 .answer)).any
        fun t => returned t.actuator && !t.pod.running) = true := by
    decide +kernel
  obtain ⟨pod, hrun, hpod⟩ := (Option.any_eq_true _ _).mp hpod
  rw [Bool.and_eq_true] at hpod
  obtain ⟨t, ht, hdone⟩ := (Option.any_eq_true _ _).mp hpod.2
  rw [Bool.and_eq_true, returned_iff, Bool.not_eq_true'] at hdone
  have htimely : ∀ m ∈ Move.pod .stop :: List.replicate 18 .answer, ∀ s, Timely s m := by
    intro m hm s
    rcases List.mem_cons.mp hm with rfl | hm
    · exact stop_timely s
    · rw [List.eq_of_mem_replicate hm]
      trivial
  have hreach := Reach.of_runSteps ht htimely
  have hstart : Reach NetpolController.step (fun _ _ => True)
    (NetpolController.initial [defaultGateway] []) pod :=
    Reach.of_runSteps hrun fun _ _ _ => trivial
  have hawake : Awake (disablingFrom pod).world {} := ⟨rfl, rfl, rfl⟩
  have hact : (disablingFrom pod).actuator = reconcile disabling sampleInvocation := rfl
  refine ⟨pod, t, hrun, hpod.1, hreach, hdone.1, ?_⟩
  exact (pruned_unless_late hstart hact hawake disabling_disables).1 t hreach hdone.1 hdone.2

def recreatedRun : List Move :=
  podRun.map .pod ++ List.replicate 17 .answer ++
    [.pod (.deliverPolicy ⟨"default", proxyEgressNetworkPolicyName⟩), .pod (.take "default"),
      .pod .answer, .pod .answer, .pod .answer, .pod .answer, .pod .finish, .answer, .pod .stop]

theorem recreated_policy_remains : ∃ t,
    runSteps (Disabling.move sampleGenerator)
      (disablingFrom (NetpolController.initial [defaultGateway] [])) recreatedRun =
      some t ∧ t.actuator = .ret () ∧ t.pod.running = false ∧ t.world.deployment = none ∧
    t.pod.policies.api.lookup ⟨"default", proxyEgressNetworkPolicyName⟩ =
      some (proxyEgressPolicy "default") ∧
    managedDataPlanePolicy (proxyEgressPolicy "default").labels = true :=
  ⟨_, rfl, rfl, rfl, rfl, rfl, by decide⟩

end Interleaved

end EnvoyGatewayExtension.Actuator
