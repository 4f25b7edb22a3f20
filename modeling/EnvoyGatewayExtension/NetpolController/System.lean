import EnvoyGatewayExtension.Effects.Transitions
import EnvoyGatewayExtension.NetpolController.Watches

/-! The controller process beside the shoot API server: two informers, a deduplicated work
queue, one worker whose reconcile makes its calls one at a time, and everybody else. -/

namespace EnvoyGatewayExtension.NetpolController

open Effects Kubernetes EnvoyGateway Stores

abbrev Gateways : Type := Store NamespacedName Gateway
abbrev Policies : Type := Store NamespacedName NetworkPolicy

structure State where
  gateways : Informer NamespacedName Gateway
  policies : Informer NamespacedName NetworkPolicy
  queue : List Request
  worker : Option (Request × Client Unit)
  running : Bool

def gatewaysIn (store : Gateways) (ns : String) : List Gateway :=
  (store.items.filter (fun e => e.1.namespace == ns)).map Prod.snd

def hasManaged (store : Gateways) (ns : String) : Bool := (gatewaysIn store ns).any isManaged

namespace State

def writePolicy (s : State) (k : NamespacedName) (v : Option NetworkPolicy) : State :=
  { s with policies := s.policies.write k v }

def enqueue (s : State) (reqs : List Request) : State :=
  { s with queue := reqs.foldl (fun q r => if r ∈ q then q else q ++ [r]) s.queue }

def perform (s : State) : (c : ClientCall) → Except GoError c.Result × State
  | .listGateways ns => (.ok (gatewaysIn s.gateways.cache ns), s)
  | .getPolicy k =>
    match s.policies.cache.lookup k with
    | some np => (.ok np, s)
    | none => (.error notFound, s)
  | .createPolicy np =>
    match s.policies.api.lookup np.key with
    | some _ => (.error (.status .alreadyExists "already exists"), s)
    | none => (.ok (), s.writePolicy np.key (some np))
  | .updatePolicy np =>
    match s.policies.api.lookup np.key with
    | some _ => (.ok (), s.writePolicy np.key (some np))
    | none => (.error notFound, s)
  | .deletePolicy k =>
    match s.policies.api.lookup k with
    | some _ => (.ok (), s.writePolicy k none)
    | none => (.error notFound, s)

section Perform

variable {s : State} {k : NamespacedName} {np old : NetworkPolicy}

lemma perform_get (h : s.policies.cache.lookup k = some np) :
    s.perform (.getPolicy k) = (.ok np, s) := by
  simp only [perform, h]

lemma perform_get_none (h : s.policies.cache.lookup k = none) :
    s.perform (.getPolicy k) = (.error notFound, s) := by
  simp only [perform, h]

lemma perform_create (h : s.policies.api.lookup np.key = none) :
    s.perform (.createPolicy np) = (.ok (), s.writePolicy np.key (some np)) := by
  simp only [perform, h]

lemma perform_update (h : s.policies.api.lookup np.key = some old) :
    s.perform (.updatePolicy np) = (.ok (), s.writePolicy np.key (some np)) := by
  simp only [perform, h]

end Perform

end State

/-- A call is answered, or fails with or without having taken effect; an update on a stale read
fails with a conflict. -/
inductive Answers (s : State) (c : ClientCall) : Except GoError c.Result → State → Prop
  | done : Answers s c (s.perform c).1 (s.perform c).2
  | refused {e} : e.transient = true → Answers s c (.error e) s
  | lost {e} : e.transient = true → Answers s c (.error e) (s.perform c).2

inductive Action
  | putGateway (gw : Gateway)
  | deleteGateway (k : NamespacedName)
  | putPolicy (np : NetworkPolicy)
  | deletePolicy (k : NamespacedName)
  | deliverGateway (k : NamespacedName)
  | deliverPolicy (k : NamespacedName)
  | take (r : Request)
  | answer
  | refuse (e : GoError)
  | lose (e : GoError)
  | finish
  | stop
  | start

def reply (s : State) (r : Request) (p : Client Unit) : State := { s with worker := some (r, p) }

def step (s : State) : Action → Option State
  | .putGateway gw => some { s with gateways := s.gateways.write gw.key (some gw) }
  | .deleteGateway k => some { s with gateways := s.gateways.write k none }
  | .putPolicy np => some (s.writePolicy np.key (some np))
  | .deletePolicy k => some (s.writePolicy k none)
  | .deliverGateway k =>
    if s.running then
      (s.gateways.deliver k).map fun d => { s with gateways := d.2 }.enqueue (gatewayRequests d.1)
    else none
  | .deliverPolicy k =>
    if s.running then
      (s.policies.deliver k).map fun d => { s with policies := d.2 }.enqueue (policyRequests d.1)
    else none
  | .take r =>
    if s.running ∧ s.worker.isNone ∧ r ∈ s.queue then
      some { s with queue := s.queue.filter (· ≠ r), worker := some (r, reconcile r) }
    else none
  | .answer =>
    match s.worker with
    | some (r, .call c k) => some (reply (s.perform c).2 r (k (s.perform c).1))
    | _ => none
  | .refuse e =>
    match s.worker with
    | some (r, .call _ k) => if e.transient then some (reply s r (k (.error e))) else none
    | _ => none
  | .lose e =>
    match s.worker with
    | some (r, .call c k) =>
      if e.transient then some (reply (s.perform c).2 r (k (.error e))) else none
    | _ => none
  | .finish =>
    match s.worker with
    | some (_, .ret ()) => some { s with worker := none }
    | some (r, .fail _) => some ({ s with worker := none }.enqueue [r])
    | _ => none
  | .stop => some { s with running := false, queue := [], worker := none }
  | .start =>
    if s.running then none
    else some { s with
      gateways := s.gateways.resync, policies := s.policies.resync
      queue := [], worker := none, running := true }

inductive Steps (s : State) : Action → State → Prop
  | putGateway {gw : Gateway} :
      Steps s (.putGateway gw) { s with gateways := s.gateways.write gw.key (some gw) }
  | deleteGateway {k : NamespacedName} :
      Steps s (.deleteGateway k) { s with gateways := s.gateways.write k none }
  | putPolicy {np : NetworkPolicy} : Steps s (.putPolicy np) (s.writePolicy np.key (some np))
  | deletePolicy {k : NamespacedName} : Steps s (.deletePolicy k) (s.writePolicy k none)
  | deliverGateway {k : NamespacedName} {e : Event Gateway} {i : Informer NamespacedName Gateway} :
      s.running = true → s.gateways.deliver k = some (e, i) →
      Steps s (.deliverGateway k) ({ s with gateways := i }.enqueue (gatewayRequests e))
  | deliverPolicy {k : NamespacedName} {e : Event NetworkPolicy}
      {i : Informer NamespacedName NetworkPolicy} :
      s.running = true → s.policies.deliver k = some (e, i) →
      Steps s (.deliverPolicy k) ({ s with policies := i }.enqueue (policyRequests e))
  | take {r : Request} : s.running = true → s.worker.isNone = true → r ∈ s.queue →
      Steps s (.take r) { s with queue := s.queue.filter (· ≠ r), worker := some (r, reconcile r) }
  | replied {a : Action} {t : State} {r : Request} {c : ClientCall}
      {k : Except GoError c.Result → Client Unit}
      {x : Except GoError c.Result} : (a = .answer ∨ ∃ e, a = .refuse e ∨ a = .lose e) →
      s.worker = some (r, .call c k) → Answers s c x t → Steps s a (reply t r (k x))
  | finish {r : Request} : s.worker = some (r, .ret ()) → Steps s .finish { s with worker := none }
  | requeue {r : Request} {e : GoError} : s.worker = some (r, .fail e) →
      Steps s .finish ({ s with worker := none }.enqueue [r])
  | stop : Steps s .stop { s with running := false, queue := [], worker := none }
  | start : s.running = false → Steps s .start { s with
      gateways := s.gateways.resync, policies := s.policies.resync
      queue := [], worker := none, running := true }

lemma steps_of_step {s s' : State} {a : Action} (h : step s a = some s') : Steps s a s' := by
  cases a with
  | putGateway gw =>
    cases h
    exact .putGateway
  | deleteGateway k =>
    cases h
    exact .deleteGateway
  | putPolicy np =>
    cases h
    exact .putPolicy
  | deletePolicy k =>
    cases h
    exact .deletePolicy
  | deliverGateway k =>
    simp only [step] at h
    split_ifs at h with hr
    obtain ⟨⟨e, i⟩, hd, rfl⟩ := Option.map_eq_some_iff.mp h
    exact .deliverGateway hr hd
  | deliverPolicy k =>
    simp only [step] at h
    split_ifs at h with hr
    obtain ⟨⟨e, i⟩, hd, rfl⟩ := Option.map_eq_some_iff.mp h
    exact .deliverPolicy hr hd
  | take r =>
    simp only [step] at h
    split_ifs at h with hc
    cases h
    exact .take hc.1 hc.2.1 hc.2.2
  | answer =>
    simp only [step] at h
    split at h
    · next r c k hw =>
      cases h
      exact .replied (Or.inl rfl) hw .done
    · cases h
  | refuse e =>
    simp only [step] at h
    split at h
    · next r c k hw =>
      split_ifs at h with he
      cases h
      exact .replied (Or.inr ⟨e, Or.inl rfl⟩) hw (.refused he)
    · cases h
  | lose e =>
    simp only [step] at h
    split at h
    · next r c k hw =>
      split_ifs at h with he
      cases h
      exact .replied (Or.inr ⟨e, Or.inr rfl⟩) hw (.lost he)
    · cases h
  | finish =>
    simp only [step] at h
    split at h
    · next r hw =>
      cases h
      exact .finish hw
    · next r e hw =>
      cases h
      exact .requeue hw
    · cases h
  | stop =>
    cases h
    exact .stop
  | start =>
    simp only [step] at h
    split_ifs at h with hr
    cases h
    exact .start (Bool.eq_false_of_not_eq_true hr)

abbrev run (s : State) (as : List Action) : Option State := runSteps step s as

def Quiescent (s : State) : Prop :=
  s.running = true ∧ s.queue = [] ∧ s.worker.isNone = true ∧ s.gateways.events.isEmpty = true ∧
    s.policies.events.isEmpty = true

instance : DecidablePred Quiescent := fun s => by unfold Quiescent; infer_instance

def initial (gateways : List Gateway) (policies : List NetworkPolicy) : State where
  gateways := .synced (.keyed Gateway.key gateways)
  policies := .synced (.keyed NetworkPolicy.key policies)
  queue := []
  worker := none
  running := false

def idle (gateways : List Gateway) (policies : List NetworkPolicy) : State :=
  { initial gateways policies with running := true }

section Keyed

variable {s s' : State}

def Keyed (s : State) : Prop := ∀ k np, s.policies.api.lookup k = some np → np.key = k

lemma Keyed.write {k : NamespacedName} {v : Option NetworkPolicy} (h : Keyed s)
    (hv : ∀ np, v = some np → np.key = k) : Keyed (s.writePolicy k v) := by
  intro j np hj
  have hset : (s.policies.api.set k v).lookup j = some np := hj
  rw [Store.lookup_set] at hset
  split_ifs at hset with hjk
  · rw [hjk]
    exact hv np hset
  · exact h j np hset

lemma Keyed.perform (h : Keyed s) (c : ClientCall) : Keyed (s.perform c).2 := by
  cases c with
  | listGateways ns => exact h
  | getPolicy k =>
    simp only [State.perform]
    split <;> exact h
  | createPolicy np =>
    simp only [State.perform]
    split
    · exact h
    · exact h.write fun _ hv => (by cases hv; rfl)
  | updatePolicy np =>
    simp only [State.perform]
    split
    · exact h.write fun _ hv => (by cases hv; rfl)
    · exact h
  | deletePolicy k =>
    simp only [State.perform]
    split
    · exact h.write fun _ hv => (by cases hv)
    · exact h

lemma Keyed.answered {c : ClientCall} {x : Except GoError c.Result} (h : Keyed s)
    (hx : Answers s c x s') : Keyed s' := by
  cases hx with
  | done => exact h.perform c
  | refused => exact h
  | lost => exact h.perform c

lemma Keyed.step {a : Action} (h : Keyed s) (hs : step s a = some s') : Keyed s' := by
  cases steps_of_step hs with
  | putGateway => exact h
  | deleteGateway => exact h
  | putPolicy => exact h.write fun _ hv => (by cases hv; rfl)
  | deletePolicy => exact h.write fun _ hv => (by cases hv)
  | deliverGateway => exact h
  | deliverPolicy _ hd =>
    intro j np hj
    refine h j np ?_
    rw [← (Informer.deliver_eq_some hd).2.2.1]
    exact hj
  | take => exact h
  | replied _ _ hx =>
    have hanswered := h.answered hx
    exact hanswered
  | finish => exact h
  | requeue => exact h
  | stop => exact h
  | start => exact h

lemma keyed_reach {gws : List Gateway} {nps : List NetworkPolicy} {A : State → Action → Prop}
    (h : Reach step A (initial gws nps) s) : Keyed s :=
  h.invariant (fun _ _ _ _ hn hk => hk.step hn) fun _ _ hk => (Store.of_lookup_keyed hk).2

end Keyed

end EnvoyGatewayExtension.NetpolController
