import EnvoyGatewayExtension.Actuator.GatewayGuard

namespace EnvoyGatewayExtension.Actuator

open Effects Kubernetes

inductive DrainCall
  | listGateways
  | deleteGateways
  | clearGatewayClassFinalizer
  | newClientForShoot
  | list

@[reducible] def DrainCall.Result : DrainCall → Type
  | listGateways => List String
  | deleteGateways => Unit
  | clearGatewayClassFinalizer => Unit
  | newClientForShoot => Unit
  | list => List Gateway

abbrev drainInterface : Interface where
  Call := DrainCall
  Result := DrainCall.Result

def ask (c : DrainCall) : Prog drainInterface GoError c.Result :=
  Prog.request (I := drainInterface) c

def drainLister (more : ℕ) : GatewayLister drainInterface where
  listGateways := ask .listGateways
  clearGatewayClassFinalizer := ask .clearGatewayClassFinalizer
  deleteGateways := ask .deleteGateways
  waitUntilGatewaysDeleted := waitUntilGatewaysDeleted (ask .newClientForShoot) (ask .list) more

/-- What one poll meets. No library returns the sentinel error of this package. -/
structure Poll where
  client : Except GoError Unit
  list : Except GoError (List Gateway)
  client_foreign : ∀ e, client = .error e → e.isStillDeleting = false
  list_foreign : ∀ e, list = .error e → e.isStillDeleting = false

namespace Poll

def result (p : Poll) : Except GoError (List Gateway) :=
  match p.client with
  | .error e => .error (.wrap "failed to build shoot client" e)
  | .ok () =>
    match p.list with
    | .error e =>
      if gatewayCRDAbsent e then .ok [] else .error (.wrap "failed to list Gateways in shoot" e)
    | .ok items => .ok items

def SawNone (p : Poll) : Prop := p.result = .ok []

def SawGateways (p : Poll) : Prop := ∃ gw items, p.result = .ok (gw :: items)

def cutOff (p : Poll) : Bool :=
  match p.result with
  | .error e => e.isContextDone
  | .ok _ => false

lemma result_foreign {p : Poll} {e : GoError} (h : p.result = .error e) :
    e.isStillDeleting = false := by
  unfold result at h
  split at h
  · rename_i e' hc
    cases h
    exact p.client_foreign e' hc
  · split at h
    · rename_i e' hl
      split_ifs at h
      cases h
      exact p.list_foreign e' hl
    · cases h

end Poll

structure DrainState where
  polls : List Poll
  clears : ℕ

structure OtherReplies where
  listGateways : Except GoError (List String)
  deleteGateways : Except GoError Unit
  clearGatewayClassFinalizer : Except GoError Unit

def serveDrain (o : OtherReplies) (s : DrainState) :
    (c : DrainCall) → Except GoError c.Result × DrainState
  | .listGateways => (o.listGateways, s)
  | .deleteGateways => (o.deleteGateways, s)
  | .clearGatewayClassFinalizer => (o.clearGatewayClassFinalizer, { s with clears := s.clears + 1 })
  | .newClientForShoot =>
    match s.polls with
    | [] => (.error (.contextDone "context deadline exceeded"), s)
    | p :: ps =>
      match p.client with
      | .error e => (.error e, { s with polls := ps })
      | .ok () => (.ok (), s)
  | .list =>
    match s.polls with
    | [] => (.error (.contextDone "context deadline exceeded"), s)
    | p :: ps => (p.list, { s with polls := ps })

abbrev served {α : Type} (o : OtherReplies) (p : Prog drainInterface GoError α) (s : DrainState) :
    Except GoError α × DrainState :=
  serve (serveDrain o) p s

def drainOver (o : OtherReplies) (first : Poll) (rest : List Poll) :
    Except GoError Unit × DrainState :=
  served o (drainUserGatewaysForShootDeletion (drainLister rest.length)) ⟨first :: rest, 0⟩

section History

variable {o : OtherReplies} {p first : Poll} {ps rest : List Poll} {n : ℕ}

def Poll.condition (p : Poll) : Option GoError × Bool :=
  match p.result with
  | .error e => (some e, false)
  | .ok items => (none, items.isEmpty)

def polled : Poll → List Poll → Option GoError × Bool
  | p, [] => p.condition
  | p, q :: qs => if p.condition.2 then p.condition else polled q qs

lemma served_ask (c : DrainCall) (s : DrainState) : served o (ask c) s = serveDrain o s c :=
  serve_request (I := drainInterface) c s

lemma served_attempt_bind {α β : Type} (p : Prog drainInterface GoError α)
    (g : Except GoError α → Prog drainInterface GoError β) (s : DrainState) :
    served o (p.attempt >>= g) s = served o (g (served o p s).1) (served o p s).2 :=
  serve_attempt_bind p g s

lemma served_fetchGatewayList :
    served o (fetchGatewayList (ask .newClientForShoot) (ask .list)) ⟨p :: ps, n⟩ =
      (p.result, ⟨ps, n⟩) := by
  have hclient : served o (shootClient (ask .newClientForShoot)) ⟨p :: ps, n⟩ =
      ((serveDrain o ⟨p :: ps, n⟩ .newClientForShoot).1.mapError
        (.wrap "failed to build shoot client"),
        (serveDrain o ⟨p :: ps, n⟩ .newClientForShoot).2) := by
    rw [← served_ask]
    exact serve_mapFault _ _ _
  unfold Poll.result
  cases hc : p.client with
  | error e =>
    simp only [serveDrain, hc] at hclient
    exact serve_bind_error hclient _
  | ok u =>
    simp only [serveDrain, hc] at hclient
    refine (serve_bind_ok hclient _).trans ((served_attempt_bind _ _ _).trans ?_)
    rw [served_ask]
    simp only [serveDrain]
    cases p.list with
    | error e =>
      simp only
      split_ifs <;> rfl
    | ok items => rfl

lemma served_gatewaysDeleted (o : OtherReplies) (p : Poll) (ps : List Poll) (n : ℕ)
    (lastErr : Option GoError) :
    served o (gatewaysDeleted (ask .newClientForShoot) (ask .list) lastErr) ⟨p :: ps, n⟩ =
      (.ok p.condition, ⟨ps, n⟩) := by
  refine (served_attempt_bind _ _ _).trans ?_
  rw [served_fetchGatewayList]
  unfold Poll.condition
  cases p.result <;> rfl

lemma served_polls (o : OtherReplies) (first : Poll) (rest : List Poll) (n : ℕ)
    (lastErr : Option GoError) : ∃ left,
    served o (pollUntilContextCancel (gatewaysDeleted (ask .newClientForShoot) (ask .list))
      rest.length lastErr) ⟨first :: rest, n⟩ = (.ok (polled first rest), ⟨left, n⟩) := by
  induction rest generalizing first lastErr with
  | nil => exact ⟨[], served_gatewaysDeleted o first [] n lastErr⟩
  | cons q qs ih =>
    have hstep := serve_bind_ok (served_gatewaysDeleted o first (q :: qs) n lastErr)
      fun polled => if polled.2 then pure polled else
        pollUntilContextCancel (gatewaysDeleted (ask .newClientForShoot) (ask .list))
          qs.length polled.1
    rw [polled]
    by_cases hc : first.condition.2 = true
    · rw [if_pos hc] at hstep ⊢
      exact ⟨q :: qs, hstep⟩
    · rw [if_neg hc] at hstep ⊢
      obtain ⟨left, hl⟩ := ih q first.condition.1
      exact ⟨left, hstep.trans hl⟩

lemma condition_snd : p.condition.2 = true ↔ p.SawNone := by
  unfold Poll.condition Poll.SawNone
  cases p.result with
  | error e => simp
  | ok items => cases items <;> simp

lemma condition_fst {e : GoError} (h : p.condition.1 = some e) : p.result = .error e := by
  unfold Poll.condition at h
  cases hr : p.result with
  | error e' =>
    rw [hr] at h
    cases h
    rfl
  | ok items =>
    rw [hr] at h
    cases h

lemma polled_snd : (polled first rest).2 = true ↔ ∃ p ∈ first :: rest, p.SawNone := by
  induction rest generalizing first with
  | nil => simp [polled, condition_snd]
  | cons q qs ih =>
    rw [polled]
    split_ifs with hc
    · exact iff_of_true hc ⟨first, List.mem_cons_self, condition_snd.mp hc⟩
    · rw [ih, List.exists_mem_cons_iff (l := q :: qs)]
      exact (or_iff_right fun hn => hc (condition_snd.mpr hn)).symm

lemma polled_last (h : ∀ p ∈ first :: rest, ¬ p.SawNone) :
    polled first rest = ((first :: rest).getLast (List.cons_ne_nil _ _)).condition := by
  induction rest generalizing first with
  | nil => rfl
  | cons q qs ih =>
    have hf : ¬ first.condition.2 = true :=
      fun hc => h first List.mem_cons_self (condition_snd.mp hc)
    rw [polled, if_neg hf, List.getLast_cons (List.cons_ne_nil q qs)]
    exact ih fun p hp => h p (List.mem_cons_of_mem first hp)

/-- The Gateways still drain: no poll saw an empty list, and the last one that the context did
not cut off saw Gateways. -/
def StillDraining (first : Poll) (rest : List Poll) : Prop :=
  (∀ p ∈ first :: rest, ¬ p.SawNone) ∧
    ∃ p, ((first :: rest).filter (fun p => !p.cutOff)).getLast? = some p ∧ p.SawGateways

def Classified (o : OtherReplies) (first : Poll) (rest : List Poll) : Prop :=
  (StillDraining first rest →
    (∃ e, (drainOver o first rest).1 = .error e ∧ e.isStillDeleting = true) ∧
    (drainOver o first rest).2.clears = 0) ∧
  (¬ StillDraining first rest →
    (drainOver o first rest).1 = .ok () ∧ (drainOver o first rest).2.clears = 1)

def lastPoll (first : Poll) (rest : List Poll) : Poll :=
  (first :: rest).getLast (List.cons_ne_nil _ _)

lemma drainOver_eq (o : OtherReplies) (first : Poll) (rest : List Poll) : ∃ left,
    drainOver o first rest =
      served o (finishDrain (drainLister rest.length) (waitResult (polled first rest)))
        ⟨left, 0⟩ := by
  obtain ⟨left, hl⟩ := served_polls o first rest 0 none
  have hw : served o (waitUntilGatewaysDeleted (ask .newClientForShoot) (ask .list) rest.length)
      ⟨first :: rest, 0⟩ = (waitResult (polled first rest), ⟨left, 0⟩) :=
    (serve_bind_ok hl _).trans (serve_ofExcept _ _)
  have hlist : (served o (ask .listGateways) ⟨first :: rest, 0⟩).2 = ⟨first :: rest, 0⟩ :=
    congrArg Prod.snd (served_ask .listGateways _)
  have hdelete : (served o (ask .deleteGateways) ⟨first :: rest, 0⟩).2 = ⟨first :: rest, 0⟩ :=
    congrArg Prod.snd (served_ask .deleteGateways _)
  refine ⟨left, ?_⟩
  rw [drainOver, drainUserGatewaysForShootDeletion, served_attempt_bind, served_attempt_bind,
    served_attempt_bind]
  dsimp only [drainLister]
  rw [hlist, hdelete, hw]

lemma polled_foreign {e : GoError} (hp : polled first rest = (some e, false)) :
    e.isStillDeleting = false := by
  have hnone : ∀ p ∈ first :: rest, ¬ p.SawNone := by
    intro p hm hs
    have ht := polled_snd.mpr ⟨p, hm, hs⟩
    rw [hp] at ht
    cases ht
  rw [polled_last hnone] at hp
  exact Poll.result_foreign (condition_fst (congrArg Prod.fst hp))

lemma drainOver_waiting (hp : polled first rest = (none, false)) :
    (∃ e, (drainOver o first rest).1 = .error e ∧ e.isStillDeleting = true) ∧
      (drainOver o first rest).2.clears = 0 := by
  obtain ⟨left, hd⟩ := drainOver_eq o first rest
  rw [hd, hp]
  exact ⟨⟨_, rfl, rfl⟩, rfl⟩

lemma served_clear (left : List Poll) :
    served o (do let _ ← (ask .clearGatewayClassFinalizer).attempt; pure ()) ⟨left, n⟩ =
      (.ok (), ⟨left, n + 1⟩) := by
  rw [served_attempt_bind, served_ask]
  rfl

lemma drainOver_done (hp : polled first rest ≠ (none, false)) :
    (drainOver o first rest).1 = .ok () ∧ (drainOver o first rest).2.clears = 1 := by
  obtain ⟨left, hd⟩ := drainOver_eq o first rest
  rw [hd]
  have hw : ∀ e, waitResult (polled first rest) = .error e → e.isStillDeleting = false := by
    intro e he
    rcases hr : polled first rest with ⟨_ | e', _ | _⟩
    · exact absurd hr hp
    · rw [hr] at he
      cases he
    · rw [hr] at he
      cases he
      change e'.isStillDeleting = false
      exact polled_foreign hr
    · rw [hr] at he
      cases he
  have hf : finishDrain (drainLister rest.length) (waitResult (polled first rest)) =
      (do let _ ← (ask .clearGatewayClassFinalizer).attempt; pure ()) := by
    cases hr : waitResult (polled first rest) with
    | ok u => rfl
    | error e =>
      rw [finishDrain, if_neg (by rw [hw e hr]; decide)]
      rfl
  rw [hf, served_clear]
  exact ⟨rfl, rfl⟩

lemma polled_waiting : polled first rest = (none, false) ↔
    (∀ p ∈ first :: rest, ¬ p.SawNone) ∧ (lastPoll first rest).SawGateways := by
  constructor
  · intro hp
    have hnone : ∀ p ∈ first :: rest, ¬ p.SawNone := by
      intro p hm hs
      have ht := polled_snd.mpr ⟨p, hm, hs⟩
      rw [hp] at ht
      cases ht
    refine ⟨hnone, ?_⟩
    have hl : (lastPoll first rest).condition = (none, false) := (polled_last hnone).symm.trans hp
    unfold Poll.condition at hl
    cases hr : (lastPoll first rest).result with
    | error e =>
      rw [hr] at hl
      cases hl
    | ok items =>
      cases items with
      | nil =>
        rw [hr] at hl
        cases hl
      | cons gw items => exact ⟨gw, items, hr⟩
  · rintro ⟨hnone, gw, items, hr⟩
    have hl : (lastPoll first rest).condition = (none, false) := by
      unfold Poll.condition
      rw [hr]
      rfl
    exact (polled_last hnone).trans hl

lemma stillDraining_of_not_cutOff (hc : (lastPoll first rest).cutOff = false) :
    StillDraining first rest ↔ polled first rest = (none, false) := by
  have hl : ((first :: rest).filter (fun p => !p.cutOff)).getLast? =
    some (lastPoll first rest) := by
    have hsplit := List.dropLast_append_getLast (List.cons_ne_nil first rest)
    rw [← hsplit, List.filter_append]
    change (_ ++ List.filter (fun p => !p.cutOff) [lastPoll first rest]).getLast? = _
    simp [hc]
  rw [polled_waiting, StillDraining, hl]
  simp

lemma not_waiting_of_cutOff (hc : (lastPoll first rest).cutOff = true) :
    polled first rest ≠ (none, false) := by
  intro hp
  obtain ⟨_, gw, items, hr⟩ := polled_waiting.mp hp
  unfold Poll.cutOff at hc
  rw [hr] at hc
  cases hc

end History

theorem classified_iff (o : OtherReplies) (first : Poll) (rest : List Poll) :
    Classified o first rest ↔
    ¬ (StillDraining first rest ∧ (lastPoll first rest).cutOff = true) := by
  cases hc : (lastPoll first rest).cutOff with
  | false =>
    have hs := stillDraining_of_not_cutOff hc
    refine iff_of_true ⟨fun h => drainOver_waiting (hs.mp h), fun h => drainOver_done (mt hs.mpr h)⟩
      ?_
    simp
  | true =>
    have hd := drainOver_done (o := o) (not_waiting_of_cutOff hc)
    constructor
    · rintro hcl ⟨hs, _⟩
      obtain ⟨⟨e, he, _⟩, _⟩ := hcl.1 hs
      rw [hd.1] at he
      cases he
    · intro hn
      exact ⟨fun hs => absurd ⟨hs, rfl⟩ hn, fun _ => hd⟩

section CutOffPoll

def attachedGateway : Gateway :=
  { «namespace» := "shop", name := "eg", gatewayClassName := "gardener-envoy-gateway" }

def seeingPoll : Poll where
  client := .ok ()
  list := .ok [attachedGateway]
  client_foreign := fun _ h => by cases h
  list_foreign := fun _ h => by cases h

def expiringPoll : Poll where
  client := .ok ()
  list := .error (.contextDone "context deadline exceeded")
  client_foreign := fun _ h => by cases h
  list_foreign := fun _ h => by
    cases h
    rfl

theorem cut_off_poll_ends_drain :
    StillDraining seeingPoll [expiringPoll] ∧
      (drainOver ⟨.ok ["shop/eg"], .ok (), .ok ()⟩ seeingPoll [expiringPoll]).1 = .ok () ∧
      (drainOver ⟨.ok ["shop/eg"], .ok (), .ok ()⟩ seeingPoll [expiringPoll]).2.clears = 1 := by
  refine ⟨⟨?_, seeingPoll, rfl, attachedGateway, [], rfl⟩, rfl, rfl⟩
  intro p hp hn
  simp only [List.mem_cons, List.not_mem_nil, or_false] at hp
  rcases hp with rfl | rfl
  · cases hn
  · cases hn

end CutOffPoll

end EnvoyGatewayExtension.Actuator
