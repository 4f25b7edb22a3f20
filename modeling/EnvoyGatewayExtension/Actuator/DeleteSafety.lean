import EnvoyGatewayExtension.Actuator.ControllerPair

namespace EnvoyGatewayExtension.Actuator

open Effects Kubernetes EnvoyGateway Stores

variable {lib : Libraries} {generate : Generator} {w w' : World} {ex : Invocation}

def ShootUntouched (w w' : World) : Prop :=
  w'.objects = w.objects ∧ w'.gateways = w.gateways ∧ w'.infra = w.infra ∧
    w'.policies = w.policies ∧ w'.gatewayClassFinalizers = w.gatewayClassFinalizers

def KeepsObjects (w : World) : Prop := ∀ mr, w.managedResource = some mr → mr.keepObjects = true

def DeletesKept (e : Answered clusters GoError World) : Prop :=
  e.call = .deleteManagedResource → KeepsObjects e.before

section Kept

lemma drains_keep : Drains (· ≠ Call.deleteManagedResource) := by
  constructor <;> intros <;> exact Call.noConfusion

lemma uses_reconcile_spares : (reconcile lib ex).Uses (· ≠ Call.deleteManagedResource) := by
  refine Prog.uses_bind (uses_wrapped (uses_send (by exact Call.noConfusion))) fun cluster => ?_
  cases cluster.shoot with
  | none => trivial
  | some shoot =>
    dsimp only
    split_ifs
    · exact uses_drain drains_keep ex
    · exact uses_wrapped (uses_scaleDown Call.noConfusion fun _ => Call.noConfusion)
    · refine Prog.uses_bind (Prog.uses_ofExcept _) fun config => ?_
      refine Prog.uses_bind (uses_wrapped (uses_reconcileSecrets (fun _ => Call.noConfusion)
        (fun _ => Call.noConfusion) (fun _ => Call.noConfusion) _)) fun tls => ?_
      refine Prog.uses_bind
        (uses_wrapped (uses_deploy (fun _ _ => Call.noConfusion) lib config tls)) fun _ => ?_
      refine Prog.uses_bind
        (Prog.uses_attempt (uses_sweep Call.noConfusion (fun _ _ _ _ => Call.noConfusion)
        fun _ _ => Call.noConfusion)) fun _ => ?_
      exact uses_netpolController (fun _ _ => Call.noConfusion) Call.noConfusion
        (fun _ => Call.noConfusion) (fun _ => Call.noConfusion) Call.noConfusion Call.noConfusion
        Call.noConfusion Call.noConfusion (fun _ => Call.noConfusion) cluster _

lemma answers_teardown {c : Call} {r : Except GoError c.Result} (h : Answers generate w c r w')
    (hc : c = .deleteDeployment ∨ c = .deleteSecret netpolAccessSecretName) :
    ShootUntouched w w' := by
  have hd : ShootUntouched w (w.perform generate c).2 := by
    rcases hc with rfl | rfl <;> simp only [World.perform] <;> split <;>
      exact ⟨rfl, rfl, rfl, rfl, rfl⟩
  exact h.keeps ⟨rfl, rfl, rfl, rfl, rfl⟩ hd

lemma answers_setKeepObjects {r : Except GoError (Call.setKeepObjects true).Result}
    (h : Answers generate w (.setKeepObjects true) r w') :
    ShootUntouched w w' ∧ ((∀ e, r = .error e → e.isNotFound = true) → KeepsObjects w') := by
  have hd : ShootUntouched w (w.perform generate (.setKeepObjects true)).2 ∧
      KeepsObjects (w.perform generate (.setKeepObjects true)).2 := by
    simp only [World.perform]
    split
    · refine ⟨⟨rfl, rfl, rfl, rfl, rfl⟩, fun mr hm => ?_⟩
      cases hm
      rfl
    · rename_i hn
      refine ⟨⟨rfl, rfl, rfl, rfl, rfl⟩, fun mr hm => ?_⟩
      rw [hn] at hm
      cases hm
  cases h with
  | done => exact ⟨hd.1, fun _ => hd.2⟩
  | @refused e he =>
    refine ⟨⟨rfl, rfl, rfl, rfl, rfl⟩, fun hn => ?_⟩
    exact absurd (hn e rfl) (by simp [GoError.isNotFound_of_transient he])
  | lost => exact ⟨hd.1, fun _ => hd.2⟩

lemma answers_deleteManagedResource {r : Except GoError Call.deleteManagedResource.Result}
    (h : Answers generate w .deleteManagedResource r w') (hk : KeepsObjects w) :
    ShootUntouched w w' ∧ KeepsObjects w' := by
  have hd : KeepsObjects (w.perform generate .deleteManagedResource).2 := by
    intro mr hm
    simp only [World.perform, Option.map_eq_some_iff] at hm
    obtain ⟨mr', hm', rfl⟩ := hm
    exact hk mr' hm'
  exact h.keeps (J := fun t => ShootUntouched w t ∧ KeepsObjects t)
    ⟨⟨rfl, rfl, rfl, rfl, rfl⟩, hk⟩ ⟨⟨rfl, rfl, rfl, rfl, rfl⟩, hd⟩

lemma answers_waitUntilDeleted {r : Except GoError Call.waitUntilDeleted.Result}
    (h : Answers generate w .waitUntilDeleted r w') (hk : KeepsObjects w) :
    ShootUntouched w w' := by
  have hd : ShootUntouched w (w.perform generate .waitUntilDeleted).2 := by
    simp only [World.perform]
    split
    · exact ⟨rfl, rfl, rfl, rfl, rfl⟩
    · rename_i mr hm
      split
      · rw [World.collect, if_pos (hk mr hm)]
        exact ⟨rfl, rfl, rfl, rfl, rfl⟩
      · exact ⟨rfl, rfl, rfl, rfl, rfl⟩
  exact h.keeps ⟨rfl, rfl, rfl, rfl, rfl⟩ hd

lemma ShootUntouched.trans {u v t : World} (h : ShootUntouched u v) (h' : ShootUntouched v t) :
    ShootUntouched u t :=
  ⟨h'.1.trans h.1, h'.2.1.trans h.2.1, h'.2.2.1.trans h.2.2.1, h'.2.2.2.1.trans h.2.2.2.1,
    h'.2.2.2.2.trans h.2.2.2.2⟩

lemma ensures_deleteKeepingObjects :
    Ensures (answers generate) DeletesKept deleteKeepingObjects
      (fun _ t => ShootUntouched w t) w := by
  refine Ensures.bind (P := fun out t => ShootUntouched w t ∧ (out = .ok () → KeepsObjects t))
    ?_ ?_ ?_
  · refine ensures_wrapped (ensures_ignoreNotFound (Ensures.request_iff.mpr fun r t ha => ?_))
    obtain ⟨hs, hk⟩ := answers_setKeepObjects ha
    exact ⟨fun hc => (by cases hc), fun hr => ⟨hs, fun _ => hk hr⟩,
      fun e _ _ => ⟨hs, fun he => by cases he⟩⟩
  · intro _ t ht
    have hk := ht.2 rfl
    refine Ensures.bind (P := fun _ u => ShootUntouched w u ∧ KeepsObjects u) ?_ ?_ ?_
    · refine ensures_wrapped (Ensures.request_iff.mpr fun r u ha => ?_)
      obtain ⟨hs, hk'⟩ := answers_deleteManagedResource ha hk
      exact ⟨fun _ => hk, ht.1.trans hs, hk'⟩
    · intro _ u hu
      refine ensures_wrapped (Ensures.request_iff.mpr fun r v ha => ?_)
      exact ⟨fun hc => (by cases hc), hu.1.trans (answers_waitUntilDeleted ha hu.2)⟩
    · exact fun e u hu => hu.1
  · exact fun e t ht => ht.1

lemma ensures_keeping {msg msg' : String} :
    Ensures (answers generate) DeletesKept
      (wrapped msg (teardown ex.clusterName) >>= fun _ => wrapped msg' deleteKeepingObjects)
      (fun _ t => ShootUntouched w t) w := by
  refine Ensures.bind (P := fun _ t => ShootUntouched w t) ?_ ?_ ?_
  · refine Ensures.of_uses (uses_wrapped (uses_teardown (P := fun c => c = .deleteDeployment ∨
      c = .deleteSecret netpolAccessSecretName) (Or.inl rfl) (Or.inr rfl) ex.clusterName)) ?_
        ⟨rfl, rfl, rfl, rfl, rfl⟩
    intro s c r t hc ha hs
    refine ⟨fun hd => ?_, hs.trans (answers_teardown ha hc)⟩
    rcases hc with rfl | rfl <;> cases hd
  · intro _ t ht
    refine ensures_wrapped (ensures_deleteKeepingObjects.mono (fun _ hj => hj) fun _ u hu => ?_)
    exact ht.trans hu
  · exact fun e t ht => ht

end Kept

section Guarded

variable {tr : List (Answered clusters GoError World)} {out : Except GoError Unit}

def ListedNone (e : Answered clusters GoError World) : Prop :=
  ∃ r before after, e = ⟨.listGateways, r, before, after⟩ ∧
    (r = .ok [] ∨ ∃ err, r = .error err ∧ gatewayCRDAbsent err = true)

lemma exec_fetch_nil (he : Exec (answers generate)
      (fetchGatewayList connection.newClientForShoot connection.listGateways) w tr (.ok []) w') :
    ∃ l ∈ tr, ListedNone l := by
  obtain ⟨_, s₁, tr₁, tr₂, rfl, _, he⟩ := Exec.bind_ok_iff.mp he
  obtain ⟨r, s₂, tr₃, tr₄, rfl, hlist, hend⟩ := Exec.bind_ok_iff.mp he
  obtain ⟨_, rfl⟩ := Exec.request_iff.mp (Exec.attempt_ok_iff.mp hlist)
  refine ⟨⟨.listGateways, r, s₁, s₂⟩, by simp, r, s₁, s₂, rfl, ?_⟩
  cases r with
  | ok items =>
    obtain ⟨_, hi, _⟩ := Exec.ret_iff.mp hend
    cases hi
    exact Or.inl rfl
  | error err =>
    simp only at hend
    split_ifs at hend with ha
    · exact Or.inr ⟨err, rfl, ha⟩
    · simp at hend

lemma exec_check_live {shoot : Option Shoot} (hl : shoot.any (·.deletionTimestamp) = false)
    (he : Exec (answers generate) (checkNoUserGateways (lister ex) shoot) w tr (.ok ()) w') :
    ∃ l ∈ tr, ListedNone l := by
  unfold checkNoUserGateways at he
  rw [hl, if_neg Bool.false_ne_true] at he
  obtain ⟨names, s₁, tr₁, tr₂, rfl, hlist, hend⟩ := Exec.bind_ok_iff.mp he
  split_ifs at hend with hn
  · obtain ⟨items, s₂, tr₃, tr₄, rfl, hfetch, hret⟩ :=
      Exec.bind_ok_iff.mp (Exec.mapFault_ok_iff.mp hlist)
    obtain ⟨_, hi, _⟩ := Exec.ret_iff.mp hret
    cases hi
    rw [List.isEmpty_iff, List.map_eq_nil_iff] at hn
    subst hn
    obtain ⟨l, hm, hl⟩ := exec_fetch_nil hfetch
    exact ⟨l, by simp [hm], hl⟩
  · simp at hend

lemma uses_check_reads {shoot : Option Shoot} (hl : shoot.any (·.deletionTimestamp) = false) :
    (checkNoUserGateways (lister ex) shoot).Uses fun c : Call => c.reads = true := by
  unfold checkNoUserGateways
  rw [hl, if_neg Bool.false_ne_true]
  refine Prog.uses_bind (uses_wrapped (Prog.uses_bind (uses_fetch rfl rfl) fun _ => trivial))
    fun names => ?_
  split <;> trivial

lemma exec_delete (he : Exec (answers generate) (delete ex) w tr out w') :
    ∃ g, g.call = .getCluster ∧ ((tr = [g] ∧ (∃ e, out = .error e) ∧ w' = w) ∨
    ∃ cluster, w.cluster = some cluster ∧
      ((∃ e trc, tr = g :: trc ∧ out = .error e ∧
          Exec (answers generate) (checkNoUserGateways (lister ex) cluster.shoot) w trc
        (.error e) w') ∨ ∃ trc trr t, tr = g :: (trc ++ trr) ∧
          Exec (answers generate) (checkNoUserGateways (lister ex) cluster.shoot) w trc (.ok ()) t ∧
          Exec (answers generate) (removeExtension ex cluster) t trr out w')) := by
  rcases Exec.bind_iff.mp he with ⟨e, rfl, hget⟩ | ⟨cluster, s₁, tr₁, tr₂, rfl, hget, hrest⟩
  · obtain ⟨x, _, hx⟩ := Exec.mapFault_iff.mp hget
    obtain ⟨ha, rfl⟩ := Exec.request_iff.mp hx
    exact ⟨⟨.getCluster, x, w, w'⟩, rfl, Or.inl ⟨rfl, ⟨e, rfl⟩, (answers_getCluster ha).1⟩⟩
  · obtain ⟨ha, rfl⟩ := Exec.request_iff.mp (Exec.mapFault_ok_iff.mp hget)
    obtain ⟨rfl, hc⟩ := answers_getCluster ha
    refine ⟨⟨.getCluster, .ok cluster, s₁, s₁⟩, rfl, Or.inr ⟨cluster, hc cluster rfl, ?_⟩⟩
    rcases Exec.bind_iff.mp hrest with ⟨e, rfl, hcheck⟩ | ⟨_, t, trc, trr, rfl, hcheck, hremove⟩
    · exact Or.inl ⟨e, tr₂, rfl, rfl, hcheck⟩
    · exact Or.inr ⟨trc, trr, t, rfl, hcheck, hremove⟩

lemma append_of_not_mem {α : Type} {xs ys as bs : List α} {b : α} (h : xs ++ ys = as ++ b :: bs)
    (hb : b ∉ xs) : ∃ rest, as = xs ++ rest := by
  rcases List.append_eq_append_iff.mp h with ⟨rest, ha, _⟩ | ⟨rest, hx, hr⟩
  · exact ⟨rest, ha⟩
  · cases rest with
    | nil => exact ⟨[], by simpa using hx.symm⟩
    | cons c cs =>
      rw [List.cons_append, List.cons.injEq] at hr
      exact absurd (by simp [hx, hr.1]) hb

def BeingDeleted (w : World) : Prop := (shootOf w).any (·.deletionTimestamp) = true

lemma exec_delete_checked {tr₁ tr₂ : List (Answered clusters GoError World)}
    {e : Answered clusters GoError World}
    (he : Exec (answers generate) (delete ex) w tr out w') (htr : tr = tr₁ ++ e :: tr₂)
    (hd : e.call = .deleteManagedResource) : ∃ cluster g trc rest t, w.cluster = some cluster ∧
      tr₁ = g :: (trc ++ rest) ∧
      Exec (answers generate) (checkNoUserGateways (lister ex) cluster.shoot) w trc (.ok ()) t := by
  obtain ⟨g, hg, ⟨rfl, _, _⟩ | ⟨cluster, hc,
    ⟨err, trc, rfl, _, hcheck⟩ | ⟨trc, trr, t, rfl, hcheck, _⟩⟩⟩ := exec_delete he
  · have hm : e ∈ [g] := by simp [htr]
    rw [List.mem_singleton.mp hm, hg] at hd
    cases hd
  · have hm : e ∈ g :: trc := by simp [htr]
    rcases List.mem_cons.mp hm with rfl | hm
    · rw [hg] at hd
      cases hd
    · exact absurd hd
        (Exec.calls_used (uses_checkNoUserGateways drains_keep cluster.shoot) hcheck e hm)
  · have hnot : e ∉ g :: trc := by
      intro hm
      rcases List.mem_cons.mp hm with rfl | hm
      · rw [hg] at hd
        cases hd
      · exact absurd hd
          (Exec.calls_used (uses_checkNoUserGateways drains_keep cluster.shoot) hcheck e hm)
    have hsplit : (g :: trc) ++ trr = tr₁ ++ e :: tr₂ := htr
    obtain ⟨rest, hrest⟩ := append_of_not_mem hsplit hnot
    exact ⟨cluster, g, trc, rest, t, hc, hrest, hcheck⟩

lemma exec_delete_refused (hlive : ¬ BeingDeleted w)
    (he : Exec (answers generate) (delete ex) w tr out w') (hnone : ∀ l ∈ tr, ¬ ListedNone l) :
    (∃ err, out = .error err) ∧ (∀ e ∈ tr, e.call.reads = true) ∧ w' = w := by
  -- on a live shoot, without a list that found no Gateway nothing is written
  obtain ⟨g, hg, ⟨rfl, herr, rfl⟩ | ⟨cluster, hc, hrest⟩⟩ := exec_delete he
  · refine ⟨herr, fun e hm => ?_, rfl⟩
    rw [List.mem_singleton.mp hm, hg]
    rfl
  · have hl : cluster.shoot.any (·.deletionTimestamp) = false := by
      rw [BeingDeleted, shootOf, hc] at hlive
      exact Bool.eq_false_iff.mpr hlive
    rcases hrest with ⟨err, trc, rfl, rfl, hcheck⟩ | ⟨trc, trr, t, rfl, hcheck, _⟩
    · have hsame := Exec.keeps (J := (· = w)) (uses_check_reads hl)
        (fun s c r s' hr ha hs => (Answers.reads ha hr).trans hs) hcheck rfl
      refine ⟨⟨err, rfl⟩,
        List.forall_mem_cons.mpr ⟨?_, Exec.calls_used (uses_check_reads hl) hcheck⟩, hsame.1⟩
      rw [hg]
      rfl
    · obtain ⟨l, hm, hl⟩ := exec_check_live hl hcheck
      exact absurd hl (hnone l (by simp [hm]))

end Guarded

structure SafeDeletion (generate : Generator) (ep : Episode) : Prop where
  reconciled : ep.op = .reconcile ∨ ep.op = .restore → ∀ e ∈ ep.trace,
    e.call ≠ .deleteManagedResource
  kept : ep.op = .migrate ∨ ep.op = .forceDelete →
    (∀ e ∈ ep.trace, DeletesKept e) ∧ ShootUntouched ep.before ep.after
  guarded : ep.op = .delete → ¬ BeingDeleted ep.before →
    (∀ tr₁ e tr₂, ep.trace = tr₁ ++ e :: tr₂ → e.call = .deleteManagedResource →
      ∃ l ∈ tr₁, ListedNone l) ∧
    ((∀ l ∈ ep.trace, ¬ ListedNone l) →
      (∃ err, ep.outcome = .error err) ∧ (∀ e ∈ ep.trace, e.call.reads = true) ∧
      ep.after = ep.before)
  drained : ep.op = .delete → BeingDeleted ep.before →
    ∀ tr₁ e tr₂, ep.trace = tr₁ ++ e :: tr₂ → e.call = .deleteManagedResource → ∃ g td rest t,
      tr₁ = g :: (td ++ rest) ∧
      Exec (answers generate) (drainUserGatewaysForShootDeletion (lister ep.ex))
        ep.before td (.ok ()) t

theorem deletions_safe {eps : List Episode} (hr : Run lib generate w eps) :
    ∀ ep ∈ eps, SafeDeletion generate ep := by
  intro ep hm
  have he := hr.executed ep hm
  obtain ⟨op, ex, before, tr, out, after⟩ := ep
  constructor
  · rintro (rfl | rfl)
    · exact Exec.calls_used uses_reconcile_spares he
    · exact Exec.calls_used uses_reconcile_spares he
  · rintro (rfl | rfl)
    · exact (ensures_keeping.sound he).symm
    · exact (ensures_keeping.sound he).symm
  · rintro rfl hlive
    refine ⟨fun tr₁ e tr₂ htr hd => ?_, exec_delete_refused hlive he⟩
    obtain ⟨cluster, g, trc, rest, t, hc, rfl, hcheck⟩ := exec_delete_checked he htr hd
    have hl : cluster.shoot.any (·.deletionTimestamp) = false := by
      rw [BeingDeleted, shootOf, hc] at hlive
      exact Bool.eq_false_iff.mpr hlive
    obtain ⟨l, hm, hnone⟩ := exec_check_live hl hcheck
    exact ⟨l, by simp [hm], hnone⟩
  · rintro rfl hdel tr₁ e tr₂ htr hd
    obtain ⟨cluster, g, trc, rest, t, hc, rfl, hcheck⟩ := exec_delete_checked he htr hd
    refine ⟨g, trc, rest, t, rfl, ?_⟩
    rw [BeingDeleted, shootOf, hc] at hdel
    change cluster.shoot.any (·.deletionTimestamp) = true at hdel
    rw [checkNoUserGateways, if_pos hdel] at hcheck
    exact hcheck

section Deleted

def deployedWorld : World :=
  { cluster := some awakeCluster
    managedResource := some { keepObjects := false, manifests := [] } }

theorem deletions_safe_live : ∃ eps, Run enabling sampleGenerator deployedWorld eps ∧
    eps.map (fun ep => (ep.op, ep.outcome)) = [(.delete, .ok ())] ∧
    ∀ ep ∈ eps, SafeDeletion sampleGenerator ep := by
  obtain ⟨tr, he⟩ :=
    exec_undisturbed enabling sampleGenerator .delete sampleInvocation deployedWorld
  have hrun : Run enabling sampleGenerator deployedWorld
    [⟨.delete, sampleInvocation, _, tr, _, _⟩] :=
    .cons (Drift.refl _) he .nil
  exact ⟨_, hrun, rfl, deletions_safe hrun⟩

end Deleted

end EnvoyGatewayExtension.Actuator
