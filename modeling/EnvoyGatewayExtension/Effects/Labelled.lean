import EnvoyGatewayExtension.Effects.Execution

namespace EnvoyGatewayExtension.Effects

variable {I : Interface} {ε L α β σ : Type}

namespace Prog

/-- `p.Yields Q`: whatever the replies, the outcome of `p` satisfies `Q`. -/
def Yields (Q : Except ε α → Prop) : Prog I ε α → Prop
  | ret a => Q (.ok a)
  | fail e => Q (.error e)
  | call _ k => ∀ r, (k r).Yields Q

lemma yields_ofExcept {x : Except ε α} {Q : Except ε α → Prop} (hx : Q x) :
    (ofExcept x : Prog I ε α).Yields Q := by
  cases x with
  | ok a => exact hx
  | error e => exact hx

lemma yields_of_forall {Q : Except ε α → Prop} (p : Prog I ε α) (h : ∀ out, Q out) :
    p.Yields Q := by
  induction p with
  | ret a => exact h _
  | fail e => exact h _
  | call c k ih => exact ih

lemma yields_bind {p : Prog I ε α} {f : α → Prog I ε β} {P : Except ε α → Prop}
    {Q : Except ε β → Prop} (hp : p.Yields P) (hok : ∀ a, P (.ok a) → (f a).Yields Q)
    (herr : ∀ e, P (.error e) → Q (.error e)) : (p >>= f).Yields Q := by
  induction p with
  | ret a => exact hok a hp
  | fail e => exact herr e hp
  | call c k ih => exact fun r => ih r (hp r)

end Prog

lemma Exec.yields {h : Handler I ε σ} {p : Prog I ε α} {s s' : σ} {tr : List (Answered I ε σ)}
    {out : Except ε α}
    {Q : Except ε α → Prop} (he : Exec h p s tr out s') (hp : p.Yields Q) : Q out := by
  induction he with
  | ret => exact hp
  | fail => exact hp
  | call _ _ ih => exact ih (hp _)

lemma Exec.outcome_unique {h : Handler I ε σ} {p : Prog I ε α} {s s' t t' : σ}
    {tr : List (Answered I ε σ)}
    {out out' : Except ε α} (he : Exec h p s tr out s') (he' : Exec h p t tr out' t') :
    out = out' := by
  induction he generalizing t with
  | ret =>
    cases he'
    rfl
  | fail =>
    cases he'
    rfl
  | call _ _ ih =>
    obtain ⟨r, _, _, _, htr, hrun⟩ := Exec.call_iff.mp he'
    cases htr
    exact ih hrun

abbrev Labelled (I : Interface) (ε L α : Type) : Type := ExceptT (L × ε) (Prog I ε) α

namespace Labelled

def step (l : L) (p : Prog I ε α) : Labelled I ε L α :=
  ExceptT.mk (p.attempt >>= fun out => .ret (out.mapError fun e => (l, e)))

def attempt (p : Prog I ε α) : Labelled I ε L (Except ε α) := ExceptT.lift p.attempt

def report (wrap : L → ε → ε) : Except (L × ε) α → Prog I ε α
  | .ok a => .ret a
  | .error (l, e) => .fail (wrap l e)

def erase (wrap : L → ε → ε) (m : Labelled I ε L α) : Prog I ε α := m.run >>= report wrap

section Erasure

variable {wrap : L → ε → ε}

@[simp] lemma erase_pure (a : α) : erase wrap (pure a : Labelled I ε L α) = .ret a := rfl

@[simp] lemma erase_throw (l : L) (e : ε) :
    erase wrap (throw (l, e) : Labelled I ε L α) = .fail (wrap l e) := rfl

@[simp] lemma erase_step (l : L) (p : Prog I ε α) :
    erase wrap (step l p) = p.mapFault (wrap l) := by
  induction p with
  | ret a => rfl
  | fail e => rfl
  | call c k ih =>
    change Prog.call c _ = Prog.call c _
    congr 1
    funext r
    exact ih r

@[simp] lemma erase_attempt (p : Prog I ε α) :
    erase wrap (attempt p : Labelled I ε L _) = p.attempt := by
  induction p with
  | ret a => rfl
  | fail e => rfl
  | call c k ih =>
    change Prog.call c _ = Prog.call c _
    congr 1
    funext r
    exact ih r

@[simp] lemma erase_bind (m : Labelled I ε L α) (f : α → Labelled I ε L β) :
    erase wrap (m >>= f) = erase wrap m >>= fun a => erase wrap (f a) := by
  change (m.run >>= ExceptT.bindCont f) >>= report wrap = (m.run >>= report wrap) >>= fun a =>
    erase wrap (f a)
  rw [Prog.bind_assoc, Prog.bind_assoc]
  congr 1
  funext out
  cases out with
  | ok a => rfl
  | error e => rfl

@[simp] lemma erase_ite (c : Prop) [Decidable c] (m n : Labelled I ε L α) :
    erase wrap (if c then m else n) = if c then erase wrap m else erase wrap n :=
  apply_ite (erase wrap) c m n

end Erasure

def Reports (F : L → ε → Prop) (m : Labelled I ε L α) : Prop :=
  m.run.Yields fun out => ∃ x, out = .ok x ∧ ∀ l e, x = .error (l, e) → F l e

section Reports

variable {F : L → ε → Prop}

lemma reports_pure (a : α) : Reports F (pure a : Labelled I ε L α) :=
  ⟨.ok a, rfl, fun _ _ h => by cases h⟩

lemma reports_throw {l : L} {e : ε} (h : F l e) : Reports F (throw (l, e) : Labelled I ε L α) := by
  refine ⟨.error (l, e), rfl, ?_⟩
  rintro _ _ ⟨⟩
  exact h

lemma reports_step {l : L} {p : Prog I ε α} (hp : p.Yields fun out => ∀ e, out = .error e → F l e) :
    Reports F (step l p) := by
  induction p with
  | ret a => exact reports_pure a
  | fail e => exact reports_throw (hp e rfl)
  | call c k ih => exact fun r => ih r (hp r)

lemma reports_attempt (p : Prog I ε α) : Reports F (attempt p : Labelled I ε L _) := by
  induction p with
  | ret a => exact reports_pure _
  | fail e => exact reports_pure _
  | call c k ih => exact ih

lemma reports_bind {m : Labelled I ε L α} {f : α → Labelled I ε L β} (hm : Reports F m)
    (hf : ∀ a, Reports F (f a)) : Reports F (m >>= f) := by
  refine Prog.yields_bind hm ?_ ?_
  · rintro x ⟨_, ⟨⟩, hx⟩
    cases x with
    | ok a => exact hf a
    | error le =>
      refine ⟨.error le, rfl, ?_⟩
      rintro l e ⟨⟩
      exact hx l e rfl
  · rintro e ⟨_, he, _⟩
    cases he

lemma exec_erase_error {wrap : L → ε → ε} {h : Handler I ε σ} {m : Labelled I ε L α}
    (hm : Reports F m) {s s' : σ}
    {tr : List (Answered I ε σ)} {err : ε} : Exec h (erase wrap m) s tr (.error err) s' ↔
      ∃ l e, err = wrap l e ∧ F l e ∧ Exec h m.run s tr (.ok (.error (l, e))) s' := by
  constructor
  · intro he
    rcases Exec.bind_iff.mp he with ⟨e, _, hrun⟩ | ⟨x, s₁, tr₁, tr₂, rfl, hrun, hreport⟩
    · obtain ⟨_, hx, _⟩ := hrun.yields hm
      cases hx
    · obtain ⟨_, ⟨⟩, hF⟩ := hrun.yields hm
      cases x with
      | ok a => cases hreport
      | error le =>
        obtain ⟨l, e⟩ := le
        obtain ⟨rfl, herr, rfl⟩ := Exec.fail_iff.mp hreport
        cases herr
        rw [List.append_nil]
        exact ⟨l, e, rfl, hF l e rfl, hrun⟩
  · rintro ⟨l, e, rfl, _, hrun⟩
    have hreport : Exec h (report wrap (.error (l, e)) : Prog I ε α) s' [] (.error (wrap l e)) s' :=
      .fail
    exact Exec.bind_iff.mpr (Or.inr ⟨_, s', tr, [], (List.append_nil tr).symm, hrun, hreport⟩)

end Reports

end Labelled

end EnvoyGatewayExtension.Effects
