import EnvoyGatewayExtension.Effects.Triples

/-! Programs whose calls are interleaved with the steps of an environment: what holds when the
program returns, whatever the environment does before, between and after its calls. -/

namespace EnvoyGatewayExtension.Effects

open Relation

variable {I : Interface} {ε α β σ : Type}

def Stable (R : σ → σ → Prop) (P : σ → Prop) : Prop := ∀ s s', R s s' → P s → P s'

lemma Stable.star {R : σ → σ → Prop} {P : σ → Prop} (hP : Stable R P) {s s' : σ}
    (h : ReflTransGen R s s') (hs : P s) : P s' := by
  induction h with
  | refl => exact hs
  | tail _ hr ih => exact hP _ _ hr ih

lemma Stable.and {R : σ → σ → Prop} {P Q : σ → Prop} (hP : Stable R P) (hQ : Stable R Q) :
    Stable R (fun s => P s ∧ Q s) :=
  fun s s' hr h => ⟨hP s s' hr h.1, hQ s s' hr h.2⟩

def Safe (R : σ → σ → Prop) (h : Handler I ε σ) :
    Prog I ε α → (Except ε α → σ → Prop) → σ → Prop
  | .ret a, Q, s => ∀ s', ReflTransGen R s s' → Q (.ok a) s'
  | .fail e, Q, s => ∀ s', ReflTransGen R s s' → Q (.error e) s'
  | .call c k, Q, s => ∀ s', ReflTransGen R s s' → ∀ r s'', h s' c r s'' → Safe R h (k r) Q s''

namespace Safe

variable {R : σ → σ → Prop} {h : Handler I ε σ} {Q : Except ε α → σ → Prop} {s s' : σ}

lemma environment {p : Prog I ε α} (hs : Safe R h p Q s) (hr : R s s') : Safe R h p Q s' := by
  cases p with
  | ret a => exact fun t ht => hs t (.head hr ht)
  | fail e => exact fun t ht => hs t (.head hr ht)
  | call c k => exact fun t ht => hs t (.head hr ht)

lemma answered {c : I.Call} {k : Reply I ε c → Prog I ε α} {r : Reply I ε c}
    (hs : Safe R h (.call c k) Q s) (hc : h s c r s') : Safe R h (k r) Q s' :=
  hs s .refl r s' hc

lemma returned {a : α} (hs : Safe R h (.ret a) Q s) : Q (.ok a) s := hs s .refl

lemma failed {e : ε} (hs : Safe R h (.fail e) Q s) : Q (.error e) s := hs s .refl

variable {P : σ → Prop}

lemma ret {a : α} (hP : Stable R P) (hs : P s) (hQ : ∀ t, P t → Q (.ok a) t) :
    Safe R h (.ret a) Q s :=
  fun t ht => hQ t (hP.star ht hs)

lemma fail {e : ε} (hP : Stable R P) (hs : P s) (hQ : ∀ t, P t → Q (.error e) t) :
    Safe R h (.fail e) Q s :=
  fun t ht => hQ t (hP.star ht hs)

lemma call {c : I.Call} {k : Reply I ε c → Prog I ε α} (hP : Stable R P) (hs : P s)
    (hk : ∀ t r t', P t → h t c r t' → Safe R h (k r) Q t') : Safe R h (.call c k) Q s :=
  fun t ht r t' hc => hk t r t' (hP.star ht hs) hc

lemma mono {p : Prog I ε α} {Q' : Except ε α → σ → Prop} (hs : Safe R h p Q s)
    (hQ : ∀ out t, Q out t → Q' out t) : Safe R h p Q' s := by
  induction p generalizing s with
  | ret a => exact fun t ht => hQ _ t (hs t ht)
  | fail e => exact fun t ht => hQ _ t (hs t ht)
  | call c k ih => exact fun t ht r t' hc => ih r (hs t ht r t' hc)

lemma bind {p : Prog I ε α} {f : α → Prog I ε β} {Q : Except ε β → σ → Prop}
    (hs : Safe R h p (fun out t => Safe R h (Prog.ofExcept out >>= f) Q t) s) :
    Safe R h (p >>= f) Q s := by
  induction p generalizing s with
  | ret a => exact hs s .refl
  | fail e => exact hs s .refl
  | call c k ih => exact fun t ht r t' hc => ih r (hs t ht r t' hc)

lemma request {c : I.Call} {Q : Reply I ε c → σ → Prop} {A : Reply I ε c → σ → Prop}
    (hP : Stable R P) (hs : P s) (hA : ∀ r, Stable R (A r))
    (hc : ∀ t r t', P t → h t c r t' → A r t')
    (hQ : ∀ r t, A r t → Q r t) : Safe R h (Prog.request c) Q s := by
  refine call hP hs ?_
  intro t r t' hp hr
  cases r with
  | error e => exact fail (hA _) (hc t _ t' hp hr) (hQ _)
  | ok a => exact ret (hA _) (hc t _ t' hp hr) (hQ _)

lemma attempt {p : Prog I ε α} {Q : Except ε (Except ε α) → σ → Prop}
    (hs : Safe R h p (fun out t => Q (.ok out) t) s) : Safe R h p.attempt Q s := by
  induction p generalizing s with
  | ret a => exact hs
  | fail e => exact hs
  | call c k ih => exact fun t ht r t' hc => ih r (hs t ht r t' hc)

lemma mapFault {p : Prog I ε α} {f : ε → ε}
    (hs : Safe R h p (fun out t => Q (out.mapError f) t) s) : Safe R h (p.mapFault f) Q s := by
  induction p generalizing s with
  | ret a => exact hs
  | fail e => exact hs
  | call c k ih => exact fun t ht r t' hc => ih r (hs t ht r t' hc)

lemma frame {p : Prog I ε α} {J : σ → Prop} {C : I.Call → Prop} (hs : Safe R h p Q s)
    (hu : p.Uses C) (hR : Stable R J) (hC : ∀ s c r s', C c → h s c r s' → J s → J s') (hj : J s) :
    Safe R h p (fun out t => Q out t ∧ J t) s := by
  induction p generalizing s with
  | ret a => exact fun t ht => ⟨hs t ht, hR.star ht hj⟩
  | fail e => exact fun t ht => ⟨hs t ht, hR.star ht hj⟩
  | call c k ih =>
    exact fun t ht r t' hc => ih r (hs t ht r t' hc) (hu.2 r) (hC t c r t' hu.1 hc (hR.star ht hj))

end Safe

/-- Before each answer the environment may take any number of steps. -/
def disturbed (R : σ → σ → Prop) (h : Handler I ε σ) : Handler I ε σ := fun s c r s' =>
  ∃ t, ReflTransGen R s t ∧ h t c r s'

lemma exec_disturbed {R : σ → σ → Prop} {h : Handler I ε σ} {p : Prog I ε α} {s s' : σ}
    {tr : List (Answered I ε σ)} {out : Except ε α} (he : Exec h p s tr out s') :
    Exec (disturbed R h) p s tr out s' := by
  induction he with
  | ret => exact .ret
  | fail => exact .fail
  | call hc _ ih => exact .call ⟨_, .refl, hc⟩ ih

lemma Ensures.environment {R : σ → σ → Prop} {h : Handler I ε σ} {p : Prog I ε α} {s s' : σ}
    {J : I.Call → Prop} {Q : Except ε α → Prop}
    (hp : Ensures (disturbed R h) (fun e => J e.call) p (fun out _ => Q out) s) (hr : R s s') :
    Ensures (disturbed R h) (fun e => J e.call) p (fun out _ => Q out) s' := by
  cases p with
  | ret a => exact hp
  | fail e => exact hp
  | call c k =>
    rintro r t ⟨u, hu, hc⟩
    exact hp r t ⟨u, .head hr hu, hc⟩

lemma Ensures.answered {R : σ → σ → Prop} {h : Handler I ε σ} {J : Answered I ε σ → Prop}
    {c : I.Call}
    {k : Reply I ε c → Prog I ε α} {Q : Except ε α → σ → Prop} {s s' : σ} {r : Reply I ε c}
    (hp : Ensures (disturbed R h) J (.call c k) Q s) (hc : h s c r s') :
    J ⟨c, r, s, s'⟩ ∧ Ensures (disturbed R h) J (k r) Q s' :=
  hp r s' ⟨s, .refl, hc⟩

end EnvoyGatewayExtension.Effects
