import EnvoyGatewayExtension.Effects.Execution

namespace EnvoyGatewayExtension.Effects

variable {I : Interface} {ε α β σ : Type}

def Completes (f : σ → (c : I.Call) → Reply I ε c × σ) (p : Prog I ε α) (Q : α → σ → Prop) (s : σ) :
    Prop :=
  ∃ a t, serve f p s = (.ok a, t) ∧ Q a t

namespace Completes

variable {f : σ → (c : I.Call) → Reply I ε c × σ} {p : Prog I ε α} {Q : α → σ → Prop}
  {R : β → σ → Prop} {s : σ}

lemma ret {a : α} (hq : Q a s) : Completes f (.ret a) Q s := ⟨a, s, rfl, hq⟩

lemma request {c : I.Call} {a : I.Result c} {P : I.Result c → σ → Prop} (hc : (f s c).1 = .ok a)
    (hq : P a (f s c).2) : Completes f (Prog.request c) P s :=
  ⟨a, _, by rw [serve_request, ← hc], hq⟩

lemma served_bind {g : α → Prog I ε β} {a : α} {t : σ} (hp : serve f p s = (.ok a, t))
    (hg : Completes f (g a) R t) : Completes f (p >>= g) R s := by
  obtain ⟨b, u, hu, hr⟩ := hg
  exact ⟨b, u, (serve_bind_ok hp g).trans hu, hr⟩

lemma bind {g : α → Prog I ε β} (hp : Completes f p Q s)
    (hg : ∀ a t, Q a t → Completes f (g a) R t) : Completes f (p >>= g) R s := by
  obtain ⟨a, t, ht, hq⟩ := hp
  exact served_bind ht (hg a t hq)

lemma ofExcept_bind {x : Except ε α} {a : α} {g : α → Prog I ε β} (hx : x = .ok a)
    (hg : Completes f (g a) R s) : Completes f (Prog.ofExcept x >>= g) R s := by
  rw [hx]
  exact hg

lemma attempt_bind {g : Except ε α → Prog I ε β}
    (hg : Completes f (g (serve f p s).1) R (serve f p s).2) :
    Completes f (p.attempt >>= g) R s := by
  obtain ⟨b, t, ht, hr⟩ := hg
  exact ⟨b, t, (serve_attempt_bind p g s).trans ht, hr⟩

lemma mapFault {g : ε → ε} (hp : Completes f p Q s) : Completes f (p.mapFault g) Q s := by
  obtain ⟨a, t, ht, hq⟩ := hp
  exact ⟨a, t, by rw [serve_mapFault, ht]; rfl, hq⟩

lemma forM {g : α → Prog I ε PUnit} (hg : ∀ a t, Completes f (g a) (fun _ _ => True) t)
    (xs : List α) : Completes f (xs.forM g) (fun _ _ => True) s := by
  induction xs generalizing s with
  | nil => exact ret trivial
  | cons a xs ih => exact bind (hg a s) fun _ _ _ => ih

end Completes

end EnvoyGatewayExtension.Effects
