import EnvoyGatewayExtension.Effects.Triples

namespace EnvoyGatewayExtension.Effects

variable {I : Interface} {ε α β σ τ : Type}

inductive Failed (h : Handler I ε σ) (p : Prog I ε α) : σ → σ → Prop
  | refl {s} : Failed h p s s
  | tail {s t u tr e} : Failed h p s t → Exec h p t tr (.error e) u → Failed h p s u

lemma Ensures.and {h : Handler I ε σ} {J : Answered I ε σ → Prop} {p : Prog I ε α}
    {Q Q' : Except ε α → σ → Prop} {s : σ} (hp : Ensures h J p Q s) (hp' : Ensures h J p Q' s) :
    Ensures h J p (fun out t => Q out t ∧ Q' out t) s := by
  induction p generalizing s with
  | ret a => exact ⟨hp, hp'⟩
  | fail e => exact ⟨hp, hp'⟩
  | call c k ih =>
    intro r t hc
    exact ⟨(hp r t hc).1, ih r (hp r t hc).2 (hp' r t hc).2⟩

lemma Ensures.of_exec {h : Handler I ε σ} {p : Prog I ε α} {Q : Except ε α → σ → Prop} {s : σ}
    (hp : ∀ tr out t, Exec h p s tr out t → Q out t) : Ensures h (fun _ => True) p Q s := by
  induction p generalizing s with
  | ret a => exact hp [] _ _ .ret
  | fail e => exact hp [] _ _ .fail
  | call c k ih => exact fun r t hc => ⟨trivial, ih r fun tr out u he => hp _ out u (.call hc he)⟩

def inTurn (first rest : Option (τ → τ)) : Option (τ → τ) :=
  first.bind fun f => rest.map fun g v => g (f v)

lemma mem_inTurn {first rest : Option (τ → τ)} {k : τ → τ} :
    k ∈ inTurn first rest ↔ ∃ f g, f ∈ first ∧ g ∈ rest ∧ k = fun v => g (f v) := by
  simp only [inTurn, Option.mem_def, Option.bind_eq_some_iff, Option.map_eq_some_iff]
  constructor
  · rintro ⟨f, hf, g, hg, rfl⟩
    exact ⟨f, g, hf, hg, rfl⟩
  · rintro ⟨f, g, hf, hg, rfl⟩
    exact ⟨f, hf, g, hg, rfl⟩

/-- Wherever `p` stops, the planned change of what is seen is still the same one; where `p`
succeeds, it has been made. Without a plan `p` cannot succeed. -/
def Pursues (h : Handler I ε σ) (K : σ → Prop) (view : σ → τ) (plan : Option (τ → τ))
    (p : Prog I ε α) : Prop :=
  ∀ s, K s → Ensures h (fun _ => True) p (fun out t => K t ∧ (∀ f ∈ plan, f (view t) = f (view s)) ∧
    ∀ a, out = .ok a → ∃ f ∈ plan, view t = f (view s)) s

namespace Pursues

variable {h : Handler I ε σ} {K : σ → Prop} {view : σ → τ} {plan : Option (τ → τ)} {f : τ → τ}
  {p : Prog I ε α} {s t u : σ}

lemma failed (hp : Pursues h K view plan p) (hs : K s) (hf : Failed h p s t) :
    K t ∧ ∀ f ∈ plan, f (view t) = f (view s) := by
  induction hf with
  | refl => exact ⟨hs, fun _ _ => rfl⟩
  | tail _ he ih =>
    obtain ⟨hK, hkept, _⟩ := ((hp _ ih.1).sound he).1
    exact ⟨hK, fun f hf => (hkept f hf).trans (ih.2 f hf)⟩

lemma retried {tr : List (Answered I ε σ)} {a : α} (hp : Pursues h K view plan p) (hs : K s)
    (hf : Failed h p s t)
    (he : Exec h p t tr (.ok a) u) : ∃ f ∈ plan, view u = f (view s) ∧ f (view u) = view u := by
  obtain ⟨hK, hkept⟩ := hp.failed hs hf
  obtain ⟨_, hlast, hdone⟩ := ((hp t hK).sound he).1
  obtain ⟨f, hm, hu⟩ := hdone a rfl
  have hreached : view u = f (view s) := hu.trans (hkept f hm)
  refine ⟨f, hm, hreached, ?_⟩
  rw [hlast f hm, hkept f hm, hreached]

lemma fail {e : ε} : Pursues h K view plan (.fail e : Prog I ε α) :=
  fun _ hs => ⟨hs, fun _ _ => rfl, fun _ he => by cases he⟩

lemma mapFault {g : ε → ε} (hp : Pursues h K view plan p) :
    Pursues h K view plan (p.mapFault g) := by
  intro s hs
  refine Ensures.mapFault_iff.mpr
    ((hp s hs).mono (fun _ hj => hj) fun out t ht => ⟨ht.1, ht.2.1, fun a ha => ?_⟩)
  cases out with
  | ok b => exact ht.2.2 b rfl
  | error e => cases ha

lemma of_keeps (hp : ∀ s, K s → Ensures h (fun _ => True) p (fun _ t => K t ∧ view t = view s) s) :
    Pursues h K view (some id) p := by
  intro s hs
  refine (hp s hs).mono (fun _ hj => hj) fun out t ht => ⟨ht.1, ?_, fun _ _ => ⟨id, rfl, ht.2⟩⟩
  rintro f ⟨⟩
  exact ht.2

lemma of_made (hf : ∀ v, f (f v) = f v) (hp : ∀ s, K s → Ensures h (fun _ => True) p
      (fun out t => K t ∧ (view t = f (view s) ∨ view t = view s ∧ ∃ e, out = .error e)) s) :
    Pursues h K view (some f) p := by
  intro s hs
  refine (hp s hs).mono (fun _ hj => hj) fun out t ht => ?_
  obtain ⟨hK, hmade | ⟨hsame, e, rfl⟩⟩ := ht
  · refine ⟨hK, ?_, fun _ _ => ⟨f, rfl, hmade⟩⟩
    rintro g ⟨⟩
    rw [hmade, hf]
  · refine ⟨hK, ?_, fun _ he => by cases he⟩
    rintro g ⟨⟩
    rw [hsame]

lemma read {x : Option α} {plan : α → Option (τ → τ)} {q : α → Prog I ε β}
    (hp : ∀ s, K s → Ensures h (fun _ => True) p (fun out t => (K t ∧ view t = view s) ∧
      ∀ a, out = .ok a → x = some a) s)
    (hq : ∀ a, x = some a → Pursues h K view (plan a) (q a)) :
    Pursues h K view (x.bind plan) (p >>= q) := by
  intro s hs
  refine Ensures.bind (hp s hs) (fun a t ht => ?_) fun e t ht => ?_
  · obtain ⟨⟨hK, hv⟩, ha⟩ := ht
    have hx := ha a rfl
    rw [hx, Option.bind_some, ← hv]
    exact hq a hx t hK
  · refine ⟨ht.1.1, fun f _ => by rw [ht.1.2], fun _ he => by cases he⟩

lemma ofExcept_bind {x : Except ε α} {plan : α → Option (τ → τ)} {q : α → Prog I ε β}
    (hq : ∀ a, x = .ok a → Pursues h K view (plan a) (q a)) :
    Pursues h K view (x.toOption.bind plan) (Prog.ofExcept x >>= q) := by
  cases x with
  | error e => exact fail
  | ok a => exact hq a rfl

lemma congr {L : σ → Prop} {g : τ → τ} (hp : Pursues h K view (some f) p)
    (hkept : ∀ s, L s → Ensures h (fun _ => True) p (fun _ t => L t) s)
    (hL : ∀ s, L s → K s ∧ g (view s) = f (view s)) : Pursues h L view (some g) p := by
  intro s hs
  refine ((hp s (hL s hs).1).and (hkept s hs)).mono (fun _ hj => hj) fun out t ht =>
    ⟨ht.2, ?_, fun a ha => ?_⟩
  · rintro k ⟨⟩
    rw [(hL t ht.2).2, (hL s hs).2]
    exact ht.1.2.1 f rfl
  · obtain ⟨_, ⟨⟩, hv⟩ := ht.1.2.2 a ha
    exact ⟨g, rfl, hv.trans (hL s hs).2.symm⟩

lemma prepare {L : σ → Prop} {q : α → Prog I ε β} (hp : ∀ s, K s → Ensures h (fun _ => True) p
      (fun out t => K t ∧ (∀ f ∈ plan, f (view t) = f (view s)) ∧ ∀ a, out = .ok a → L t) s)
    (hL : ∀ t, L t → K t) (hq : ∀ a, Pursues h L view plan (q a)) :
    Pursues h K view plan (p >>= q) := by
  intro s hs
  refine Ensures.bind (hp s hs) (fun a t ht => ?_) fun e t ht =>
    ⟨ht.1, ht.2.1, fun _ he => by cases he⟩
  refine (hq a t (ht.2.2 a rfl)).mono (fun _ hj => hj) fun out u hu =>
    ⟨hL u hu.1, ?_, fun b hb => ?_⟩
  · exact fun f hf => (hu.2.1 f hf).trans (ht.2.1 f hf)
  · obtain ⟨f, hf, hv⟩ := hu.2.2 b hb
    exact ⟨f, hf, hv.trans (ht.2.1 f hf)⟩

lemma skip {q : α → Prog I ε β}
    (hp : ∀ s, K s → Ensures h (fun _ => True) p (fun _ t => K t ∧ view t = view s) s)
    (hq : ∀ a, Pursues h K view plan (q a)) : Pursues h K view plan (p >>= q) := by
  refine prepare (fun s hs => (hp s hs).mono (fun _ hj => hj) fun out t ht => ?_)
    (fun _ ht => ht) hq
  exact ⟨ht.1, fun f _ => congrArg f ht.2, fun _ _ => ht.1⟩

lemma bind {rest : Option (τ → τ)} {q : α → Prog I ε β} (hp : Pursues h K view plan p)
    (hq : ∀ a, Pursues h K view rest (q a)) (hidem : ∀ f ∈ plan, ∀ v, f (f v) = f v)
    (hcomm : ∀ f ∈ plan, ∀ g ∈ rest, ∀ v, g (f v) = f (g v)) :
    Pursues h K view (inTurn plan rest) (p >>= q) := by
  intro s hs
  refine Ensures.bind (hp s hs) (fun a t ht => ?_) fun e t ht => ?_
  · obtain ⟨hK, _, hdone⟩ := ht
    obtain ⟨f, hf, hv⟩ := hdone a rfl
    refine (hq a t hK).mono (fun _ hj => hj) fun out u hu => ⟨hu.1, ?_, fun b hb => ?_⟩
    · intro k hk
      obtain ⟨f', g, hf', hg, rfl⟩ := mem_inTurn.mp hk
      cases hf.symm.trans hf'
      calc g (f (view u)) = f (g (view u)) := hcomm f hf g hg _
        _ = f (g (view t)) := congrArg f (hu.2.1 g hg)
        _ = g (f (view t)) := (hcomm f hf g hg _).symm
        _ = g (f (view s)) := by rw [hv, hidem f hf]
    · obtain ⟨g, hg, hgu⟩ := hu.2.2 b hb
      exact ⟨_, mem_inTurn.mpr ⟨f, g, hf, hg, rfl⟩, hgu.trans (congrArg g hv)⟩
  · refine ⟨ht.1, ?_, fun _ he => by cases he⟩
    intro k hk
    obtain ⟨f, g, hf, _, rfl⟩ := mem_inTurn.mp hk
    exact congrArg g (ht.2.1 f hf)

end Pursues

end EnvoyGatewayExtension.Effects
