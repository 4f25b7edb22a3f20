import EnvoyGatewayExtension.Effects.Execution
import Mathlib.Logic.Relation

namespace EnvoyGatewayExtension.Effects

variable {I : Interface} {ε α β σ : Type}

/-- Every answered call of `p` from `s` satisfies `J`, and every outcome satisfies `Q`. -/
def Ensures (h : Handler I ε σ) (J : Answered I ε σ → Prop) :
    Prog I ε α → (Except ε α → σ → Prop) → σ → Prop
  | .ret a, Q, s => Q (.ok a) s
  | .fail e, Q, s => Q (.error e) s
  | .call c k, Q, s => ∀ r s', h s c r s' → J ⟨c, r, s, s'⟩ ∧ Ensures h J (k r) Q s'

namespace Ensures

variable {h : Handler I ε σ} {J J' : Answered I ε σ → Prop} {s s' : σ}

@[simp] lemma ret_iff {a : α} {Q : Except ε α → σ → Prop} :
    Ensures h J (.ret a) Q s ↔ Q (.ok a) s := Iff.rfl

@[simp] lemma fail_iff {e : ε} {Q : Except ε α → σ → Prop} :
    Ensures h J (.fail e) Q s ↔ Q (.error e) s := Iff.rfl

lemma ofExcept_iff {x : Except ε α} {Q : Except ε α → σ → Prop} :
    Ensures h J (Prog.ofExcept x) Q s ↔ Q x s := by
  cases x <;> rfl

lemma request_iff {c : I.Call} {Q : Reply I ε c → σ → Prop} :
    Ensures h J (Prog.request c) Q s ↔ ∀ r s', h s c r s' → J ⟨c, r, s, s'⟩ ∧ Q r s' := by
  simp only [Prog.request, Ensures, ofExcept_iff]

lemma bind_iff {p : Prog I ε α} {f : α → Prog I ε β} {Q : Except ε β → σ → Prop} :
    Ensures h J (p >>= f) Q s ↔
      Ensures h J p (fun out t => Ensures h J (Prog.ofExcept out >>= f) Q t) s := by
  induction p generalizing s with
  | ret a => rfl
  | fail e => rfl
  | call c k ih =>
    simp only [Prog.call_bind, Ensures]
    exact forall₃_congr fun r t _ => and_congr_right fun _ => ih r

lemma attempt_iff {p : Prog I ε α} {Q : Except ε (Except ε α) → σ → Prop} :
    Ensures h J p.attempt Q s ↔ Ensures h J p (fun out t => Q (.ok out) t) s := by
  induction p generalizing s with
  | ret a => rfl
  | fail e => rfl
  | call c k ih =>
    simp only [Prog.attempt_call, Ensures]
    exact forall₃_congr fun r t _ => and_congr_right fun _ => ih r

lemma mapFault_iff {p : Prog I ε α} {f : ε → ε} {Q : Except ε α → σ → Prop} :
    Ensures h J (p.mapFault f) Q s ↔ Ensures h J p (fun out t => Q (out.mapError f) t) s := by
  induction p generalizing s with
  | ret a => rfl
  | fail e => rfl
  | call c k ih =>
    simp only [Prog.mapFault_call, Ensures]
    exact forall₃_congr fun r t _ => and_congr_right fun _ => ih r

lemma mono {p : Prog I ε α} {Q Q' : Except ε α → σ → Prop} (hp : Ensures h J p Q s)
    (hJ : ∀ e, J e → J' e) (hQ : ∀ out t, Q out t → Q' out t) : Ensures h J' p Q' s := by
  induction p generalizing s with
  | ret a => exact hQ _ s hp
  | fail e => exact hQ _ s hp
  | call c k ih =>
    intro r t hc
    obtain ⟨hj, hk⟩ := hp r t hc
    exact ⟨hJ _ hj, ih r hk⟩

lemma bind {p : Prog I ε α} {f : α → Prog I ε β} {P : Except ε α → σ → Prop}
    {Q : Except ε β → σ → Prop} (hp : Ensures h J p P s)
    (hok : ∀ a t, P (.ok a) t → Ensures h J (f a) Q t)
    (herr : ∀ e t, P (.error e) t → Q (.error e) t) : Ensures h J (p >>= f) Q s := by
  rw [bind_iff]
  refine hp.mono (fun _ hj => hj) ?_
  intro out t ht
  cases out with
  | ok a => exact hok a t ht
  | error e => exact herr e t ht

lemma of_uses {p : Prog I ε α} {C : I.Call → Prop} {K : σ → Prop} (hu : p.Uses C)
    (hK : ∀ s c r s', C c → h s c r s' → K s → J ⟨c, r, s, s'⟩ ∧ K s') (hs : K s) :
    Ensures h J p (fun _ t => K t) s := by
  induction p generalizing s with
  | ret a => exact hs
  | fail e => exact hs
  | call c k ih =>
    intro r t hc
    obtain ⟨hj, hk⟩ := hK s c r t hu.1 hc hs
    exact ⟨hj, ih r (hu.2 r) hk⟩

lemma forM {f : α → Prog I ε PUnit} {K : σ → Prop} (xs : List α)
    (hf : ∀ a ∈ xs, ∀ t, K t → Ensures h J (f a) (fun _ u => K u) t) (hs : K s) :
    Ensures h J (xs.forM f) (fun _ t => K t) s := by
  induction xs generalizing s with
  | nil => exact hs
  | cons a xs ih =>
    refine bind (hf a List.mem_cons_self s hs) (fun _ t ht => ?_) fun _ _ ht => ht
    exact ih (fun b hb => hf b (List.mem_cons_of_mem a hb)) ht

lemma forM_ok {f : α → Prog I ε PUnit} (xs : List α)
    (hf : ∀ a t, Ensures h J (f a) (fun out _ => out = .ok ⟨⟩) t) :
    Ensures h J (xs.forM f) (fun out _ => out = .ok ⟨⟩) s := by
  induction xs generalizing s with
  | nil => rfl
  | cons a xs ih => exact bind (hf a s) (fun _ _ _ => ih) fun _ _ he => by cases he

lemma forM_each {f : α → Prog I ε PUnit} {R : σ → σ → Prop} {G : α → σ → Prop} (xs : List α)
    (hG : ∀ a t u, R t u → G a t → G a u)
    (hf : ∀ a ∈ xs, ∀ t, Relation.ReflTransGen R s t →
      Ensures h J (f a) (fun out u => Relation.ReflTransGen R t u ∧ (out = .ok ⟨⟩ → G a u)) t) :
    Ensures h J (xs.forM f)
      (fun out u => Relation.ReflTransGen R s u ∧ (out = .ok ⟨⟩ → ∀ a ∈ xs, G a u)) s := by
  have hkept : ∀ a t u, Relation.ReflTransGen R t u → G a t → G a u := by
    intro a t u htu hg
    induction htu with
    | refl => exact hg
    | tail _ hr ih => exact hG a _ _ hr ih
  induction xs generalizing s with
  | nil => exact ⟨.refl, by simp⟩
  | cons a xs ih =>
    refine bind (hf a List.mem_cons_self s .refl) (fun _ t ht => ?_) fun e t ht =>
      ⟨ht.1, fun he => nomatch he⟩
    have htail := ih fun b hb u hu => hf b (List.mem_cons_of_mem a hb) u (ht.1.trans hu)
    refine htail.mono (fun _ hj => hj) fun out u hu => ⟨ht.1.trans hu.1, fun ho => ?_⟩
    exact List.forall_mem_cons.mpr ⟨hkept a t u hu.1 (ht.2 rfl), hu.2 ho⟩

lemma sound {p : Prog I ε α} {Q : Except ε α → σ → Prop} {tr : List (Answered I ε σ)}
    {out : Except ε α} (hp : Ensures h J p Q s) (he : Exec h p s tr out s') :
    Q out s' ∧ ∀ e ∈ tr, J e := by
  induction he with
  | ret => exact ⟨hp, by simp⟩
  | fail => exact ⟨hp, by simp⟩
  | call hc _ ih =>
    obtain ⟨hj, hk⟩ := hp _ _ hc
    obtain ⟨hq, ht⟩ := ih hk
    exact ⟨hq, List.forall_mem_cons.mpr ⟨hj, ht⟩⟩

lemma exists_exec {f : σ → (c : I.Call) → Reply I ε c × σ} {p : Prog I ε α}
    {Q : Except ε α → σ → Prop} (hf : ∀ s c, h s c (f s c).1 (f s c).2)
    (hp : Ensures (fun s c r s' => (r, s') = f s c) J p Q s) :
    ∃ tr out s', Exec h p s tr out s' ∧ Q out s' := by
  obtain ⟨tr, he⟩ := exec_serve hf p s
  obtain ⟨tr', he'⟩ := exec_serve (h := fun s c r s' => (r, s') = f s c) (f := f)
    (fun _ _ => rfl) p s
  exact ⟨tr, _, _, he, (hp.sound he').1⟩

end Ensures

end EnvoyGatewayExtension.Effects
