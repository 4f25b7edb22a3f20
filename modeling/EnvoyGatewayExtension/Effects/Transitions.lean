import Mathlib.Tactic

namespace EnvoyGatewayExtension.Effects

variable {σ α : Type}

def runSteps (next : σ → α → Option σ) (s : σ) : List α → Option σ
  | [] => some s
  | a :: as => (next s a).bind (fun t => runSteps next t as)

inductive Reach (next : σ → α → Option σ) (A : σ → α → Prop) (s : σ) : σ → Prop
  | refl : Reach next A s s
  | step {t u a} : Reach next A s t → A t a → next t a = some u → Reach next A s u

namespace Reach

variable {next : σ → α → Option σ} {A B : σ → α → Prop} {s t u : σ}

lemma invariant {J : σ → Prop} (h : Reach next A s t)
    (hJ : ∀ t a u, A t a → next t a = some u → J t → J u) (hs : J s) : J t := by
  induction h with
  | refl => exact hs
  | step _ ha hn ih => exact hJ _ _ _ ha hn ih

lemma head {a : α} (ha : A s a) (hn : next s a = some t) (h : Reach next A t u) :
    Reach next A s u := by
  induction h with
  | refl => exact .step .refl ha hn
  | step _ hb hm ih => exact .step ih hb hm

lemma of_runSteps {as : List α} (h : runSteps next s as = some t) (hA : ∀ a ∈ as, ∀ s, A s a) :
    Reach next A s t := by
  induction as generalizing s with
  | nil =>
    cases h
    exact .refl
  | cons a as ih =>
    obtain ⟨u, hu, hr⟩ := Option.bind_eq_some_iff.mp h
    exact head (hA a List.mem_cons_self s) hu (ih hr fun b hb => hA b (List.mem_cons_of_mem a hb))

end Reach

/-- A run with the actions it took, the latest first. -/
inductive Path (next : σ → α → Option σ) (A : σ → α → Prop) (s : σ) : List α → σ → Prop
  | nil : Path next A s [] s
  | step {as : List α} {a : α} {t u : σ} :
      Path next A s as t → A t a → next t a = some u → Path next A s (a :: as) u

namespace Path

variable {next : σ → α → Option σ} {A B : σ → α → Prop} {s t : σ} {as : List α}

lemma invariant {J : σ → Prop} (h : Path next A s as t)
    (hJ : ∀ t a u, A t a → next t a = some u → J t → J u) (hs : J s) : J t := by
  induction h with
  | nil => exact hs
  | step _ ha hn ih => exact hJ _ _ _ ha hn ih

lemma reach (h : Path next A s as t) (hA : ∀ s a, A s a → B s a) : Reach next B s t := by
  induction h with
  | nil => exact .refl
  | step _ ha hn ih => exact .step ih (hA _ _ ha) hn

lemma length_le {K : ℕ → σ → Prop} {n : ℕ} (h : Path next A s as t)
    (hK : ∀ n t a u, A t a → next t a = some u → K n t → ∃ m < n, K m u) (hs : K n s) :
    as.length ≤ n := by
  suffices hleft : ∃ m, K m t ∧ as.length + m ≤ n by
    obtain ⟨m, _, hm⟩ := hleft
    omega
  induction h with
  | nil => exact ⟨n, hs, by simp⟩
  | step _ ha hn ih =>
    obtain ⟨m, hm, hle⟩ := ih
    obtain ⟨l, hl, hk⟩ := hK m _ _ _ ha hn hm
    refine ⟨l, hk, ?_⟩
    rw [List.length_cons]
    omega

end Path

end EnvoyGatewayExtension.Effects
