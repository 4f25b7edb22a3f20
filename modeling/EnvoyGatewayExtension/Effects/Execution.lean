import EnvoyGatewayExtension.Effects.Programs

namespace EnvoyGatewayExtension.Effects

variable {I : Interface} {ε α β σ : Type}

abbrev Handler (I : Interface) (ε σ : Type) : Type := σ → (c : I.Call) → Reply I ε c → σ → Prop

structure Answered (I : Interface) (ε σ : Type) where
  call : I.Call
  reply : Reply I ε call
  before : σ
  after : σ

inductive Exec (h : Handler I ε σ) :
    Prog I ε α → σ → List (Answered I ε σ) → Except ε α → σ → Prop
  | ret {a s} : Exec h (.ret a) s [] (.ok a) s
  | fail {e s} : Exec h (.fail e) s [] (.error e) s
  | call {c k r s s₁ s₂ tr out} : h s c r s₁ → Exec h (k r) s₁ tr out s₂ →
      Exec h (.call c k) s (⟨c, r, s, s₁⟩ :: tr) out s₂

def serve (f : σ → (c : I.Call) → Reply I ε c × σ) : Prog I ε α → σ → Except ε α × σ
  | .ret a, s => (.ok a, s)
  | .fail e, s => (.error e, s)
  | .call c k, s => serve f (k (f s c).1) (f s c).2

section Serve

variable {f : σ → (c : I.Call) → Reply I ε c × σ}

lemma serve_ofExcept (x : Except ε α) (s : σ) : serve f (Prog.ofExcept x) s = (x, s) := by
  cases x <;> rfl

lemma serve_request (c : I.Call) (s : σ) : serve f (Prog.request c) s = f s c := by
  simp only [Prog.request, serve, serve_ofExcept]

lemma serve_bind_ok {p : Prog I ε α} {s s' : σ} {a : α} (hp : serve f p s = (.ok a, s'))
    (g : α → Prog I ε β) : serve f (p >>= g) s = serve f (g a) s' := by
  induction p generalizing s with
  | ret b =>
    cases hp
    rfl
  | fail e => cases hp
  | call c k ih => exact ih _ hp

lemma serve_bind_error {p : Prog I ε α} {s s' : σ} {e : ε} (hp : serve f p s = (.error e, s'))
    (g : α → Prog I ε β) : serve f (p >>= g) s = (.error e, s') := by
  induction p generalizing s with
  | ret b => cases hp
  | fail e =>
    cases hp
    rfl
  | call c k ih => exact ih _ hp

lemma serve_attempt_bind (p : Prog I ε α) (g : Except ε α → Prog I ε β) (s : σ) :
    serve f (p.attempt >>= g) s = serve f (g (serve f p s).1) (serve f p s).2 := by
  induction p generalizing s with
  | ret a => rfl
  | fail e => rfl
  | call c k ih => exact ih _ _

lemma serve_mapFault (p : Prog I ε α) (g : ε → ε) (s : σ) :
    serve f (p.mapFault g) s = ((serve f p s).1.mapError g, (serve f p s).2) := by
  induction p generalizing s with
  | ret a => rfl
  | fail e => rfl
  | call c k ih => exact ih _ _

lemma exec_serve {h : Handler I ε σ} (hf : ∀ s c, h s c (f s c).1 (f s c).2) (p : Prog I ε α)
    (s : σ) : ∃ tr, Exec h p s tr (serve f p s).1 (serve f p s).2 := by
  induction p generalizing s with
  | ret a => exact ⟨[], .ret⟩
  | fail e => exact ⟨[], .fail⟩
  | call c k ih =>
    obtain ⟨tr, he⟩ := ih (f s c).1 (f s c).2
    exact ⟨_, .call (hf s c) he⟩

end Serve

namespace Exec

variable {h : Handler I ε σ} {s s' : σ} {tr : List (Answered I ε σ)}

@[simp] lemma ret_iff {a : α} {out : Except ε α} :
    Exec h (.ret a) s tr out s' ↔ tr = [] ∧ out = .ok a ∧ s' = s := by
  constructor
  · rintro ⟨⟩
    exact ⟨rfl, rfl, rfl⟩
  · rintro ⟨rfl, rfl, rfl⟩
    exact .ret

@[simp] lemma fail_iff {e : ε} {out : Except ε α} :
    Exec h (.fail e) s tr out s' ↔ tr = [] ∧ out = .error e ∧ s' = s := by
  constructor
  · rintro ⟨⟩
    exact ⟨rfl, rfl, rfl⟩
  · rintro ⟨rfl, rfl, rfl⟩
    exact .fail

lemma call_iff {c : I.Call} {k : Reply I ε c → Prog I ε α} {out : Except ε α} :
    Exec h (.call c k) s tr out s' ↔
      ∃ r s₁ tr', h s c r s₁ ∧ tr = ⟨c, r, s, s₁⟩ :: tr' ∧ Exec h (k r) s₁ tr' out s' := by
  constructor
  · rintro ⟨⟩
    exact ⟨_, _, _, ‹_›, rfl, ‹_›⟩
  · rintro ⟨r, s₁, tr', hc, rfl, he⟩
    exact .call hc he

lemma ofExcept_iff {x out : Except ε α} :
    Exec h (Prog.ofExcept x) s tr out s' ↔ tr = [] ∧ out = x ∧ s' = s := by
  cases x <;> simp

lemma request_iff {c : I.Call} {out : Reply I ε c} :
    Exec h (Prog.request c) s tr out s' ↔ h s c out s' ∧ tr = [⟨c, out, s, s'⟩] := by
  simp only [Prog.request, call_iff, ofExcept_iff]
  constructor
  · rintro ⟨r, s₁, tr', hc, rfl, rfl, rfl, rfl⟩
    exact ⟨hc, rfl⟩
  · rintro ⟨hc, rfl⟩
    exact ⟨out, s', [], hc, rfl, rfl, rfl, rfl⟩

lemma bind_iff {p : Prog I ε α} {f : α → Prog I ε β} {out : Except ε β} :
    Exec h (p >>= f) s tr out s' ↔
      (∃ e, out = .error e ∧ Exec h p s tr (.error e) s') ∨
      ∃ a s₁ tr₁ tr₂, tr = tr₁ ++ tr₂ ∧ Exec h p s tr₁ (.ok a) s₁ ∧ Exec h (f a) s₁ tr₂ out s' := by
  induction p generalizing s tr with
  | ret a =>
    constructor
    · intro he
      exact Or.inr ⟨a, s, [], tr, rfl, .ret, he⟩
    · rintro (⟨e, rfl, ⟨⟩⟩ | ⟨b, s₁, tr₁, tr₂, rfl, ⟨⟩, he⟩)
      exact he
  | fail e =>
    constructor
    · rintro ⟨⟩
      exact Or.inl ⟨e, rfl, .fail⟩
    · rintro (⟨e', rfl, ⟨⟩⟩ | ⟨b, s₁, tr₁, tr₂, rfl, ⟨⟩, he⟩)
      exact .fail
  | call c k ih =>
    rw [Prog.call_bind, call_iff]
    constructor
    · rintro ⟨r, s₁, tr', hc, rfl, he⟩
      rcases (ih r).mp he with ⟨e, rfl, he'⟩ | ⟨a, s₂, tr₁, tr₂, rfl, h₁, h₂⟩
      · exact Or.inl ⟨e, rfl, .call hc he'⟩
      · exact Or.inr ⟨a, s₂, _, tr₂, rfl, .call hc h₁, h₂⟩
    · rintro (⟨e, rfl, he⟩ | ⟨a, s₂, tr₁, tr₂, rfl, h₁, h₂⟩)
      · obtain ⟨r, s₁, tr', hc, rfl, he'⟩ := call_iff.mp he
        exact ⟨r, s₁, tr', hc, rfl, (ih r).mpr (Or.inl ⟨e, rfl, he'⟩)⟩
      · obtain ⟨r, s₁, tr', hc, rfl, he⟩ := call_iff.mp h₁
        exact ⟨r, s₁, tr' ++ tr₂, hc, rfl, (ih r).mpr (Or.inr ⟨a, s₂, tr', tr₂, rfl, he, h₂⟩)⟩

lemma bind_ok_iff {p : Prog I ε α} {f : α → Prog I ε β} {b : β} :
    Exec h (p >>= f) s tr (.ok b) s' ↔
      ∃ a s₁ tr₁ tr₂, tr = tr₁ ++ tr₂ ∧ Exec h p s tr₁ (.ok a) s₁ ∧
      Exec h (f a) s₁ tr₂ (.ok b) s' := by
  rw [bind_iff]
  constructor
  · rintro (⟨e, hb, _⟩ | he)
    · cases hb
    · exact he
  · exact Or.inr

lemma attempt_iff {p : Prog I ε α} {out : Except ε (Except ε α)} :
    Exec h p.attempt s tr out s' ↔ ∃ x, out = .ok x ∧ Exec h p s tr x s' := by
  induction p generalizing s tr with
  | ret a => simp only [Prog.attempt_ret, ret_iff]; aesop
  | fail e => simp only [Prog.attempt_fail, ret_iff, fail_iff]; aesop
  | call c k ih =>
    simp only [Prog.attempt_call, call_iff, ih]
    constructor
    · rintro ⟨r, s₁, tr', hc, rfl, x, rfl, he⟩
      exact ⟨x, rfl, r, s₁, tr', hc, rfl, he⟩
    · rintro ⟨x, rfl, r, s₁, tr', hc, rfl, he⟩
      exact ⟨r, s₁, tr', hc, rfl, x, rfl, he⟩

lemma mapFault_iff {p : Prog I ε α} {f : ε → ε} {out : Except ε α} :
    Exec h (p.mapFault f) s tr out s' ↔ ∃ x, out = x.mapError f ∧ Exec h p s tr x s' := by
  induction p generalizing s tr with
  | ret a => simp only [Prog.mapFault_ret, ret_iff]; aesop
  | fail e => simp only [Prog.mapFault_fail, fail_iff]; aesop
  | call c k ih =>
    simp only [Prog.mapFault_call, call_iff, ih]
    constructor
    · rintro ⟨r, s₁, tr', hc, rfl, x, rfl, he⟩
      exact ⟨x, rfl, r, s₁, tr', hc, rfl, he⟩
    · rintro ⟨x, rfl, r, s₁, tr', hc, rfl, he⟩
      exact ⟨r, s₁, tr', hc, rfl, x, rfl, he⟩

lemma mapFault_ok_iff {p : Prog I ε α} {f : ε → ε} {a : α} :
    Exec h (p.mapFault f) s tr (.ok a) s' ↔ Exec h p s tr (.ok a) s' := by
  rw [mapFault_iff]
  constructor
  · rintro ⟨x, hx, he⟩
    cases x with
    | error e => cases hx
    | ok b =>
      cases hx
      exact he
  · intro he
    exact ⟨.ok a, rfl, he⟩

lemma attempt_ok_iff {p : Prog I ε α} {x : Except ε α} :
    Exec h p.attempt s tr (.ok x) s' ↔ Exec h p s tr x s' := by
  rw [attempt_iff]
  constructor
  · rintro ⟨y, hy, he⟩
    cases hy
    exact he
  · intro he
    exact ⟨x, rfl, he⟩

lemma calls_used {p : Prog I ε α} {P : I.Call → Prop} {out : Except ε α} (hu : p.Uses P)
    (he : Exec h p s tr out s') : ∀ e ∈ tr, P e.call := by
  induction he with
  | ret => simp
  | fail => simp
  | call hc he ih =>
    intro e hm
    rcases List.mem_cons.mp hm with rfl | hm
    · exact hu.1
    · exact ih (hu.2 _) e hm

lemma mem_bind_right {p : Prog I ε α} {f : α → Prog I ε β} {P : I.Call → Prop} {out : Except ε β}
    {e : Answered I ε σ} (hu : p.Uses P) (he : Exec h (p >>= f) s tr out s') (hm : e ∈ tr)
    (hn : ¬ P e.call) :
    ∃ a s₁ tr₁ tr₂, Exec h p s tr₁ (.ok a) s₁ ∧ Exec h (f a) s₁ tr₂ out s' ∧ e ∈ tr₂ := by
  rcases bind_iff.mp he with ⟨_, _, he₁⟩ | ⟨a, s₁, tr₁, tr₂, rfl, he₁, he₂⟩
  · exact absurd (calls_used hu he₁ e hm) hn
  · rcases List.mem_append.mp hm with hm | hm
    · exact absurd (calls_used hu he₁ e hm) hn
    · exact ⟨a, s₁, tr₁, tr₂, he₁, he₂, hm⟩

lemma mem_bind_left {p : Prog I ε α} {f : α → Prog I ε β} {P : I.Call → Prop} {out : Except ε β}
    {e : Answered I ε σ} (hu : ∀ a, (f a).Uses P) (he : Exec h (p >>= f) s tr out s') (hm : e ∈ tr)
    (hn : ¬ P e.call) : ∃ out₁ s₁ tr₁, Exec h p s tr₁ out₁ s₁ ∧ e ∈ tr₁ := by
  rcases bind_iff.mp he with ⟨err, _, he₁⟩ | ⟨a, s₁, tr₁, tr₂, rfl, he₁, he₂⟩
  · exact ⟨.error err, s', tr, he₁, hm⟩
  · rcases List.mem_append.mp hm with hm | hm
    · exact ⟨.ok a, s₁, tr₁, he₁, hm⟩
    · exact absurd (calls_used (hu a) he₂ e hm) hn

lemma keeps {p : Prog I ε α} {P : I.Call → Prop} {out : Except ε α} {J : σ → Prop}
    (hu : p.Uses P) (hJ : ∀ s c r s', P c → h s c r s' → J s → J s')
    (he : Exec h p s tr out s') (hs : J s) : J s' ∧ ∀ e ∈ tr, J e.after := by
  induction he with
  | ret => exact ⟨hs, by simp⟩
  | fail => exact ⟨hs, by simp⟩
  | @call c k r s s₁ s₂ tr out hc he ih =>
    have h₁ : J s₁ := hJ s c r s₁ hu.1 hc hs
    obtain ⟨h₂, ht⟩ := ih (hu.2 r) h₁
    refine ⟨h₂, ?_⟩
    intro e hm
    rcases List.mem_cons.mp hm with rfl | hm
    · exact h₁
    · exact ht e hm

end Exec

end EnvoyGatewayExtension.Effects
