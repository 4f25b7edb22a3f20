import EnvoyGatewayExtension.Effects.Interference

namespace EnvoyGatewayExtension.Effects

variable {I : Interface} {M ε α β σ : Type}

abbrev Counters (M : Type) : Type := M → ℕ

@[reducible] def counting (I : Interface) (M : Type) : Interface where
  Call := I.Call ⊕ M
  Result := Sum.elim I.Result fun _ => Unit

namespace Prog

def uncounted : Prog I ε α → Prog (counting I M) ε α
  | ret a => ret a
  | fail e => fail e
  | call c k => call (.inl c) fun r => (k r).uncounted

def count (m : M) : Prog (counting I M) ε Unit := @request (counting I M) ε (.inr m)

def plain : Prog (counting I M) ε α → Prog I ε α
  | ret a => ret a
  | fail e => fail e
  | call (.inl c) k => call c fun r => (k r).plain
  | call (.inr _) k => (k (.ok ())).plain

/-- `defer`: what runs after a program, whatever its outcome. -/
def deferred (p : Prog I ε α) (after : Except ε α → Prog I ε Unit) : Prog I ε α := do
  let out ← p.attempt
  after out
  ofExcept out

@[simp] lemma plain_uncounted (p : Prog I ε α) :
    (p.uncounted : Prog (counting I M) ε α).plain = p := by
  induction p with
  | ret a => rfl
  | fail e => rfl
  | call c k ih =>
    change call c _ = call c _
    congr 1
    funext r
    exact ih r

@[simp] lemma plain_bind (p : Prog (counting I M) ε α) (f : α → Prog (counting I M) ε β) :
    (p >>= f).plain = p.plain >>= fun a => (f a).plain := by
  induction p with
  | ret a => rfl
  | fail e => rfl
  | call c k ih =>
    cases c with
    | inl c =>
      change call c _ = call c _
      congr 1
      funext r
      exact ih r
    | inr m => exact ih (.ok ())

lemma plain_attempt (p : Prog (counting I M) ε α) : p.attempt.plain = p.plain.attempt := by
  induction p with
  | ret a => rfl
  | fail e => rfl
  | call c k ih =>
    cases c with
    | inl c =>
      change call c _ = call c _
      congr 1
      funext r
      exact ih r
    | inr m => exact ih (.ok ())

lemma attempt_ofExcept (p : Prog I ε α) : p.attempt >>= ofExcept = p := by
  induction p with
  | ret a => rfl
  | fail e => rfl
  | call c k ih =>
    change call c _ = call c _
    congr 1
    funext r
    exact ih r

lemma plain_deferred (p : Prog (counting I M) ε α) {after : Except ε α → Prog (counting I M) ε Unit}
    (h : ∀ out, (after out).plain = ret ()) : (p.deferred after).plain = p.plain := by
  have hrest : ∀ out : Except ε α, (ofExcept out : Prog (counting I M) ε α).plain =
    ofExcept out := by
    intro out
    cases out <;> rfl
  simp only [deferred, plain_bind, plain_attempt, h, ret_bind, hrest]
  exact attempt_ofExcept p.plain

/-- `p.Relays F`: answered with no errors but such with `F`, `p` ends in no others. -/
def Relays (F : ε → Prop) : Prog I ε α → Prop
  | ret _ => True
  | fail e => F e
  | call _ k => ∀ r, (∀ e, r = .error e → F e) → (k r).Relays F

section Relays

variable {F : ε → Prop}

lemma relays_ofExcept {x : Except ε α} (h : ∀ e, x = .error e → F e) :
    (ofExcept x : Prog I ε α).Relays F := by
  cases x with
  | ok a => trivial
  | error e => exact h e rfl

lemma relays_request (c : I.Call) : (request c : Prog I ε _).Relays F :=
  fun _ h => relays_ofExcept h

lemma relays_bind {p : Prog I ε α} {f : α → Prog I ε β} (hp : p.Relays F)
    (hf : ∀ a, (f a).Relays F) : (p >>= f).Relays F := by
  induction p with
  | ret a => exact hf a
  | fail e => exact hp
  | call c k ih => exact fun r hr => ih r (hp r hr)

lemma relays_attempt_bind {p : Prog I ε α} {f : Except ε α → Prog I ε β} (hp : p.Relays F)
    (hok : ∀ a, (f (.ok a)).Relays F) (herr : ∀ e, F e → (f (.error e)).Relays F) :
    (p.attempt >>= f).Relays F := by
  induction p with
  | ret a => exact hok a
  | fail e => exact herr e hp
  | call c k ih => exact fun r hr => ih r (hp r hr)

lemma relays_of_attempt {p : Prog I ε α} {f : Except ε α → Prog I ε β} (hf : ∀ x, (f x).Relays F) :
    (p.attempt >>= f).Relays F := by
  induction p with
  | ret a => exact hf _
  | fail e => exact hf _
  | call c k ih => exact fun r _ => ih r

lemma relays_mapFault {p : Prog I ε α} {f : ε → ε} (hp : p.Relays F) (hf : ∀ e, F e → F (f e)) :
    (p.mapFault f).Relays F := by
  induction p with
  | ret a => trivial
  | fail e => exact hf e hp
  | call c k ih => exact fun r hr => ih r (hp r hr)

lemma relays_forM {f : α → Prog I ε PUnit} (xs : List α) (hf : ∀ a, (f a).Relays F) :
    (xs.forM f).Relays F := by
  induction xs with
  | nil => trivial
  | cons a xs ih => exact relays_bind (hf a) fun _ => ih

end Relays

end Prog

lemma Exec.relayed {h : Handler I ε σ} {p : Prog I ε α} {F : ε → Prop} {s s' : σ}
    {tr : List (Answered I ε σ)} {out : Except ε α} (he : Exec h p s tr out s') (hp : p.Relays F)
    (hh : ∀ s c (r : Reply I ε c) s', h s c r s' → ∀ e, r = .error e → F e) :
    ∀ e, out = .error e → F e := by
  induction he with
  | ret => rintro e ⟨⟩
  | fail =>
    rintro e ⟨⟩
    exact hp
  | call hc _ ih => exact ih (hp _ (hh _ _ _ _ hc))

section Tallies

inductive Tallied [DecidableEq M] (h : Handler I ε σ) (s : σ × Counters M) :
    (c : (counting I M).Call) → Reply (counting I M) ε c → σ × Counters M → Prop
  | call {c : I.Call} {r : Reply I ε c} {t : σ} : h s.1 c r t → Tallied h s (.inl c) r (t, s.2)
  | count {m : M} : Tallied h s (.inr m) (.ok ()) (s.1, Function.update s.2 m (s.2 m + 1))

def Elsewhere (own : M → Prop) (s t : σ × Counters M) : Prop := ∀ m, own m → t.2 m = s.2 m

def anything (_ _ : σ) : Prop := True

lemma elsewhere_star {own : M → Prop} {s t : σ × Counters M}
    (hr : Relation.ReflTransGen (Elsewhere own) s t) : Elsewhere own s t := by
  induction hr with
  | refl => exact fun _ _ => rfl
  | tail _ hr ih => exact fun m hm => (hr m hm).trans (ih m hm)

variable [DecidableEq M] {h : Handler I ε σ} {own : M → Prop} {s t : σ × Counters M}
  {out : Except ε α} {tr : List (Answered (counting I M) ε (σ × Counters M))}

lemma Exec.plain {p : Prog (counting I M) ε α}
    (he : Exec (disturbed (Elsewhere own) (Tallied h)) p s tr out t)
    (s₀ : σ) : ∃ tr' u, Exec (disturbed anything h) p.plain s₀ tr' out u := by
  induction he generalizing s₀ with
  | ret => exact ⟨[], s₀, .ret⟩
  | fail => exact ⟨[], s₀, .fail⟩
  | call hc _ ih =>
    obtain ⟨v, _, hc⟩ := hc
    cases hc with
    | @call c r u hc =>
      obtain ⟨tr', u', he⟩ := ih u
      exact ⟨_, u', .call ⟨v.1, .single trivial, hc⟩ he⟩
    | count => exact ih s₀

def Tallies (h : Handler I ε σ) (own : M → Prop) (p : Prog (counting I M) ε α)
    (g : Except ε α → M → ℕ) : Prop :=
  ∀ s tr out t, Exec (disturbed (Elsewhere own) (Tallied h)) p s tr out t → ∀ m, own m →
    t.2 m = s.2 m + g out m

omit [DecidableEq M] in
lemma uses_uncounted (p : Prog I ε α) :
    (p.uncounted : Prog (counting I M) ε α).Uses fun c : I.Call ⊕ M => c.isLeft = true := by
  induction p with
  | ret a => trivial
  | fail e => trivial
  | call c k ih => exact ⟨rfl, ih⟩

lemma elsewhere_uncounted {p : Prog I ε α}
    (he : Exec (disturbed (Elsewhere own) (Tallied h)) p.uncounted s tr out t) :
    Elsewhere own s t := by
  refine (Exec.keeps (J := Elsewhere own s) (uses_uncounted p) ?_ he fun _ _ => rfl).1
  rintro u c r v hc ⟨u', hu, hv⟩ hs
  cases hv with
  | call _ => exact fun m hm => (elsewhere_star hu m hm).trans (hs m hm)
  | count => cases hc

lemma tallies_uncounted {p : Prog I ε α} {g : Except ε α → M → ℕ}
    (hg : ∀ s tr out s', Exec (disturbed anything h) p s tr out s' → ∀ m, own m → g out m = 0) :
    Tallies h own p.uncounted g := by
  intro s tr out t he m hm
  obtain ⟨tr', u, hplain⟩ := he.plain s.1
  rw [Prog.plain_uncounted] at hplain
  rw [hg _ _ _ _ hplain m hm]
  exact elsewhere_uncounted he m hm

lemma tallies_count {m₀ : M} {g : Except ε Unit → M → ℕ}
    (hg : ∀ m, own m → g (.ok ()) m = if m = m₀ then 1 else 0) :
    Tallies h own (Prog.count m₀) g := by
  intro s tr out t he m hm
  obtain ⟨⟨u, hu, hc⟩, _⟩ := Exec.request_iff.mp he
  cases hc with
  | count =>
    have hsame := elsewhere_star hu m hm
    have hcounted : Function.update u.2 m₀ (u.2 m₀ + 1) m = s.2 m + g (.ok ()) m := by
      rw [hg m hm]
      by_cases hm₀ : m = m₀
      · subst hm₀
        simp [hsame]
      · simp [hm₀, hsame]
    exact hcounted

lemma tallies_bind {p : Prog (counting I M) ε α} {f : α → Prog (counting I M) ε β}
    {g : Except ε α → M → ℕ}
    {k l : Except ε β → M → ℕ} (hp : Tallies h own p g) (hf : ∀ a, Tallies h own (f a) k)
    (hok : ∀ a out m, own m → g (.ok a) m + k out m = l out m)
    (herr : ∀ e m, own m → g (.error e) m = l (.error e) m) : Tallies h own (p >>= f) l := by
  intro s tr out t he m hm
  rcases Exec.bind_iff.mp he with ⟨e, rfl, hfail⟩ | ⟨a, u, tr₁, tr₂, rfl, h₁, h₂⟩
  · rw [hp _ _ _ _ hfail m hm, herr e m hm]
  · rw [hf a _ _ _ _ h₂ m hm, hp _ _ _ _ h₁ m hm, Nat.add_assoc, hok a out m hm]

lemma tallies_deferred {p : Prog (counting I M) ε α}
    {after : Except ε α → Prog (counting I M) ε Unit}
    {g : Except ε α → M → ℕ} {k : Except ε α → M → ℕ} (hp : Tallies h own p g)
    (hafter : ∀ out, Tallies h own (after out) fun _ => k out)
    (hplain : ∀ out, (after out).plain = .ret ()) :
    Tallies h own (p.deferred after) fun out m => g out m + k out m := by
  intro s tr out t he m hm
  rcases Exec.bind_iff.mp he with ⟨e, _, he⟩ | ⟨x, u, tr₁, tr₂, rfl, h₁, h₂⟩
  · obtain ⟨_, hx, _⟩ := Exec.attempt_iff.mp he
    cases hx
  rw [Exec.attempt_ok_iff] at h₁
  rcases Exec.bind_iff.mp h₂ with ⟨e, _, he⟩ | ⟨_, v, tr₃, tr₄, rfl, h₃, h₄⟩
  · obtain ⟨tr', u', he'⟩ := he.plain s.1
    rw [hplain] at he'
    cases he'
  obtain ⟨_, rfl, rfl⟩ := Exec.ofExcept_iff.mp h₄
  rw [hafter out _ _ _ _ h₃ m hm, hp _ _ _ _ h₁ m hm, Nat.add_assoc]

end Tallies

end EnvoyGatewayExtension.Effects
