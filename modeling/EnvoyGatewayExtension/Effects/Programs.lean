import Mathlib.Tactic

/-! Programs that talk to a server one call at a time. Every call may be refused, and a
program sees the refusal as an error value, so error paths are ordinary branches. -/

namespace EnvoyGatewayExtension.Effects

structure Interface where
  Call : Type
  Result : Call → Type

variable {I : Interface} {ε ε' α β γ : Type}

abbrev Reply (I : Interface) (ε : Type) (c : I.Call) : Type := Except ε (I.Result c)

inductive Prog (I : Interface) (ε α : Type) : Type
  | ret (a : α) : Prog I ε α
  | fail (e : ε) : Prog I ε α
  | call (c : I.Call) (k : Reply I ε c → Prog I ε α) : Prog I ε α

namespace Prog

def bind : Prog I ε α → (α → Prog I ε β) → Prog I ε β
  | ret a, f => f a
  | fail e, _ => fail e
  | call c k, f => call c (fun r => (k r).bind f)

instance : Monad (Prog I ε) where
  pure := ret
  bind := bind

@[simp] lemma pure_def (a : α) : (pure a : Prog I ε α) = ret a := rfl

@[simp] lemma ret_bind (a : α) (f : α → Prog I ε β) : (ret a >>= f) = f a := rfl

@[simp] lemma fail_bind (e : ε) (f : α → Prog I ε β) : (fail e >>= f) = fail e := rfl

@[simp] lemma call_bind (c : I.Call) (k : Reply I ε c → Prog I ε α) (f : α → Prog I ε β) :
    (call c k >>= f) = call c (fun r => k r >>= f) := rfl

lemma bind_ret (p : Prog I ε α) : p >>= ret = p := by
  induction p with
  | ret a => rfl
  | fail e => rfl
  | call c k ih =>
    rw [call_bind]
    congr 1
    funext r
    exact ih r

lemma bind_assoc (p : Prog I ε α) (f : α → Prog I ε β) (g : β → Prog I ε γ) :
    p >>= f >>= g = p >>= fun a => f a >>= g := by
  induction p with
  | ret a => rfl
  | fail e => rfl
  | call c k ih =>
    simp only [call_bind]
    congr 1
    funext r
    exact ih r

instance : LawfulMonad (Prog I ε) :=
  LawfulMonad.mk' (Prog I ε) bind_ret (fun _ _ => rfl) bind_assoc

def ofExcept : Except ε α → Prog I ε α
  | .ok a => ret a
  | .error e => fail e

@[simp] lemma ofExcept_ok (a : α) : (ofExcept (.ok a) : Prog I ε α) = ret a := rfl

@[simp] lemma ofExcept_error (e : ε) : (ofExcept (.error e) : Prog I ε α) = fail e := rfl

def request (c : I.Call) : Prog I ε (I.Result c) := call c ofExcept

def attempt : Prog I ε α → Prog I ε (Except ε α)
  | ret a => ret (.ok a)
  | fail e => ret (.error e)
  | call c k => call c (fun r => (k r).attempt)

@[simp] lemma attempt_ret (a : α) : (ret a : Prog I ε α).attempt = ret (.ok a) := rfl

@[simp] lemma attempt_fail (e : ε) : (fail e : Prog I ε α).attempt = ret (.error e) := rfl

@[simp] lemma attempt_call (c : I.Call) (k : Reply I ε c → Prog I ε α) :
    (call c k).attempt = call c (fun r => (k r).attempt) := rfl

def mapFault (f : ε → ε) : Prog I ε α → Prog I ε α
  | ret a => ret a
  | fail e => fail (f e)
  | call c k => call c (fun r => (k r).mapFault f)

@[simp] lemma mapFault_ret (f : ε → ε) (a : α) : (ret a : Prog I ε α).mapFault f = ret a := rfl

@[simp] lemma mapFault_fail (f : ε → ε) (e : ε) :
    (fail e : Prog I ε α).mapFault f = fail (f e) := rfl

@[simp] lemma mapFault_call (f : ε → ε) (c : I.Call) (k : Reply I ε c → Prog I ε α) :
    (call c k).mapFault f = call c (fun r => (k r).mapFault f) := rfl

lemma mapFault_id (p : Prog I ε α) : p.mapFault (fun e => e) = p := by
  induction p with
  | ret a => rfl
  | fail e => rfl
  | call c k ih =>
    rw [mapFault_call]
    congr 1
    funext r
    exact ih r

/-- `p.Uses P`: whatever the replies, `p` only makes calls with `P`. -/
def Uses (P : I.Call → Prop) : Prog I ε α → Prop
  | ret _ => True
  | fail _ => True
  | call c k => P c ∧ ∀ r, (k r).Uses P

variable {P P' : I.Call → Prop}

@[simp] lemma uses_ret (a : α) : (ret a : Prog I ε α).Uses P := trivial

@[simp] lemma uses_fail (e : ε) : (fail e : Prog I ε α).Uses P := trivial

@[simp] lemma uses_call (c : I.Call) (k : Reply I ε c → Prog I ε α) :
    (call c k).Uses P ↔ P c ∧ ∀ r, (k r).Uses P := Iff.rfl

@[simp] lemma uses_ofExcept (x : Except ε α) : (ofExcept x : Prog I ε α).Uses P := by
  cases x <;> trivial

@[simp] lemma uses_request (c : I.Call) : (request c : Prog I ε _).Uses P ↔ P c := by
  simp [request]

lemma uses_bind {p : Prog I ε α} {f : α → Prog I ε β} (hp : p.Uses P)
    (hf : ∀ a, (f a).Uses P) : (p >>= f).Uses P := by
  induction p with
  | ret a => exact hf a
  | fail e => trivial
  | call c k ih => exact ⟨hp.1, fun r => ih r (hp.2 r)⟩

lemma uses_attempt {p : Prog I ε α} (hp : p.Uses P) : p.attempt.Uses P := by
  induction p with
  | ret a => trivial
  | fail e => trivial
  | call c k ih => exact ⟨hp.1, fun r => ih r (hp.2 r)⟩

lemma uses_mapFault {p : Prog I ε α} (f : ε → ε) (hp : p.Uses P) : (p.mapFault f).Uses P := by
  induction p with
  | ret a => trivial
  | fail e => trivial
  | call c k ih => exact ⟨hp.1, fun r => ih r (hp.2 r)⟩

lemma uses_forM {f : α → Prog I ε PUnit} (xs : List α) (hf : ∀ a ∈ xs, (f a).Uses P) :
    (xs.forM f).Uses P := by
  induction xs with
  | nil => trivial
  | cons a xs ih =>
    exact uses_bind (hf a List.mem_cons_self) fun _ => ih fun b hb =>
      hf b (List.mem_cons_of_mem a hb)

lemma uses_any (p : Prog I ε α) : p.Uses fun _ => True := by
  induction p with
  | ret a => exact uses_ret a
  | fail e => exact uses_fail e
  | call c k ih => exact ⟨trivial, ih⟩

lemma Uses.mono {p : Prog I ε α} (hp : p.Uses P) (h : ∀ c, P c → P' c) : p.Uses P' := by
  induction p with
  | ret a => trivial
  | fail e => trivial
  | call c k ih => exact ⟨h c hp.1, fun r => ih r (hp.2 r)⟩

def Within : Prog I ε α → ℕ → Prop
  | ret _, _ => True
  | fail _, _ => True
  | call _ _, 0 => False
  | call _ k, n + 1 => ∀ r, (k r).Within n

lemma Within.mono {p : Prog I ε α} {m n : ℕ} (hp : p.Within m) (h : m ≤ n) : p.Within n := by
  induction p generalizing m n with
  | ret a => trivial
  | fail e => trivial
  | call c k ih =>
    cases m with
    | zero => exact hp.elim
    | succ m =>
      cases n with
      | zero => omega
      | succ n => exact fun r => ih r (hp r) (Nat.le_of_succ_le_succ h)

lemma within_ofExcept (x : Except ε α) (n : ℕ) : (ofExcept x : Prog I ε α).Within n := by
  cases x <;> trivial

lemma within_request (c : I.Call) : (request c : Prog I ε _).Within 1 :=
  fun r => within_ofExcept r 0

lemma within_bind {p : Prog I ε α} {f : α → Prog I ε β} {m n : ℕ} (hp : p.Within m)
    (hf : ∀ a, (f a).Within n) : (p >>= f).Within (m + n) := by
  induction p generalizing m with
  | ret a => exact (hf a).mono (Nat.le_add_left n m)
  | fail e => trivial
  | call c k ih =>
    cases m with
    | zero => exact hp.elim
    | succ m =>
      rw [Nat.succ_add]
      exact fun r => ih r (hp r)

lemma within_attempt {p : Prog I ε α} {n : ℕ} (hp : p.Within n) : p.attempt.Within n := by
  induction p generalizing n with
  | ret a => trivial
  | fail e => trivial
  | call c k ih =>
    cases n with
    | zero => exact hp.elim
    | succ n => exact fun r => ih r (hp r)

lemma within_mapFault {p : Prog I ε α} {n : ℕ} (f : ε → ε) (hp : p.Within n) :
    (p.mapFault f).Within n := by
  induction p generalizing n with
  | ret a => trivial
  | fail e => trivial
  | call c k ih =>
    cases n with
    | zero => exact hp.elim
    | succ n => exact fun r => ih r (hp r)

end Prog

end EnvoyGatewayExtension.Effects
