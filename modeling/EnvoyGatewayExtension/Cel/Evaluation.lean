import EnvoyGatewayExtension.Cel.Syntax

namespace EnvoyGatewayExtension.Cel

inductive Value
  | null
  | bool (b : Bool)
  | int (n : ℤ)
  | string (s : String)
  | list (vs : List Value)
  | object (fields : List (String × Value))

namespace Value

def isObject : Value → Bool
  | object _ => true
  | _ => false

def isNull : Value → Bool
  | null => true
  | _ => false

def field : Value → String → Option Value
  | object fields, f => fields.lookup f
  | _, _ => none

def follow : Value → List String → Option Value
  | v, [] => some v
  | v, f :: fs => (v.field f).bind (·.follow fs)

def ObjectsAlong (v : Value) (path : List String) : Prop :=
  ∀ before f after, path = before ++ f :: after → ∀ u, v.follow before = some u → u.isObject = true

variable {v u : Value} {f : String} {fs : List String}

lemma isObject_of_field (h : v.field f = some u) : v.isObject = true := by
  cases v with
  | object fields => rfl
  | _ => cases h

lemma isNull_of_isObject (h : v.isObject = true) : v.isNull = false := by
  cases v with
  | object fields => rfl
  | _ => cases h

lemma follow_append (v : Value) (p q : List String) :
    v.follow (p ++ q) = (v.follow p).bind (·.follow q) := by
  induction p generalizing v with
  | nil => rfl
  | cons f p ih =>
    rw [List.cons_append, follow, follow]
    cases v.field f with
    | none => rfl
    | some u => exact ih u

lemma ObjectsAlong.head (h : v.ObjectsAlong (f :: fs)) : v.isObject = true := h [] f fs rfl v rfl

lemma ObjectsAlong.tail (h : v.ObjectsAlong (f :: fs)) (hu : v.field f = some u) :
    u.ObjectsAlong fs := by
  intro before g after hpath w hw
  refine h (f :: before) g after (congrArg (List.cons f) hpath) w ?_
  rw [follow, hu]
  exact hw

lemma ObjectsAlong.cons (hv : v.isObject = true) (h : ∀ u, v.field f = some u → u.ObjectsAlong fs) :
    v.ObjectsAlong (f :: fs) := by
  intro before g after hpath w hw
  cases before with
  | nil =>
    cases hw
    exact hv
  | cons b before =>
    obtain ⟨rfl, htail⟩ := List.cons.inj hpath
    obtain ⟨u, hu, hfollow⟩ := Option.bind_eq_some_iff.mp hw
    exact h u hu before g after htail w hfollow

lemma ObjectsAlong.left {p q : List String} (h : v.ObjectsAlong (p ++ q)) : v.ObjectsAlong p := by
  intro before f after hpath
  exact h before f (after ++ q) (by rw [hpath, List.append_assoc, List.cons_append])

lemma ObjectsAlong.right {p q : List String} (h : v.ObjectsAlong (p ++ q))
    (hu : v.follow p = some u) : u.ObjectsAlong q := by
  intro before f after hpath w hw
  refine h (p ++ before) f after (by rw [hpath, List.append_assoc]) w ?_
  rw [follow_append, hu]
  exact hw

lemma follow_eq_none_iff {path : List String} :
    v.follow path = none ↔ ∃ p, p <+: path ∧ v.follow p = none := by
  constructor
  · intro h
    exact ⟨path, List.prefix_rfl, h⟩
  · rintro ⟨p, ⟨q, rfl⟩, hp⟩
    rw [follow_append, hp]
    rfl

lemma objectsAlong_of_follow (h : v.follow fs = some u) : v.ObjectsAlong fs := by
  rintro before f after rfl w hw
  rw [follow_append, hw, Option.bind_some, follow] at h
  obtain ⟨x, hx, _⟩ := Option.bind_eq_some_iff.mp h
  exact isObject_of_field hx

end Value

structure Env where
  ident : String → Option Value
  policyVariable : String → Option Value

/-- A false operand absorbs an error of the other. -/
def conj : Option Value → Option Value → Option Value
  | some (.bool false), _ => some (.bool false)
  | _, some (.bool false) => some (.bool false)
  | some (.bool true), some (.bool true) => some (.bool true)
  | _, _ => none

/-- A true operand absorbs an error of the other. -/
def disj : Option Value → Option Value → Option Value
  | some (.bool true), _ => some (.bool true)
  | _, some (.bool true) => some (.bool true)
  | some (.bool false), some (.bool false) => some (.bool false)
  | _, _ => none

/-- A scalar has no field; the name of a field is no index of a list. -/
def present : Value → String → Option Value
  | .list _, _ => none
  | v, f => some (.bool (v.field f).isSome)

def negate : Value → Option Value
  | .bool b => some (.bool !b)
  | _ => none

def Expr.eval (env : Env) : Expr → Option Value
  | .null => some .null
  | .ident x => env.ident x
  | .policyVariable x => env.policyVariable x
  | .select e f => (e.eval env).bind (·.field f)
  | .has e f => (e.eval env).bind (present · f)
  | .not e => (e.eval env).bind negate
  | .eqNull e => (e.eval env).map fun v => .bool v.isNull
  | .neNull e => (e.eval env).map fun v => .bool !v.isNull
  | .and a b => conj (a.eval env) (b.eval env)
  | .or a b => disj (a.eval env) (b.eval env)
  | .cond c t e =>
    match c.eval env with
    | some (.bool true) => t.eval env
    | some (.bool false) => e.eval env
    | _ => none

section Connectives

-- every lemma below rewrites with the equations of `eval`: they are generated here, once
attribute [local simp] Expr.eval

variable {env : Env} {a b c t e : Expr} {x : Option Value}

@[simp] lemma conj_false_left : conj (some (.bool false)) x = some (.bool false) := rfl

@[simp] lemma conj_true_left {p : Bool} :
    conj (some (.bool true)) (some (.bool p)) = some (.bool p) := by
  cases p <;> rfl

@[simp] lemma disj_true_left : disj (some (.bool true)) x = some (.bool true) := rfl

@[simp] lemma disj_false_left {p : Bool} :
    disj (some (.bool false)) (some (.bool p)) = some (.bool p) := by
  cases p <;> rfl

lemma eval_foldl_and_of_false {es : List Expr} (h : e.eval env = some (.bool false)) :
    (es.foldl .and e).eval env = some (.bool false) := by
  induction es generalizing e with
  | nil => exact h
  | cons a es ih =>
    refine ih ?_
    rw [Expr.eval, h, conj_false_left]

lemma eval_cond {p : Bool} (hc : c.eval env = some (.bool p)) :
    (Expr.cond c t e).eval env = if p then t.eval env else e.eval env := by
  rw [Expr.eval, hc]
  cases p <;> rfl

lemma eval_foldl_or_of_true {es : List Expr} (h : e.eval env = some (.bool true)) :
    (es.foldl .or e).eval env = some (.bool true) := by
  induction es generalizing e with
  | nil => exact h
  | cons a es ih =>
    refine ih ?_
    rw [Expr.eval, h, disj_true_left]

end Connectives

section Paths

def absences (base : Expr) : List String → List Expr
  | [] => []
  | f :: fs => .not (.has base f) :: absences (.select base f) fs

def presences (base : Expr) : List String → List Expr
  | [] => []
  | f :: fs => .has base f :: presences (.select base f) fs

variable {env : Env} {base e : Expr} {v : Value} {path : List String}

lemma eval_select {f : String} (hb : base.eval env = some v) :
    (Expr.select base f).eval env = v.field f := by
  rw [Expr.eval, hb]
  rfl

lemma eval_foldl_select (hb : base.eval env = some v) :
    (path.foldl .select base).eval env = v.follow path := by
  induction path generalizing base v with
  | nil => exact hb
  | cons f fs ih =>
    rw [List.foldl_cons, Value.follow]
    cases hf : v.field f with
    | some u => exact ih ((eval_select hb).trans hf)
    | none =>
      have hnone : ∀ (gs : List String) (x : Expr), x.eval env = none →
        (gs.foldl .select x).eval env = none := by
        intro gs
        induction gs with
        | nil => exact fun x hx => hx
        | cons g gs ihg =>
          intro x hx
          refine ihg _ ?_
          rw [Expr.eval, hx]
          rfl
      exact hnone fs _ ((eval_select hb).trans hf)

lemma eval_has {f : String} (hb : base.eval env = some v) (hv : v.isObject = true) :
    (Expr.has base f).eval env = some (.bool (v.field f).isSome) := by
  rw [Expr.eval, hb, Option.bind_some]
  cases v with
  | object fields => rfl
  | _ => cases hv

lemma eval_presences (hb : base.eval env = some v) (hv : v.ObjectsAlong path)
    (he : e.eval env = some (.bool true)) :
    ((presences base path).foldl .and e).eval env = some (.bool (v.follow path).isSome) := by
  induction path generalizing base v e with
  | nil => exact he
  | cons f fs ih =>
    have hterm := eval_has (f := f) hb hv.head
    have hand : (Expr.and e (.has base f)).eval env = some (.bool (v.field f).isSome) := by
      rw [Expr.eval, he, hterm, conj_true_left]
    rw [presences, List.foldl_cons, Value.follow]
    cases hf : v.field f with
    | none =>
      rw [hf] at hand
      exact eval_foldl_and_of_false hand
    | some u =>
      rw [hf] at hand
      exact ih ((eval_select hb).trans hf) (hv.tail hf) hand

lemma eval_not_has {f : String} (hb : base.eval env = some v) (hv : v.isObject = true) :
    (Expr.not (.has base f)).eval env = some (.bool (v.field f).isNone) := by
  rw [Expr.eval, eval_has hb hv]
  cases v.field f <;> rfl

lemma eval_absences (hb : base.eval env = some v) (hv : v.ObjectsAlong path)
    (he : e.eval env = some (.bool false)) :
    ((absences base path).foldl .or e).eval env = some (.bool (v.follow path).isNone) := by
  -- the first absent prefix makes the disjunction true, whatever the longer ones evaluate to
  induction path generalizing base v e with
  | nil => exact he
  | cons f fs ih =>
    have hterm := eval_not_has (f := f) hb hv.head
    rw [absences, List.foldl_cons, Value.follow]
    cases hf : v.field f with
    | none =>
      rw [hf] at hterm
      refine eval_foldl_or_of_true ?_
      rw [Expr.eval, he, hterm]
      rfl
    | some u =>
      rw [hf] at hterm
      refine ih ((eval_select hb).trans hf) (hv.tail hf) ?_
      rw [Expr.eval, he, hterm]
      rfl

def guardedPath (base : Expr) (f : String) (fs : List String) : Expr :=
  .cond ((presences (.select base f) fs).foldl .and (.has base f))
    ((f :: fs).foldl .select base) .null

lemma eval_guardedPath {f : String} {fs : List String} (hb : base.eval env = some v)
    (hv : v.ObjectsAlong (f :: fs)) :
    (guardedPath base f fs).eval env = some ((v.follow (f :: fs)).getD .null) := by
  have hhas := eval_has (f := f) hb hv.head
  have htest : ((presences (.select base f) fs).foldl Expr.and (.has base f)).eval env =
      some (.bool (v.follow (f :: fs)).isSome) := by
    rw [Value.follow]
    cases hf : v.field f with
    | none =>
      rw [hf] at hhas
      exact eval_foldl_and_of_false hhas
    | some u =>
      rw [hf] at hhas
      exact eval_presences ((eval_select hb).trans hf) (hv.tail hf) hhas
  rw [guardedPath, eval_cond htest, eval_foldl_select hb]
  cases v.follow (f :: fs) <;> rfl

def guardedField (base : Expr) (f : String) : Expr :=
  .cond (.and (.neNull base) (.has base f)) (.select base f) .null

lemma eval_guardedField {f : String} (hb : base.eval env = some v)
    (hv : v = .null ∨ v.isObject = true) :
    (guardedField base f).eval env = some ((v.field f).getD .null) := by
  have hne : (Expr.neNull base).eval env = some (.bool !v.isNull) := by
    rw [Expr.eval, hb]
    rfl
  have htest : (Expr.and (.neNull base) (.has base f)).eval env =
    some (.bool (v.field f).isSome) := by
    rw [Expr.eval, hne]
    rcases hv with rfl | hv
    · rfl
    · rw [Value.isNull_of_isObject hv, eval_has hb hv]
      exact conj_true_left
  rw [guardedField, eval_cond htest, eval_select hb]
  cases v.field f <;> rfl

end Paths

end EnvoyGatewayExtension.Cel
