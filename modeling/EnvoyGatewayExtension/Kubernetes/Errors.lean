import EnvoyGatewayExtension.Effects.Interference
import EnvoyGatewayExtension.Effects.Triples

namespace EnvoyGatewayExtension.Kubernetes

open Effects

inductive StatusReason
  | notFound
  | alreadyExists
  | conflict
  | other
  deriving DecidableEq, Repr

inductive GoError
  | text (msg : String)
  | wrap (msg : String) (err : GoError)
  | status (reason : StatusReason) (msg : String)
  | noKindMatch (msg : String)
  | contextDone (msg : String)
  | gatewaysStillDeleting
  | gatewaysInUse (names : List String)
  deriving DecidableEq, Repr

namespace GoError

def maxPreview : ℕ := 5

def inUseMessage (names : List String) : String :=
  let more :=
    if names.length > maxPreview then " (and " ++ toString (names.length - maxPreview) ++
      " more)" else ""
  "envoy-gateway extension cannot be removed while " ++ toString names.length ++
    " user Gateway object(s) still exist in the shoot. " ++
    "Delete the following Gateways first and try again: " ++
    "[" ++ " ".intercalate (names.take maxPreview) ++ "]" ++ more

def message : GoError → String
  | text msg => msg
  | wrap msg err => msg ++ ": " ++ err.message
  | status _ msg => msg
  | noKindMatch msg => msg
  | contextDone msg => msg
  | gatewaysStillDeleting => "user Gateways still present in shoot"
  | gatewaysInUse names => inUseMessage names

def isStillDeleting : GoError → Bool
  | wrap _ err => err.isStillDeleting
  | gatewaysStillDeleting => true
  | _ => false

def isNotFound : GoError → Bool
  | wrap _ err => err.isNotFound
  | status reason _ => reason == .notFound
  | _ => false

def isNoMatch : GoError → Bool
  | wrap _ err => err.isNoMatch
  | noKindMatch _ => true
  | _ => false

/-- `errors.Is(err, ctx.Err())` for a context that has ended. -/
def isContextDone : GoError → Bool
  | wrap _ err => err.isContextDone
  | contextDone _ => true
  | _ => false

/-- `errors.AsType[*gatewaysInUseError]`. -/
def isGatewaysInUse : GoError → Bool
  | wrap _ err => err.isGatewaysInUse
  | gatewaysInUse _ => true
  | _ => false

/-- A failure that says nothing about the object: a timeout, a conflict, a refused connection. -/
def transient (e : GoError) : Bool := !e.isNotFound && !e.isNoMatch

lemma isNotFound_of_transient {e : GoError} (h : e.transient = true) : e.isNotFound = false := by
  simp only [transient, Bool.and_eq_true, Bool.not_eq_true'] at h
  exact h.1

end GoError

section Results

variable {ε α β : Type}

lemma mapError_eq_ok {f : ε → ε} {x : Except ε α} {a : α} : x.mapError f = .ok a ↔ x = .ok a := by
  cases x with
  | ok b => exact Iff.rfl
  | error e => exact ⟨fun h => (by cases h), fun h => (by cases h)⟩

lemma bind_eq_ok {x : Except ε α} {f : α → Except ε β} {b : β} :
    x >>= f = .ok b ↔ ∃ a, x = .ok a ∧ f a = .ok b := by
  cases x with
  | ok a => exact ⟨fun h => ⟨a, rfl, h⟩, fun ⟨_, ha, h⟩ => by cases ha; exact h⟩
  | error e => exact ⟨fun h => (by cases h), fun ⟨_, ha, _⟩ => (by cases ha)⟩

lemma bind_eq_error {x : Except ε α} {f : α → Except ε β} {e : ε} :
    x >>= f = .error e ↔ x = .error e ∨ ∃ a, x = .ok a ∧ f a = .error e := by
  cases x with
  | ok a =>
    constructor
    · intro h
      exact Or.inr ⟨a, rfl, h⟩
    · rintro (h | ⟨_, ⟨⟩, h⟩)
      · cases h
      · exact h
  | error e' =>
    constructor
    · rintro ⟨⟩
      exact Or.inl rfl
    · rintro (h | ⟨_, ha, _⟩)
      · cases h
        rfl
      · cases ha

lemma exists_map_eq_ok {x : Except ε α} {f : α → β} : (∃ b, x.map f = .ok b) ↔ ∃ a, x = .ok a := by
  cases x with
  | ok a => exact ⟨fun _ => ⟨a, rfl⟩, fun _ => ⟨f a, rfl⟩⟩
  | error e => exact ⟨fun ⟨_, h⟩ => (by cases h), fun ⟨_, h⟩ => (by cases h)⟩

lemma exists_eq_error {x : Except ε α} : (∃ e, x = .error e) ↔ ¬ ∃ a, x = .ok a := by
  cases x with
  | ok a => exact ⟨fun ⟨_, h⟩ => (by cases h), fun h => absurd ⟨a, rfl⟩ h⟩
  | error e => exact ⟨fun _ ⟨_, h⟩ => (by cases h), fun _ => ⟨e, rfl⟩⟩

end Results

section Quoting

/-- One character under `%q`; a character beyond ASCII is taken for a printable one. -/
def escaped (c : Char) : String :=
  match c.toNat with
  | 7 => "\\a"
  | 8 => "\\b"
  | 9 => "\\t"
  | 10 => "\\n"
  | 11 => "\\v"
  | 12 => "\\f"
  | 13 => "\\r"
  | 34 => "\\\""
  | 92 => "\\\\"
  | n =>
    if n < 32 ∨ n = 127 then
      "\\x" ++ String.ofList [Nat.digitChar (n / 16), Nat.digitChar (n % 16)]
    else String.singleton c

def quoted (s : String) : String := "\"" ++ String.join (s.toList.map escaped) ++ "\""

end Quoting

def notFound : GoError := .status .notFound "not found"

section Clients

variable {I : Interface} {α : Type}

def wrapped (msg : String) (p : Prog I GoError α) : Prog I GoError α := p.mapFault (.wrap msg)

def ignoreNotFound (p : Prog I GoError Unit) : Prog I GoError Unit := do
  match ← p.attempt with
  | .ok () => pure ()
  | .error e => if e.isNotFound then pure () else .fail e

/-- `controllerutil.CreateOrUpdate`: no write when the mutated object equals the stored one. -/
def createOrUpdate [DecidableEq α] (get : Prog I GoError α)
    (create update : α → Prog I GoError Unit) (obj : α) (mutate : α → α) : Prog I GoError Unit := do
  match ← get.attempt with
  | .error e => if e.isNotFound then create (mutate obj) else .fail e
  | .ok existing => if mutate existing = existing then pure () else update (mutate existing)

variable {P : I.Call → Prop}

lemma uses_wrapped {msg : String} {p : Prog I GoError α} (hp : p.Uses P) :
    (wrapped msg p).Uses P :=
  Prog.uses_mapFault _ hp

lemma uses_ignoreNotFound {p : Prog I GoError Unit} (hp : p.Uses P) :
    (ignoreNotFound p).Uses P := by
  refine Prog.uses_bind (Prog.uses_attempt hp) ?_
  rintro (e | a)
  · dsimp only
    split <;> trivial
  · trivial

lemma uses_createOrUpdate [DecidableEq α] {get : Prog I GoError α}
    {create update : α → Prog I GoError Unit} {obj : α} {mutate : α → α} (hg : get.Uses P)
    (hc : (create (mutate obj)).Uses P) (hu : ∀ a, (update (mutate a)).Uses P) :
    (createOrUpdate get create update obj mutate).Uses P := by
  refine Prog.uses_bind (Prog.uses_attempt hg) ?_
  rintro (e | a)
  · dsimp only
    split
    · exact hc
    · trivial
  · dsimp only
    split
    · trivial
    · exact hu _

section Triples

variable {σ : Type} {h : Handler I GoError σ} {J : Answered I GoError σ → Prop} {s : σ}

lemma ensures_wrapped {msg : String} {p : Prog I GoError α} {Q : Except GoError α → σ → Prop}
    (hp : Ensures h J p (fun out t => Q (out.mapError (.wrap msg)) t) s) :
    Ensures h J (wrapped msg p) Q s :=
  Ensures.mapFault_iff.mpr hp

lemma ensures_wrapped_ok {msg : String} {p : Prog I GoError α} {X : σ → Prop} {Y : α → σ → Prop}
    (hp : Ensures h J p (fun out t => X t ∧ ∀ a, out = .ok a → Y a t) s) :
    Ensures h J (wrapped msg p) (fun out t => X t ∧ ∀ a, out = .ok a → Y a t) s :=
  ensures_wrapped
    (hp.mono (fun _ hj => hj) fun _ _ ht => ⟨ht.1, fun a ha => ht.2 a (mapError_eq_ok.mp ha)⟩)

lemma ensures_ignoreNotFound {p : Prog I GoError Unit} {Q : Except GoError Unit → σ → Prop}
    (hp : Ensures h J p (fun out t =>
      ((∀ e, out = .error e → e.isNotFound = true) → Q (.ok ()) t) ∧
        ∀ e, out = .error e → e.isNotFound = false → Q (.error e) t) s) :
    Ensures h J (ignoreNotFound p) Q s := by
  refine Ensures.bind_iff.mpr (Ensures.attempt_iff.mpr (hp.mono (fun _ hj => hj) ?_))
  intro out t ht
  cases out with
  | ok u => exact ht.1 fun e he => by cases he
  | error e =>
    simp only [Prog.ofExcept_ok, Prog.ret_bind]
    split_ifs with hn
    · exact ht.1 fun e' he => by
        cases he
        exact hn
    · exact ht.2 e rfl (Bool.eq_false_iff.mpr hn)

lemma ensures_ignoreNotFound_ok {msg : String} {p : Prog I GoError Unit}
    (hp : Ensures h J p (fun out _ => ∀ e, out = .error e → e.isNotFound = true) s) :
    Ensures h J (wrapped msg (ignoreNotFound p)) (fun out _ => out = .ok ()) s := by
  refine ensures_wrapped
    (ensures_ignoreNotFound (hp.mono (fun _ hj => hj) fun out t hout => ⟨fun _ => rfl, ?_⟩))
  intro e he hn
  rw [hout e he] at hn
  cases hn

lemma ensures_createOrUpdate [DecidableEq α] {get : Prog I GoError α}
    {create update : α → Prog I GoError Unit}
    {obj : α} {mutate : α → α} {Q : Except GoError Unit → σ → Prop}
    (hg : Ensures h J get (fun out t => match out with
      | .error e =>
        if e.isNotFound = true then Ensures h J (create (mutate obj)) Q t else Q (.error e) t
      | .ok a => if mutate a = a then Q (.ok ()) t else Ensures h J (update (mutate a)) Q t) s) :
    Ensures h J (createOrUpdate get create update obj mutate) Q s := by
  refine Ensures.bind_iff.mpr (Ensures.attempt_iff.mpr (hg.mono (fun _ hj => hj) ?_))
  intro out t ht
  cases out with
  | error e =>
    simp only [Prog.ofExcept_ok, Prog.ret_bind] at ht ⊢
    split_ifs at ht ⊢ with hn
    · exact ht
    · exact ht
  | ok a =>
    simp only [Prog.ofExcept_ok, Prog.ret_bind] at ht ⊢
    split_ifs at ht ⊢ with hsame
    · exact ht
    · exact ht

end Triples

end Clients

end EnvoyGatewayExtension.Kubernetes
