import EnvoyGatewayExtension.Effects.Execution

namespace EnvoyGatewayExtension.Effects

variable {I : Interface} {ε τ : Type}

/-- `wait.PollUntilContextCancel` with `immediate`: the condition is called at once and then
`more` times until the context ends. What the condition remembers is its state, and the flag
tells whether it held. -/
def pollUntilContextCancel (condition : τ → Prog I ε (τ × Bool)) : ℕ → τ → Prog I ε (τ × Bool)
  | 0, t => condition t
  | more + 1, t => do
    let polled ← condition t
    if polled.2 then pure polled else pollUntilContextCancel condition more polled.1

lemma uses_pollUntilContextCancel {C : I.Call → Prop} {condition : τ → Prog I ε (τ × Bool)}
    (hc : ∀ t, (condition t).Uses C) (more : ℕ) (t : τ) :
    (pollUntilContextCancel condition more t).Uses C := by
  induction more generalizing t with
  | zero => exact hc t
  | succ more ih =>
    refine Prog.uses_bind (hc t) ?_
    intro polled
    split
    · trivial
    · exact ih polled.1

end EnvoyGatewayExtension.Effects
