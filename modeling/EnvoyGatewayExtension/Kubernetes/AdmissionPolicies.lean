import EnvoyGatewayExtension.Cel.Evaluation
import EnvoyGatewayExtension.Kubernetes.Manifests
import EnvoyGatewayExtension.Kubernetes.Selectors

namespace EnvoyGatewayExtension.Kubernetes

open Cel

structure AdmissionRequest where
  operation : String
  apiGroup : String
  apiVersion : String
  resource : String
  namespaceLabels : Labels
  object : Value

def ResourceRule.Matches (rule : ResourceRule) (req : AdmissionRequest) : Prop :=
  req.operation ∈ rule.operations ∧ req.apiGroup ∈ rule.apiGroups ∧
    req.apiVersion ∈ rule.apiVersions ∧ req.resource ∈ rule.resources

def evaluate (env : Env) (expression : String) : Option Value :=
  (parse expression).bind (·.eval env)

def declare (env : Env) (v : AdmissionVariable) : Env :=
  { env with policyVariable := fun x => if x = v.name then evaluate env v.expression
    else env.policyVariable x }

def environment (object : Value) («variables» : List AdmissionVariable) : Env :=
  «variables».foldl declare
    { ident := fun x => if x = "object" then some object else none
      policyVariable := fun _ => none }

/-- The failure policy decides when an expression does not compile or evaluates to an error. -/
def Validation.Passes (failurePolicy : String) (env : Env) (v : Validation) : Prop :=
  match evaluate env v.expression with
  | some (.bool b) => b = true
  | _ => failurePolicy ≠ "Fail"

def Admits (policy binding : Manifest) (req : AdmissionRequest) : Prop :=
  match policy.body, binding.body with
  | .validatingAdmissionPolicy failurePolicy rules «variables» validations,
    .validatingAdmissionPolicyBinding policyName actions selector =>
    policyName = policy.key.name → "Deny" ∈ actions → (∃ rule ∈ rules, rule.Matches req) →
      selector.Matches req.namespaceLabels →
        ∀ v ∈ validations, v.Passes failurePolicy (environment req.object «variables»)
  | _, _ => True

lemma Validation.passes_of_true {failurePolicy : String} {env : Env} {v : Validation}
    (h : evaluate env v.expression = some (.bool true)) : v.Passes failurePolicy env := by
  rw [Validation.Passes, h]

lemma Validation.not_passes_of_false {failurePolicy : String} {env : Env} {v : Validation}
    (h : evaluate env v.expression = some (.bool false)) : ¬ v.Passes failurePolicy env := by
  rw [Validation.Passes, h]
  exact Bool.false_ne_true

end EnvoyGatewayExtension.Kubernetes
