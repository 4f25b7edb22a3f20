import EnvoyGatewayExtension.Actuator.Footprints

namespace EnvoyGatewayExtension.Actuator

open Effects Kubernetes EnvoyGateway Stores

structure Episode where
  op : Operation
  ex : Invocation
  before : World
  trace : List (Answered clusters GoError World)
  outcome : Except GoError Unit
  after : World

/-- What others do between two operations: anything, save for the objects of the controller. -/
structure Drift (w w' : World) : Prop where
  deployment : w'.deployment = w.deployment
  secrets : w'.secrets = w.secrets

lemma Drift.refl (w : World) : Drift w w := ⟨rfl, rfl⟩

inductive Run (lib : Libraries) (generate : Generator) : World → List Episode → Prop
  | nil {w} : Run lib generate w []
  | cons {w ep eps} : Drift w ep.before →
      Exec (answers generate) (ep.op.program lib ep.ex) ep.before ep.trace ep.outcome ep.after →
      Run lib generate ep.after eps → Run lib generate w (ep :: eps)

namespace Run

variable {lib : Libraries} {generate : Generator} {w : World} {eps : List Episode}

lemma invariant {K : World → Prop} (hr : Run lib generate w eps)
    (hd : ∀ w w', Drift w w' → K w → K w')
    (hop : ∀ (op : Operation) ex w tr out w',
      Exec (answers generate) (op.program lib ex) w tr out w' → K w → K w')
    (hw : K w) : ∀ ep ∈ eps, K ep.before := by
  induction hr with
  | nil => simp
  | cons hdrift he _ ih =>
    have hb := hd _ _ hdrift hw
    exact List.forall_mem_cons.mpr ⟨hb, ih (hop _ _ _ _ _ _ he hb)⟩

lemma executed (hr : Run lib generate w eps) : ∀ ep ∈ eps,
    Exec (answers generate) (ep.op.program lib ep.ex) ep.before ep.trace ep.outcome ep.after := by
  induction hr with
  | nil => simp
  | cons _ he _ ih => exact List.forall_mem_cons.mpr ⟨he, ih⟩

end Run

section Undisturbed

def undisturbed (lib : Libraries) (generate : Generator) (op : Operation) (ex : Invocation)
    (w : World) : Except GoError Unit × World :=
  serve (I := clusters) (World.perform generate) (op.program lib ex) w

lemma exists_exec {α : Type} (generate : Generator) (p : Op α) (w : World) :
    ∃ tr out w', Exec (answers generate) p w tr out w' := by
  obtain ⟨tr, he⟩ :=
    exec_serve (I := clusters) (h := answers generate) (fun _ _ => Answers.done) p w
  exact ⟨tr, _, _, he⟩

lemma exec_undisturbed (lib : Libraries) (generate : Generator) (op : Operation) (ex : Invocation)
    (w : World) :
    ∃ tr, Exec (answers generate) (op.program lib ex) w tr (undisturbed lib generate op ex w).1
      (undisturbed lib generate op ex w).2 :=
  exec_serve (I := clusters) (fun _ _ => Answers.done) _ w

def sampleGenerator : Generator := fun _ configs =>
  .ok (configs.foldl
    (fun generated c => generated.insert c.config.getName (.ofList [(dataKeyCertificate, [1]),
    (dataKeyPrivateKey, [2]), (dataKeyCertificateCA, [3]), (hmacSecretKey, [4])])) ∅)

def awakeCluster : Cluster := { shoot := some {} }

def sampleInvocation : Invocation := { clusterName := "shoot--foo--bar", providerConfig := some [] }

end Undisturbed

end EnvoyGatewayExtension.Actuator
