import SecretFlow.Flow.Container

set_option autoImplicit false
set_option relaxedAutoImplicit false

/-!
The flow graph of a manifest.
-/

namespace SecretFlow.Manifest

/-- The steps before those of the containers: the root, and what could not be read. -/
def openingSteps (m : Manifest) : List GraphStep :=
  .node ⟨GraphStep.rootId, .manifestRoot, some (.manifest m.file "metadata"),
      .text s!"{m.kind}/{m.name}"⟩ ::
    m.issues.map fun issue =>
      .note ⟨.malformedField, issue.message, some (.manifest m.file issue.field)⟩

/-- The steps in which the flow graph is built: the root, and one container after the other. -/
def flowSteps (m : Manifest) (options : FlowOptions) (cluster : Option Cluster)
    (resolve : Resolver) : List GraphStep :=
  let containers := match m.pod? with
    | none => []
    | some pod =>
        pod.containers.flatMap (Place.container m.file options cluster resolve pod.volumes)
  m.openingSteps ++ containers

def flowGraph (m : Manifest) (options : FlowOptions) (cluster : Option Cluster)
    (resolve : Resolver) : Graph :=
  ({ unit := m.unitId } : Graph).run (m.flowSteps options cluster resolve)

end SecretFlow.Manifest
