import InstanceOperator.Object.Dependent

/-!
# Differences from the desired state

The comparison of a live dependent with the desired one. It looks at what the operator manages and
lets the live object have more: further labels, owners, containers, ports and routes are no
difference.
-/

namespace InstanceOperator

/-- One way in which a live dependent falls short of the desired one. -/
inductive Difference where
  | labelValue (key live want : String)
  | labelMissing (key : String)
  | ownerMissing (owner name : String)
  | selector
  | containerMissing (name : String)
  | containerImage (name : String) (live want : Option String)
  | containerPort (name : String) (port : Int32)
  | servicePort (port : Int32)
  | route (path service : String) (port : Option Int32)
  | kind (live want : Kind)
deriving DecidableEq

namespace Difference

def portText (n : Int32) : String :=
  toString n.toInt

/-- The text of an image, which may be absent. -/
def imageText (image : Option String) : String :=
  image.getD "<none>"

def text : Difference → String
  | .labelValue key live want => "label " ++ key ++ "=" ++ live ++ " (want " ++ want ++ ")"
  | .labelMissing key => "label " ++ key ++ " missing"
  | .ownerMissing owner name => "owner reference to " ++ owner ++ " " ++ name ++ " missing"
  | .selector => "selector differs"
  | .containerMissing name => "container " ++ name ++ " missing"
  | .containerImage name live want =>
    "container " ++ name ++ " image " ++ imageText live ++ " (want " ++ imageText want ++ ")"
  | .containerPort name port => "container " ++ name ++ " port " ++ portText port ++ " missing"
  | .servicePort port => "service port " ++ portText port ++ " missing or retargeted"
  | .route path service port =>
    "route " ++ path ++ " -> " ++ service ++ ":" ++ (port.map portText).getD "" ++ " missing"
  | .kind live want => "kind " ++ live.name ++ " differs from " ++ want.name

end Difference

/-! ## Metadata -/

/-- How one desired label differs in the live labels. -/
def labelDifference? (live : Labels) (label : String × String) : Option Difference :=
  match live.get? label.1 with
  | some v => if v = label.2 then none else some (.labelValue label.1 v label.2)
  | none => some (.labelMissing label.1)

/-- The differences between two objects' metadata. -/
def metadataDifferences (want live : Metadata) : List Difference :=
  ((want.labels.map Labels.entries).getD []).filterMap
      (labelDifference? (live.labels.getD Labels.empty))
    ++ (want.ownerReferences.getD []).filterMap fun owner =>
      -- the identifier alone tells an owner, whatever the rest of its reference says
      if (live.ownerReferences.getD []).any (·.uid = owner.uid) then none
      else some (.ownerMissing owner.kind owner.name)

/-! ## Deployments -/

/-- The labels by which a deployment chooses its pods. -/
def Deployment.selector (d : Deployment) : Option Labels :=
  d.spec.bind (·.selector.matchLabels)

def Deployment.containers (d : Deployment) : List Container :=
  ((d.spec.bind (·.template.spec)).map PodSpec.containers).getD []

def Container.portNumbers (c : Container) : List Int32 :=
  (c.ports.getD []).map ContainerPort.containerPort

/-- The differences between a desired container and the first live one of its name. -/
def containerDifferences (live : List Container) (want : Container) : List Difference :=
  match live.find? (·.name = want.name) with
  | none => [.containerMissing want.name]
  | some found =>
    (if found.image = want.image then []
      else [.containerImage want.name found.image want.image])
      ++ want.portNumbers.filterMap fun p =>
        if p ∈ found.portNumbers then none else some (.containerPort want.name p)

/-- The differences between two deployments' specifications. -/
def deploymentDifferences (want live : Deployment) : List Difference :=
  -- how many pods there are to be is not compared
  (if want.selector = live.selector then [] else [.selector])
    ++ want.containers.flatMap (containerDifferences live.containers)

/-! ## Services -/

/-- The labels by which a service chooses its pods. -/
def Service.selector (s : Service) : Option Labels :=
  s.spec.bind (·.selector)

def Service.ports (s : Service) : List ServicePort :=
  (s.spec.bind (·.ports)).getD []

/-- The differences between two services' specifications. -/
def serviceDifferences (want live : Service) : List Difference :=
  (if want.selector = live.selector then [] else [.selector])
    ++ want.ports.filterMap fun p =>
      -- name and protocol of a port are not compared
      if live.ports.any fun q => q.port = p.port ∧ q.targetPort = p.targetPort then none
      else some (.servicePort p.port)

/-! ## Ingresses -/

/-- A path and the port of a service to which it leads. -/
structure Route where
  path : String
  service : String
  port : Option Int32
deriving DecidableEq

/-- The route of a path that leads to a service. -/
def IngressPath.route? (p : IngressPath) : Option Route :=
  p.backend.service.map fun s => ⟨p.path.getD "", s.name, s.port.bind (·.number)⟩

/-- The routes of an ingress, over all its rules. -/
def Ingress.routes (i : Ingress) : List Route :=
  ((i.spec.bind (·.rules)).getD []).flatMap fun r =>
    (r.paths.getD []).filterMap IngressPath.route?

/-- The differences between two ingresses' specifications. -/
def ingressDifferences (want live : Ingress) : List Difference :=
  want.routes.filterMap fun r =>
    if r ∈ live.routes then none else some (.route r.path r.service r.port)

/-! ## Dependents -/

/-- All differences between a desired dependent and a live one, those of the metadata first. -/
def detectDrift (want live : Dependent) : List Difference :=
  metadataDifferences want.metadata live.metadata
    ++ match want, live with
      | .deployment w, .deployment l => deploymentDifferences w l
      | .service w, .service l => serviceDifferences w l
      | .ingress w, .ingress l => ingressDifferences w l
      | w, l => [.kind l.kind w.kind]

end InstanceOperator
