import InstanceOperator.Desired.Identity

/-!
# Desired state

The three dependents that an instance implies: a deployment that runs one pod, a service in front
of the pod, and an ingress that routes all requests to the service. They are derived from the
identity of the instance and from the reference by which they are to name it as their owner, for
which the client is asked.
-/

namespace InstanceOperator

/-- The value of the `app` label of every dependent. -/
def appLabel : String := "intermineinstance"

def containerName : String := "hello-pod"

def containerImage : String := "paulbouwer/hello-kubernetes:1.10"

def containerPortName : String := "hello"

def servicePortName : String := "http"

/-- The port on which container and service are reached. -/
def appPort : Int32 := 8080

namespace Identity

/-- The labels of every dependent and of its pods. -/
def labels (i : Identity) : Labels :=
  Labels.ofList [("app", appLabel), ("instance", i.name)]

def container : Container where
  name := containerName
  image := some containerImage
  ports := some [{ containerPort := appPort, name := some containerPortName }]

def servicePort : ServicePort where
  name := some servicePortName
  port := appPort
  protocol := some "TCP"
  targetPort := some (.number appPort)

/-- The one route: everything goes to the service. -/
def route (i : Identity) : IngressPath where
  path := some "/"
  pathType := "Prefix"
  backend := {
    service := some {
      name := dependentName i.name .service
      port := some { number := some appPort } } }

end Identity

/-- What all dependents of an instance are made from. -/
structure Base extends Identity where
  /-- The one owner of every dependent. -/
  owner : OwnerReference

namespace Base

/-- The base of the dependents of an instance, with a client that is asked for the reference to it.
Deletion of the owner is made to wait for them. -/
def ofInstance (reference? : Metadata → Option OwnerReference) (i : Instance) :
    Except Malformed Base :=
  match Identity.nonempty i.metadata.name with
  | none => .error .noName
  | some name =>
    match Identity.nonempty i.metadata.ns with
    | none => .error (.noNamespace name)
    | some ns =>
      match Identity.nonempty i.metadata.uid with
      | none => .error (.noUid ⟨ns, name⟩)
      | some uid =>
        -- the client is asked before the names of the dependents are checked
        match reference? i.metadata with
        | none =>
          .error (.described ("cannot derive owner reference for " ++ (ObjectKey.mk ns name).text))
        | some owner =>
          match Identity.rejectedKind? name with
          | some kind => .error (.badName kind (dependentName name kind))
          | none => .ok ⟨⟨name, ns, uid⟩, { owner with blockOwnerDeletion := some true }⟩

def metadata (b : Base) (kind : Kind) : Metadata where
  name := some (dependentName b.name kind)
  ns := some b.ns
  labels := some b.labels
  ownerReferences := some [b.owner]

def deployment (b : Base) : Deployment where
  metadata := b.metadata .deployment
  spec := some {
    replicas := some 1
    selector := { matchLabels := some b.labels }
    template := {
      metadata := some { labels := some b.labels }
      spec := some { containers := [Identity.container] } } }

def service (b : Base) : Service where
  metadata := b.metadata .service
  spec := some {
    type := some "ClusterIP"
    selector := some b.labels
    ports := some [Identity.servicePort] }

def ingress (b : Base) : Ingress where
  metadata := b.metadata .ingress
  spec := some { rules := some [{ paths := some [b.route] }] }

def dependent (b : Base) : Kind → Dependent
  | .deployment => .deployment b.deployment
  | .service => .service b.service
  | .ingress => .ingress b.ingress

/-- The dependents, one of each kind. -/
def dependents (b : Base) : PerKind Dependent where
  deployment := b.dependent .deployment
  service := b.dependent .service
  ingress := b.dependent .ingress

@[simp] theorem kind_dependent (b : Base) (kind : Kind) : (b.dependent kind).kind = kind := by
  cases kind <;> rfl

@[simp] theorem key_dependent (b : Base) (kind : Kind) : (b.dependent kind).key = b.key kind := by
  cases kind <;> rfl

end Base

/-- The dependents that an instance implies, with a client that is asked for the reference to it. -/
def derivedState (reference? : Metadata → Option OwnerReference) (i : Instance) :
    Except Malformed (PerKind Dependent) :=
  (Base.ofInstance reference? i).map Base.dependents

/-- What the client answers: a reference to an instance as managing owner, made from its name and
unique identifier. -/
def managingReference? (m : Metadata) : Option OwnerReference :=
  match m.name, m.uid with
  | some name, some uid =>
    some {
      apiVersion := instanceApiVersion
      kind := instanceKind
      name := name
      uid := uid
      controller := some true }
  | _, _ => none

/-- The dependents that an instance implies. -/
def desiredState (i : Instance) : Except Malformed (PerKind Dependent) :=
  derivedState managingReference? i

end InstanceOperator
