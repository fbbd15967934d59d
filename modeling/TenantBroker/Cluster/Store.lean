import TenantBroker.Cluster.Name
import TenantBroker.Cluster.Program
import TenantBroker.Json.Shown

/-!
# A cluster in memory

The store keeps objects by kind, namespace and name, in the order of their creation. Namespaced
objects need their namespace, names are unique, and deleting a namespace removes what is in it,
unless the store holds deletions back: then the namespace is only marked as terminating, and
nothing can be created in it any more. A call on a kind can be made to fail. Every call that has
reached the store is logged, also one that fails. `SPEC_FULL.md`, section 7.
-/

namespace TenantBroker.Cluster

/-- The four calls by name. -/
inductive Action where
  | create
  | get
  | list
  | delete
  deriving DecidableEq

/-- The name of a call. -/
def Action.name : Action → String
  | .create => "create"
  | .get => "get"
  | .list => "list"
  | .delete => "delete"

/-- What addresses an object. The namespace is none for cluster-wide kinds. -/
structure Key where
  kind : String
  ns : Option Name
  name : Name
  deriving DecidableEq

/-- A call as logged: its subject is the name, or for a list the namespace. -/
structure LogEntry where
  action : Action
  kind : String
  subject : Json

/-- The state of the cluster. -/
structure Store where
  objects : List (Key × Json) := []
  failures : List ((Action × String) × Failure) := []
  holding : Bool := false
  terminating : List Name := []
  generated : Nat := 0
  log : List LogEntry := []

/-- A cluster without objects. -/
def Store.empty : Store := {}

/-- A command failure as the cluster reports it. -/
def serverFailure (category : Category) (stderr : String) : Failure :=
  .cause (.command ⟨"kubectl failed", ["kubectl"], 1, "", stderr, category⟩)

/-- A resource is missing. -/
def notFoundFailure (what : String) : Failure :=
  serverFailure .notFound ("Error from server (NotFound): " ++ what ++ " not found")

/-- A resource is there already. -/
def alreadyExistsFailure (what : String) : Failure :=
  serverFailure .alreadyExists ("Error from server (AlreadyExists): " ++ what ++ " already exists")

/-- A resource in a message. -/
def resourceText (plural : String) (name : Json) : String := plural ++ " \"" ++ name.shown ++ "\""

/-- The key of a namespace. -/
def namespaceKey (name : Name) : Key := ⟨Kind.namespaces.name, none, name⟩

/-- The key that a name and a namespace address, none if the name is null. A namespace counts only
for namespaced kinds. -/
def keyOf (kind : Kind) (name ns : Json) : Except Defect (Option Key) := do
  let name ← Name.ofJson name
  let ns ← if kind.namespaced then Name.ofJson ns else pure none
  pure (name.map fun name ↦ ⟨kind.name, ns, name⟩)

namespace Store

/-- The object under a key. -/
def find? (s : Store) (key : Key) : Option Json := (s.objects.find? (·.1 = key)).map (·.2)

/-- Whether a key has an object. -/
def has (s : Store) (key : Key) : Bool := s.objects.any (·.1 = key)

/-- Logs a call. -/
def logged (s : Store) (action : Action) (kind : Kind) (subject : Json) : Store :=
  { s with log := s.log ++ [⟨action, kind.name, subject⟩] }

/-- The failure that a call on a kind has been given. -/
def failure? (s : Store) (action : Action) (kind : Kind) : Option Failure :=
  (s.failures.find? (·.1 = (action, kind.name))).map (·.2)

/-- Makes a call on the kind of a name fail from now on. -/
def fail (s : Store) (action : Action) (kind : String) (f : Failure) : Store :=
  { s with failures := ((action, kind), f) :: s.failures.filter (·.1 ≠ (action, kind)) }

/-- Lets every call succeed again. -/
def clearFailures (s : Store) : Store := { s with failures := [] }

/-- Holds deletions of namespaces back, or lets them happen at once. -/
def hold (s : Store) (value : Bool) : Store := { s with holding := value }

/-- Removes everything in a namespace, and the namespace. -/
def dropNamespace (s : Store) (name : Name) : Store :=
  { s with objects := s.objects.filter fun o ↦ o.1.ns ≠ some name ∧ o.1 ≠ namespaceKey name }

/-- Ends the termination of a namespace, or removes it at once. Null stands for the place of the
cluster-wide objects, which are all removed. -/
def finish (s : Store) (name : Json) : Except Defect Unit × Store :=
  match Name.ofJson name with
  | .error d => (.error d, s)
  | .ok none => (.ok (), { s with objects := s.objects.filter (·.1.ns.isSome) })
  | .ok (some name) =>
    (.ok (), { s with terminating := s.terminating.filter (· ≠ name) }.dropNamespace name)

/-- A counter in at least five digits. -/
def generatedSuffix (n : Nat) : String :=
  let digits := Nat.toDigits 10 n
  String.ofList (List.replicate (5 - digits.length) '0' ++ digits)

/-- A manifest with a name: its own, or one made of its generate-name and the counter. The second
part is the counter after that. -/
def named (generated : Nat) (metadata : List (String × Json)) :
    Except Defect (Json × List (String × Json)) × Nat :=
  let name := (Json.field? metadata "name").getD .null
  if name.isTruthy then (.ok (name, metadata), generated)
  else
    match Json.field? metadata "generateName" with
    | none => (.error .missingKey, generated + 1)
    | some stem =>
      let name : Json := .str (stem.shown ++ generatedSuffix (generated + 1))
      (.ok (name, Json.setField metadata "name" name), generated + 1)

/-- The metadata of a manifest that is to be stored; a manifest without any gets an empty record.
-/
def submittedMetadata (fields : List (String × Json)) : Except Defect (List (String × Json)) :=
  match Json.field? fields "metadata" with
  | none => .ok []
  | some metadata => metadata.fields

/-- Whether a namespace exists. No namespace has a name that does not count as present. -/
def hasNamespace (s : Store) (ns : Json) : Except Defect Bool :=
  if ns.isTruthy then (Name.ofJson ns).map (·.any fun name ↦ s.has (namespaceKey name))
  else .ok false

/-- Whether a namespace is terminating. -/
def isTerminating (s : Store) (ns : Json) : Bool :=
  s.terminating.any fun name ↦ Name.isNamedBy (some name) ns

/-- Checks that objects of a kind can be created in a namespace. -/
def checkNamespace (s : Store) (kind : Kind) (ns : Json) : Except Failure Unit := do
  if kind.namespaced then
    let present ← (s.hasNamespace ns).mapError .defect
    if !present then throw (notFoundFailure (resourceText Kind.namespaces.plural ns))
    if s.isTerminating ns then
      throw (serverFailure .fatal ("namespace " ++ ns.shown ++ " is being terminated"))

/-- The key under which a manifest can be stored. -/
def freeKey (s : Store) (kind : Kind) (name ns : Json) : Except Failure Key := do
  if let some f := s.failure? .create kind then throw f
  s.checkNamespace kind ns
  match ← (keyOf kind name ns).mapError .defect with
  | none => throw (.defect .wrongType)
  | some key =>
    if s.has key then throw (alreadyExistsFailure (resourceText kind.plural name))
    pure key

/-- Adds an object. -/
def insert (s : Store) (key : Key) (object : Json) : Store :=
  { s with objects := s.objects ++ [(key, object)] }

/-- Stores a manifest under its name. -/
def put (s : Store) (kind : Kind) (name ns object : Json) : Except Failure Json × Store :=
  let s := s.logged .create kind name
  match s.freeKey kind name ns with
  | .error f => (.error f, s)
  | .ok key => (.ok object, s.insert key object)

/-- Creates an object. -/
def create (s : Store) (kind : Kind) (manifest : Json) : Except Failure Json × Store :=
  match manifest.fields with
  | .error d => (.error (.defect d), s)
  | .ok fields =>
    match submittedMetadata fields with
    | .error d => (.error (.defect d), s)
    | .ok metadata =>
      let ns := if kind.namespaced then (Json.field? metadata "namespace").getD .null else .null
      let (outcome, generated) := named s.generated metadata
      let s := { s with generated }
      match outcome with
      | .error d => (.error (.defect d), s)
      | .ok (name, metadata) =>
        s.put kind name ns (.obj (Json.setField fields "metadata" (.obj metadata)))

/-- The object that a name and a namespace address. -/
def lookup (s : Store) (kind : Kind) (name ns : Json) : Except Failure (Key × Json) := do
  let key? ← (keyOf kind name ns).mapError .defect
  match key?.bind fun key ↦ (s.find? key).map (key, ·) with
  | none => throw (notFoundFailure (resourceText kind.plural name))
  | some found => pure found

/-- Finds an object. -/
def get (s : Store) (kind : Kind) (name ns : Json) : Except Failure Json × Store :=
  let s := s.logged .get kind name
  match s.failure? .get kind with
  | some f => (.error f, s)
  | none => ((s.lookup kind name ns).map (·.2), s)

/-- Whether a key belongs to a kind in a namespace. -/
def isListed (kind : Kind) (ns : Json) (key : Key) : Bool :=
  key.kind = kind.name && Name.isNamedBy key.ns (if kind.namespaced then ns else .null)

/-- The objects of a kind in a namespace, by name. -/
def listed (s : Store) (kind : Kind) (ns : Json) : List (Key × Json) :=
  (s.objects.filter fun o ↦ isListed kind ns o.1).mergeSort fun a b ↦ a.1.name.le b.1.name

/-- Lists the objects of a kind in a namespace. This puts all objects in order first, so it fails
if their names have none. -/
def list (s : Store) (kind : Kind) (ns : Json) : Except Failure (List Json) × Store :=
  let s := s.logged .list kind ns
  match s.failure? .list kind with
  | some f => (.error f, s)
  | none =>
    if Name.sortable (s.objects.map (·.1.name)) then (.ok ((s.listed kind ns).map (·.2)), s)
    else (.error (.defect .wrongType), s)

/-- Removes the object under a key. -/
def erase (s : Store) (key : Key) : Store :=
  { s with objects := s.objects.filter (·.1 ≠ key) }

/-- Marks a namespace as terminating. -/
def terminate (s : Store) (name : Name) : Store :=
  { s with
    terminating := if s.terminating.contains name then s.terminating else s.terminating ++ [name] }

/-- Takes an object that is there out of the store. -/
def remove (s : Store) (kind : Kind) (key : Key) : Store :=
  if kind = Kind.namespaces then
    if s.holding then s.terminate key.name else s.dropNamespace key.name
  else s.erase key

/-- Deletes an object. -/
def delete (s : Store) (kind : Kind) (name ns : Json) : Except Failure Unit × Store :=
  let s := s.logged .delete kind name
  match s.failure? .delete kind with
  | some f => (.error f, s)
  | none =>
    match s.lookup kind name ns with
    | .error f => (.error f, s)
    | .ok (key, _) => (.ok (), s.remove kind key)

/-- Answers a call. -/
def handle : Handler Store
  | .create kind manifest, s => s.create kind manifest
  | .get kind name ns, s => s.get kind name ns
  | .list kind ns, s => s.list kind ns
  | .delete kind name ns, s => s.delete kind name ns

/-- Sets the phase in the status of an object. -/
def withPhase (phase object : Json) : Except Defect Json := do
  let fields ← object.fields
  match (Json.field? fields "status").getD (.obj []) with
  | .obj status =>
    .ok (.obj (Json.setField fields "status" (.obj (Json.setField status "phase" phase))))
  | _ => .error .wrongType

/-- Sets the phase of the objects of a kind in a namespace, up to the first whose status is no
record. -/
def withPhases (kind : String) (ns phase : Json) :
    List (Key × Json) → Except Defect Unit × List (Key × Json)
  | [] => (.ok (), [])
  | (key, object) :: rest =>
    if key.kind = kind ∧ Name.isNamedBy key.ns ns then
      match withPhase phase object with
      | .error d => (.error d, (key, object) :: rest)
      | .ok object =>
        let (outcome, rest) := withPhases kind ns phase rest
        (outcome, (key, object) :: rest)
    else
      let (outcome, rest) := withPhases kind ns phase rest
      (outcome, (key, object) :: rest)

/-- Sets the phase of the objects of a kind in a namespace. -/
def setPhase (s : Store) (kind : String) (ns phase : Json) : Except Defect Unit × Store :=
  let (outcome, objects) := withPhases kind ns phase s.objects
  (outcome, { s with objects })

end Store

end TenantBroker.Cluster
