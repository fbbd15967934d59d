import TenantBroker.Cluster.Store

/-!
# Views of the store

A view of the store shows objects rather than copies of them: it goes on to show what becomes of
the objects that it was taken of, until they are deleted. An object that is later created under the
same name is another one and does not show.
-/

namespace TenantBroker.Cluster

/-- An object in a view, and whether it is still in the store. -/
structure Viewed where
  key : Key
  object : Json
  live : Bool

/-- A view of the store: objects by kind, namespace and name. -/
abbrev View := List Viewed

/-- A part of the metadata of an object. -/
def metadataPart (object : Json) (part : String) : Json :=
  match object.get "metadata" >>= (·.get part) with
  | .ok value => value
  | .error _ => .null

/-- The name of an object as it was given. -/
def givenName (object : Json) : Json := metadataPart object "name"

/-- The namespace of an object as it was given, null for a cluster-wide object. -/
def givenNamespace (key : Key) (object : Json) : Json :=
  if key.ns.isSome then metadataPart object "namespace" else .null

/-- What the namespace of a key counts as in the order of keys: cluster-wide objects come first. -/
def Key.place (key : Key) : Name := key.ns.getD (.text "")

/-- Whether two keys have an order. -/
def Key.comparable (a b : Key) : Bool :=
  a.kind ≠ b.kind ||
    if a.place ≠ b.place then a.place.comparable b.place else a.name.comparable b.name

/-- The order of keys. -/
def Key.le (a b : Key) : Bool :=
  if a.kind ≠ b.kind then a.kind < b.kind
  else if a.place ≠ b.place then a.place.le b.place
  else a.name.le b.name

/-- A view of everything in the store; none if the keys have no order. -/
def Store.view (s : Store) : Except Defect View :=
  let keys := s.objects.map (·.1)
  if keys.all fun a ↦ keys.all a.comparable then
    .ok ((s.objects.mergeSort fun a b ↦ a.1.le b.1).map fun o ↦ ⟨o.1, o.2, true⟩)
  else .error .wrongType

/-- What a view shows after a change of the store. -/
def Viewed.follow (s : Store) (v : Viewed) : Viewed :=
  if v.live then
    match s.find? v.key with
    | some object => { v with object }
    | none => { v with live := false }
  else v

/-- What views show after a change of the store. -/
def follow (s : Store) (views : List View) : List View := views.map (·.map (Viewed.follow s))

/-- Answers a call on a store of which views have been taken. -/
def handleViewed : Handler (Store × List View) := fun c (s, views) ↦
  let (reply, s) := Store.handle c s
  (reply, (s, follow s views))

end TenantBroker.Cluster
