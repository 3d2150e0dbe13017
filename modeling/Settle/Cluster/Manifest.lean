import Settle.Cluster.Resource

/-!
# Manifests

A manifest is a document that describes an object: the version and kind of it, and in its metadata
a name and perhaps a namespace.
-/

namespace Settle.Manifest

/-- What a map has under a key, which has to be there. -/
def entry (key : Text) (m : Document) : Except Failure Document :=
  match m.entries? with
  | some es =>
    match Document.lookup key es with
    | some d => .ok d
    | none   => .error (.external "KeyError" key)
  | none => .error .wrongType

/-- What a map has under a key; null if it has nothing. -/
def entryOrNull (key : Text) (m : Document) : Except Failure Document :=
  match m.entries? with
  | some es => .ok ((Document.lookup key es).getD .null)
  | none    => .error .notMap

/-- The metadata, which count as empty where they are blank. -/
def metadata (m : Document) : Except Failure Document := do
  let d ← entryOrNull "metadata" m
  return if d.isBlank then .map [] else d

/-- The name of the object. -/
def name (m : Document) : Except Failure Document := do entry "name" (← entry "metadata" m)

/-- The resource of the object; `usual` is the namespace if the manifest names none. -/
def resource (usual : Text) (m : Document) : Except Failure Resource := do
  let about ← metadata m
  let version ← entry "apiVersion" m
  let kind ← entry "kind" m
  let scope ← entryOrNull "namespace" about
  return ⟨version, kind, if scope.isBlank then .str usual else scope⟩

/-- What describes an object has a version and a kind. -/
def hasKind (m : Document) : Bool :=
  match m.entries? with
  | some es => (Document.lookup "kind" es).isSome && (Document.lookup "apiVersion" es).isSome
  | none    => false

/-- The manifest in the file at a location. -/
def ofDocument (location : Text) (m : Document) : Except Failure Document := do
  if !hasKind m then
    .error (.invalid (location ++ " does not contain a Kubernetes object"))
  if (← entryOrNull "name" (← metadata m)).isBlank then
    .error (.invalid (location ++ ": metadata.name is required"))
  return m

end Settle.Manifest
