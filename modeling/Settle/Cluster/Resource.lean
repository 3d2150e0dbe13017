import Settle.Clock.Event
import Settle.Document.Shown

/-!
# Objects of one kind

A resource is a kind of object, in one namespace if the kind has namespaces. What the server
replies to a request about one of its objects is told, and is made into what a wait or a write can
judge: an object that does not exist is gone when it is read, a manifest that the server finds
fault with is not worth another attempt, and an object that is gone needs no deletion.
-/

namespace Settle

structure Resource where
  version : Document
  kind    : Document
  /-- The namespace; null if there is none. -/
  scope   : Document

namespace Refusal

/-- There is no such object, or there is none any more. -/
def isAbsence (r : Refusal) : Bool := r.status? = some 404 || r.status? = some 410

/-- The manifest itself is at fault. -/
def isFinal (r : Refusal) : Bool := r.status? = some 400 || r.status? = some 422

end Refusal

namespace Resource

/-- The resource without its namespace, unless the kind has namespaces. -/
def within (r : Resource) (namespaced : Bool) : Resource :=
  if namespaced then r else { r with scope := .null }

/-- An object in messages. -/
def describe (r : Resource) (name : Document) : Text :=
  r.kind.shown ++ " " ++
    (if r.scope.isBlank then name.shown else r.scope.shown ++ "/" ++ name.shown)

@[simp] theorem within_true (r : Resource) : r.within true = r := rfl

@[simp] theorem within_scope_false (r : Resource) : (r.within false).scope = .null := rfl

/-! ### Replies -/

variable {τ α : Type}

/-- A reply with another result, and what is told of it. -/
def told {β : Type} (reply : Reply τ α) (result : Except Failure β) (n : Notice τ) : Reply τ β :=
  ⟨result, reply.delay, reply.notices ++ [n]⟩

/-- The reply to the request for an object. -/
def read (r : Resource) (name : Document) (reply : Reply τ α) : Reply τ α :=
  match reply.result with
  | .error (.refused e) =>
    if e.isAbsence then told reply (.error (.gone name.shown)) (.vanished (r.describe name))
    else told reply reply.result (.readFailed (r.describe name) e)
  | _ => reply

/-- The reply to the request to store a manifest. -/
def store (r : Resource) (name : Document) (reply : Reply τ α) : Reply τ α :=
  match reply.result with
  | .error (.refused e) =>
    if e.isFinal then
      told reply (.error (.permanent (.refused e))) (.rejected (r.describe name) e)
    else told reply reply.result (.storeFailed (r.describe name) e)
  | .error _ => reply
  | .ok _    => told reply reply.result (.stored (r.describe name))

/-- The reply to the request to delete an object. -/
def remove (r : Resource) (name : Document) (propagation : Text) (reply : Reply τ α) :
    Reply τ Unit :=
  match reply.result with
  | .error (.refused e) =>
    if e.isAbsence then told reply (.ok ()) (.alreadyDeleted (r.describe name))
    else told reply (.error (.refused e)) (.deletionFailed (r.describe name) e)
  | .error e => ⟨.error e, reply.delay, reply.notices⟩
  | .ok _    => told reply (.ok ()) (.deletionRequested (r.describe name) propagation)

end Resource

end Settle
