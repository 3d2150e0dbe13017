import Settle.Failure
import Settle.Value.Basic

/-!
# Shapes

A shape says of what structure a value is expected to be. Conversion projects a value to its
shape: attributes that an object shape does not declare are dropped, and everything else stays in
its place. Null fits every shape.

A hint marks the attributes, by path, that hold an integer or a text; integers there become
texts.
-/

namespace Settle

inductive Shape where
  | any
  | string
  | number
  | bool
  | list (item : Shape)
  | map (entry : Shape)
  | object (attributes : List (Text × Shape))
  deriving Inhabited

/-- Type names by attribute path: attribute names joined by dots, steps into lists and maps left
out. -/
abbrev Hints := List (Text × Text)

namespace Shape

/-- The type name that marks an attribute as integer or text. -/
def intOrString : Text := "io.k8s.apimachinery.pkg.util.intstr.IntOrString"

/-- The path of an attribute below another path. -/
def join (path name : Text) : Text :=
  if path.isEmpty then name else path ++ "." ++ name

/-- A value of the wrong type. -/
def mismatch {α : Type} (path expected : Text) (v : Value) : Except Failure α :=
  .error (.misshapen path ("expected " ++ expected ++ ", got " ++ v.typeName))

/-- A text, or an integer where a hint allows one. -/
def convertString (hints : Hints) (path : Text) : Value → Except Failure Value
  | .str t => .ok (.str t)
  | .int n =>
    if hints.lookup path = some intOrString then
      ((Decimal.write n).mapError Failure.invalid).map Value.str
    else mismatch path "string" (.int n)
  | v => mismatch path "string" v

def convertNumber (path : Text) : Value → Except Failure Value
  | .int n   => .ok (.int n)
  | .float x => .ok (.float x)
  | v        => mismatch path "number" v

def convertBool (path : Text) : Value → Except Failure Value
  | .bool b => .ok (.bool b)
  | v       => mismatch path "bool" v

mutual

/-- The projection of a value to a shape, at an attribute path. -/
def convert (hints : Hints) (path : Text) : Shape → Value → Except Failure Value
  | _,          .null   => .ok .null
  | .any,       v       => .ok v
  | .string,    v       => convertString hints path v
  | .number,    v       => convertNumber path v
  | .bool,      v       => convertBool path v
  | .list item, .list vs => (vs.mapM (convert hints path item)).map .list
  | .list _,    v       => mismatch path "list" v
  | .map entry, .map es =>
    (es.mapM fun e => (convert hints path entry e.2).map (e.1, ·)).map .map
  | .map _,     v       => mismatch path "map" v
  | .object as, .map es => (convertAttributes hints path as es).map .map
  | .object _,  v       => mismatch path "map" v

/-- The entries that the attributes declare, in the order of the attributes. -/
def convertAttributes (hints : Hints) (path : Text) :
    List (Text × Shape) → List (Text × Value) → Except Failure (List (Text × Value))
  | [], _ => .ok []
  | (name, shape) :: as, es =>
    match Value.lookup name es with
    | none   => convertAttributes hints path as es
    | some v => do
      let w ← convert hints (join path name) shape v
      return (name, w) :: (← convertAttributes hints path as es)

end

end Shape

end Settle
