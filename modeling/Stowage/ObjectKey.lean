import Stowage.Document.Decoding

/-! Keys of cluster objects: a name within a namespace. -/
namespace Stowage

structure ObjectKey where
  «namespace» : String
  name : String
deriving DecidableEq, Repr

namespace ObjectKey

def text (k : ObjectKey) : String := k.namespace ++ "/" ++ k.name

/-- By namespace, then by name. -/
instance : LT ObjectKey where
  lt a b := a.namespace < b.namespace ∨ a.namespace = b.namespace ∧ a.name < b.name

instance : DecidableLT ObjectKey := fun a b =>
  inferInstanceAs (Decidable (a.namespace < b.namespace ∨ a.namespace = b.namespace ∧ a.name < b.name))

/-- The key of the descriptor of a component: object names cannot hold a slash. -/
def ofComponent (component ns : String) : ObjectKey :=
  ⟨ns, component.map fun c => if c = '/' then '-' else c⟩

def document (k : ObjectKey) : Document :=
  .ofMembers [("namespace", .string k.namespace), ("name", .string k.name)]

def decoder : Decoder ObjectKey :=
  .record "struct ObjectKey" (mk <$> .required "namespace" .text <*> .required "name" .text)

end ObjectKey
end Stowage
