import Stowage.Kinds.Metadata

/-! What the kinds of cluster objects have in common: metadata, a name for the kind and a written form
that states the kind. Reading ignores what a document says of its kind. -/
namespace Stowage

def apiGroup : String := "delivery.ocm.software"

def apiGroupVersion : String := "v1alpha1"

def apiVersion : String := apiGroup ++ "/" ++ apiGroupVersion

class ClusterObject (α : Type) where
  kind : String
  plural : String
  metadata : α → Metadata
  document : α → Document
  decoder : Decoder α

namespace ClusterObject

variable {α : Type} [ClusterObject α]

def key (a : α) : ObjectKey := (metadata a).key

end ClusterObject

def kindDocument (kind : String) (metadata : Metadata) (spec : Document) (status : Option Document) :
    Document :=
  .ofPresent [
    ("apiVersion", some (.string apiVersion)),
    ("kind", some (.string kind)),
    ("metadata", some metadata.document),
    ("spec", some spec),
    ("status", status)]

end Stowage
