import Stowage.Document.Basic

/-! How a resource entry says where its layer is. Global access, by repository and digest, is the only
way that is understood. -/
namespace Stowage

/-- A repository and the digest of a layer in it. -/
structure GlobalAccess where
  reference : String
  digest : String
deriving DecidableEq, Repr

/-- The reference to one version of the artifact, pinned by its digest. -/
def GlobalAccess.pinned (access : GlobalAccess) (version : String) : String :=
  access.reference ++ ":" ++ version ++ "@" ++ access.digest

namespace Access

inductive Malformed where
  | notObject (kind : String)
  | unrecognised
  | globalNotObject (kind : String)
  | missingField (field : String)
  | wrongType (field found : String)
deriving DecidableEq, Repr

def Malformed.message : Malformed → String
  | notObject kind => s!"access document must be an object, got {kind}"
  | unrecognised => "access document has no recognised access kind (expected globalAccess)"
  | globalNotObject kind => s!"globalAccess must be an object, got {kind}"
  | missingField field => s!"globalAccess.{field} is missing"
  | wrongType field found => s!"globalAccess.{field} must be a non-empty string, got {found}"

def requiredText (field : String) (d : Document) : Except Malformed String :=
  match d.get? field with
  | none | some .null => .error (.missingField field)
  | some (.string s) => if s.isEmpty then .error (.wrongType field "empty string") else .ok s
  | some other => .error (.wrongType field other.kind)

def read (d : Document) : Except Malformed GlobalAccess :=
  match d with
  | .object _ =>
    match d.get? "globalAccess" with
    | none => .error .unrecognised
    | some (.object ms) => do
      let reference ← requiredText "ref" (.object ms)
      let digest ← requiredText "digest" (.object ms)
      return ⟨reference, digest⟩
    | some other => .error (.globalNotObject other.kind)
  | other => .error (.notObject other.kind)

def document (access : GlobalAccess) : Document :=
  .ofMembers [("globalAccess",
    .ofMembers [("ref", .string access.reference), ("digest", .string access.digest)])]

end Access
end Stowage
