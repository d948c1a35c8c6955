import Stowage.Access
import Stowage.Identity
import Stowage.Reference.Basic
import Stowage.Scheme

/-! A remote layer, pinned by its digest: what it is called, where it is fetched, and what a request for
it says. -/
namespace Stowage

structure InvalidReference where
  reference : String
  reason : String
deriving DecidableEq, Repr

def InvalidReference.message (e : InvalidReference) : String :=
  s!"invalid reference {Text.quoted e.reference}: {e.reason}"

def Reference.parse (text : String) : Except InvalidReference Reference :=
  (Reference.read text).mapError fun e => ⟨text, e.message⟩

structure Remote where
  /-- The text that was resolved. -/
  canonical : String
  version : String
  reference : Reference
  digest : String
  pinned : reference.digest = some digest
deriving DecidableEq, Repr

namespace Remote

def resolve (access : GlobalAccess) (version : String) : Except InvalidReference Remote := do
  let canonical := access.pinned version
  let reference ← Reference.parse canonical
  match h : reference.digest with
  | some digest => return { canonical, version, reference, digest, pinned := h }
  | none => .error ⟨canonical, "no digest"⟩

def registry (r : Remote) : String := r.reference.registry

def host (r : Remote) : String := r.reference.host

def repository (r : Remote) : String := r.reference.repository

def qualifiedRepository (r : Remote) : String := r.host ++ "/" ++ r.repository

def image (r : Remote) : String := r.qualifiedRepository ++ "@" ++ r.digest

def identity (r : Remote) : Identity where
  digest := some r.canonical
  registry := some r.host
  repository := some r.qualifiedRepository
  tag := some r.version
  image := some r.image

def blobUrl (scheme : Scheme) (r : Remote) : String :=
  scheme.text ++ "://" ++ r.host ++ "/v2/" ++ r.repository ++ "/blobs/" ++ r.digest

end Remote
end Stowage
