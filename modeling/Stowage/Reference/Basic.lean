import Stowage.Reference.Grammar

/-! References to images in registries, such as `registry.local:5000/snapshots/app:v1`. A name without a
registry belongs to the public hub, where a plain name lies in the library. -/
namespace Stowage

structure Reference where
  registry : String
  repository : String
  tag : Option String
  digest : Option String
deriving DecidableEq, Repr

namespace Reference

inductive Malformed where
  | empty | format | tooLong | digestLength | digestAlgorithm
deriving DecidableEq, Repr

def Malformed.message : Malformed → String
  | empty => "repository name must have at least one component"
  | format => "invalid reference format"
  | tooLong => "repository name must not be more than 255 characters"
  | digestLength => "invalid checksum digest length"
  | digestAlgorithm => "unsupported digest algorithm"

def hub : String := "docker.io"

def legacyHub : String := "index.docker.io"

structure Parts where
  name : List Char
  tag : Option (List Char)
  digest : Option (List Char)
deriving DecidableEq, Repr

/-- Splits the tag off the last segment of a name. -/
def cutTag (cs : List Char) : List Char × Option (List Char) :=
  let segment := (cs.reverse.takeWhile (· ≠ '/')).reverse
  let (last, tag) := Text.cutAt ':' segment
  (cs.take (cs.length - segment.length) ++ last, tag)

def Parts.split (cs : List Char) : Parts :=
  let (named, digest) := Text.cutAt '@' cs
  let (name, tag) := cutTag named
  ⟨name, tag, digest⟩

def Parts.isValid (p : Parts) : Bool :=
  isName p.name && p.tag.all isTag && p.digest.all isDigest

/-- A first segment is a registry when it looks like a host. -/
def isRegistry (cs : List Char) : Bool :=
  cs.contains '.' || cs.contains ':' || cs = "localhost".toList

/-- Registry and repository of a name. -/
def locate (name : List Char) : String × String :=
  let (registry, repository) :=
    match Text.cutAt '/' name with
    | (first, some rest) =>
      if isRegistry first then (String.ofList first, rest) else (hub, name)
    | (_, none) => (hub, name)
  let registry := if registry = legacyHub then hub else registry
  let plain := registry = hub ∧ ¬ repository.contains '/'
  (registry, (if plain then "library/" else "") ++ String.ofList repository)

/-- Digests start with the name of an algorithm, which sets how much follows the seventh character. -/
def checkDigest (digest : List Char) : Except Malformed Unit :=
  let expected :=
    if digest.take 6 = "sha256".toList then some 64
    else if digest.take 6 = "sha384".toList then some 96
    else if digest.take 6 = "sha512".toList then some 128
    else none
  match expected with
  | none => .error .digestAlgorithm
  | some length => if (digest.drop 7).length = length then .ok () else .error .digestLength

def read (text : String) : Except Malformed Reference := do
  let cs := text.toList
  if cs.isEmpty then .error .empty
  else
    let parts := Parts.split cs
    if !parts.isValid then .error .format
    else
      let (registry, repository) := locate parts.name
      if 255 < repository.utf8ByteSize then .error .tooLong
      else
        match parts.digest with
        | some digest => checkDigest digest
        | none => .ok ()
        let latest := parts.tag.isNone ∧ parts.digest.isNone
        return { registry, repository
                 tag := if latest then some "latest" else parts.tag.map String.ofList
                 digest := parts.digest.map String.ofList }

/-- The host to talk to. -/
def host (r : Reference) : String := if r.registry = hub then legacyHub else r.registry

def text (r : Reference) : String :=
  r.registry ++ "/" ++ r.repository ++
  (match r.tag with
    | some tag => ":" ++ tag
    | none => "") ++
  (match r.digest with
    | some digest => "@" ++ digest
    | none => "")

end Reference
end Stowage
