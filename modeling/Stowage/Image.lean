import Stowage.Digest.Basic
import Stowage.Document.Writer
import Stowage.Gzip.Basic
import Stowage.Moment.Basic

/-! Images of a single layer: the layer as it was fetched, a small configuration, and annotations that
say when and as what the image was made. -/
namespace Stowage

structure Stamp where
  created : Moment
  reference : String
deriving DecidableEq, Repr

def Stamp.annotations (s : Stamp) : List (String × String) :=
  [("org.opencontainers.image.created", s.created.text),
   ("org.opencontainers.image.ref.name", s.reference)]

structure Layer where
  data : Bytes
  mediaType : String
  /-- Digest of the data as stored. -/
  digest : String
  /-- Digest of the data uncompressed. -/
  diffId : String
deriving DecidableEq, Repr

structure Image where
  layer : Layer
  config : Document
  annotations : List (String × String)

namespace Image

def configMediaType : String := "application/vnd.oci.image.config.v1+json"

def tarMediaType : String := "application/vnd.oci.image.layer.v1.tar"

def gzipMediaType : String := "application/vnd.oci.image.layer.v1.tar+gzip"

/-- The configuration; its members are written in this order. -/
def configDocument (created : Moment) (diffId : String) : Document :=
  .object [
    ("architecture", .string "amd64"),
    ("os", .string "linux"),
    ("created", .string created.text),
    ("config", .object []),
    ("rootfs", .object [("type", .string "layers"), ("diff_ids", .array [.string diffId])]),
    ("history", .array [.object [
      ("created", .string created.text), ("created_by", .string "ferry snapshot")]])]

/-- The digest of data that is not compressed: the given one if it is of the algorithm that diff ids
use. -/
def plainDiffId (data : Bytes) (digest : String) : String :=
  if digest.startsWith "sha256:" then digest else Digest.sha256Text data

/-- Wraps data of a digest as the sole layer; only decompression can fail. -/
def ofLayer (data : Bytes) (digest : String) (stamp : Stamp) : Except Gzip.Fault Image := do
  let gzipped := Gzip.isGzip data
  let diffId ←
    if gzipped then Digest.sha256Text <$> Gzip.decompress data
    else pure (plainDiffId data digest)
  let mediaType := if gzipped then gzipMediaType else tarMediaType
  return {
    layer := { data, mediaType, digest, diffId }
    config := configDocument stamp.created diffId
    annotations := stamp.annotations }

def configData (i : Image) : Bytes := Bytes.ofText i.config.render

def configDigest (i : Image) : String := Digest.sha256Text i.configData

end Image
end Stowage
