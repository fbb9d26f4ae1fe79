import ContainerFleet.Calendar.UnixTime
import ContainerFleet.Decode.Record
import ContainerFleet.Json.Access
import ContainerFleet.Timestamp.Candidate

/-!
# Images

An image as its daemon lists or describes it, the progress of fetching one,
and what the removal of one left behind.
-/

namespace ContainerFleet

structure Image where
  id : String
  tags : List String
  digests : List String
  size : Int
  virtualSize : Int
  created : Int
  labels : Table String String
  host : String
  deriving DecidableEq, Repr

namespace Image

open Decode

/-- The columns that a listing and a description share. -/
def columns (document created labels : Json) (host : String) : Except ShapeError Members := do
  return [
    ("id", ← document.getD "Id" (.text "")),
    ("repo_tags", (← document.get "RepoTags").orElse (.array [])),
    ("repo_digests", (← document.get "RepoDigests").orElse (.array [])),
    ("size", ← document.getD "Size" (.whole 0)),
    ("virtual_size", (← document.getD "VirtualSize" (.whole 0)).orElse (.whole 0)),
    ("created", created),
    ("labels", labels.orElse (.object [])),
    ("host", .text host)]

/-- The columns of an image in a listing. -/
def listed (document : Json) (host : String) : Except ShapeError Members := do
  columns document (← document.getD "Created" (.whole 0)) (← document.get "Labels") host

def decode (members : Members) : Checked Image :=
  Image.mk <$> required members "id" text
    <*> required members "repo_tags" (list text)
    <*> required members "repo_digests" (list text)
    <*> required members "size" whole
    <*> required members "virtual_size" whole
    <*> required members "created" whole
    <*> required members "labels" (table text)
    <*> required members "host" text

/-- The second of creation, given as a number or as a timestamp; zero where it
is neither. -/
def creationSecond : Json → Except RangeError Json
  | .whole seconds => .ok (.whole seconds)
  | .bool value => .ok (.bool value)
  | .text value => do
    match ← Timestamp.ofCandidate value.toList with
    | some instant => return .whole instant.unixSeconds
    | none => return .whole 0
  | _ => .ok (.whole 0)

end Image

/-- A message about the progress of fetching an image. -/
structure PullProgress where
  status : String
  progress : Option String
  current : Option Int
  total : Option Int
  id : Option String
  error : Option String
  deriving DecidableEq, Repr

namespace PullProgress

open Decode

def columns (document : Json) : Except ShapeError Members := do
  let detail := (← document.get "progressDetail").orElse (.object [])
  return [
    ("status", ← document.getD "status" (.text "")),
    ("progress", ← document.get "progress"),
    ("current", ← detail.get "current"),
    ("total", ← detail.get "total"),
    ("id", ← document.get "id"),
    ("error", ← document.get "error")]

def decode (members : Members) : Checked PullProgress :=
  PullProgress.mk <$> required members "status" text
    <*> required members "progress" (optional text)
    <*> required members "current" (optional whole)
    <*> required members "total" (optional whole)
    <*> required members "id" (optional text)
    <*> required members "error" (optional text)

end PullProgress

/-- The tags and layers that a removal took away, as the daemon named them. -/
structure ImageRemoval where
  untagged : List Json
  deleted : List Json
  deriving BEq, Repr

namespace ImageRemoval

/-- The member under a key as a list of one, or of none where it is empty. -/
def mention (document : Json) (key : String) : Except ShapeError (List Json) := do
  let value ← document.get key
  return if value.isEmpty then [] else [value]

/-- Collect what the parts of the daemon's answer mention. -/
def ofParts : List Json → Except ShapeError ImageRemoval
  | [] => .ok ⟨[], []⟩
  | part :: later => do
    let untagged ← mention part "Untagged"
    let deleted ← mention part "Deleted"
    let rest ← ofParts later
    return ⟨untagged ++ rest.untagged, deleted ++ rest.deleted⟩

/-- The removal that a daemon's answer describes. -/
def ofDocument (document : Json) : Except ShapeError ImageRemoval := do
  ofParts (← (document.orElse (.array [])).parts)

end ImageRemoval
end ContainerFleet
