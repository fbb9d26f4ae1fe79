import ContainerFleet.Decode.Record
import ContainerFleet.Json.Access

/-!
# Containers

A container as its daemon lists it.  Its id changes when it is made anew; host
and name together are what stays.
-/

namespace ContainerFleet

/-- A listed container. -/
structure Container where
  id : String
  names : List String
  host : String
  image : String
  imageId : String
  command : String
  created : Int
  state : String
  status : String
  labels : Table String String
  deriving DecidableEq, Repr

/-- A name without the slashes at its front. -/
def withoutSlashes (name : String) : String :=
  String.ofList (name.toList.dropWhile (· = '/'))

/-- The name to show for a container: its first name, or the beginning of its
id where it has none. -/
def displayName (id : String) (names : List String) : String :=
  match names with
  | [] => String.ofList (id.toList.take 12)
  | first :: _ => withoutSlashes first

namespace Container

open Decode

def name (container : Container) : String :=
  displayName container.id container.names

def running (container : Container) : Bool :=
  container.state == "running"

/-- Where each field stands in a daemon's listing, and what it is where the
listing does not have it. -/
def columns (document : Json) (host : String) : Except ShapeError Members := do
  return [
    ("id", ← document.getD "Id" (.text "")),
    ("names", (← document.get "Names").orElse (.array [])),
    ("host", .text host),
    ("image", ← document.getD "Image" (.text "")),
    ("image_id", ← document.getD "ImageID" (.text "")),
    ("command", ← document.getD "Command" (.text "")),
    ("created", ← document.getD "Created" (.whole 0)),
    ("state", ← document.getD "State" (.text "")),
    ("status", ← document.getD "Status" (.text "")),
    ("labels", (← document.get "Labels").orElse (.object []))]

def decode (members : Members) : Checked Container :=
  Container.mk <$> required members "id" text
    <*> required members "names" (list text)
    <*> required members "host" text
    <*> required members "image" text
    <*> required members "image_id" text
    <*> required members "command" text
    <*> required members "created" whole
    <*> required members "state" text
    <*> required members "status" text
    <*> required members "labels" (table text)

end Container
end ContainerFleet
