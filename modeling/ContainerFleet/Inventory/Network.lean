import ContainerFleet.Decode.Record
import ContainerFleet.Fault
import ContainerFleet.Inventory.Container

/-!
# Networks

A network as its daemon lists it, and in detail with its address pools and
the containers attached to it.
-/

namespace ContainerFleet

structure Network where
  id : String
  name : String
  driver : String
  scope : String
  isInternal : Bool
  ipv6 : Bool
  labels : Table String String
  host : String
  containers : Int
  deriving DecidableEq, Repr

open Decode

/-- Whether a member says yes: anything but an empty document does. -/
def Json.says (document : Json) (key : String) : Except ShapeError Bool := do
  return !(← document.get key).isEmpty

namespace Network

/-- The columns that a listing and a description share. -/
def columns (document : Json) (host : String) : Except ShapeError Members := do
  return [
    ("id", ← document.getD "Id" (.text "")),
    ("name", ← document.getD "Name" (.text "")),
    ("driver", ← document.getD "Driver" (.text "")),
    ("scope", ← document.getD "Scope" (.text "")),
    ("internal", .bool (← document.says "Internal")),
    ("enable_ipv6", .bool (← document.says "EnableIPv6")),
    ("labels", (← document.get "Labels").orElse (.object [])),
    ("host", .text host)]

/-- The columns of a network in a listing. -/
def listed (document : Json) (host : String) : Except ShapeError Members := do
  let shared ← columns document host
  let attached ← ((← document.get "Containers").orElse (.object [])).count
  return shared ++ [("containers", .whole attached)]

def decode (members : Members) : Checked Network :=
  Network.mk <$> required members "id" text
    <*> required members "name" text
    <*> required members "driver" text
    <*> required members "scope" text
    <*> required members "internal" flag
    <*> required members "enable_ipv6" flag
    <*> required members "labels" (table text)
    <*> required members "host" text
    <*> required members "containers" whole

end Network

/-- A pool of addresses. -/
structure AddressPool where
  subnet : String
  gateway : Option String
  range : Option String
  auxiliary : Table String String
  deriving DecidableEq, Repr

namespace AddressPool

def columns (document : Json) : Except ShapeError Members := do
  return [
    ("subnet", ← document.getD "Subnet" (.text "")),
    ("gateway", ← document.get "Gateway"),
    ("ip_range", ← document.get "IPRange"),
    ("aux_addresses", (← document.get "AuxiliaryAddresses").orElse (.object []))]

def decode (members : Members) : Checked AddressPool :=
  AddressPool.mk <$> required members "subnet" text
    <*> required members "gateway" (optional text)
    <*> required members "ip_range" (optional text)
    <*> required members "aux_addresses" (table text)

end AddressPool

/-- How the addresses of a network are managed. -/
structure AddressPlan where
  driver : String
  pools : List AddressPool
  options : Table String String
  deriving DecidableEq, Repr

def AddressPlan.decode (pools : List AddressPool) (members : Members) : Checked AddressPlan :=
  AddressPlan.mk <$> required members "driver" text <*> pure pools
    <*> required members "options" (table text)

/-- A container attached to a network. -/
structure Attachment where
  containerId : String
  containerName : String
  ipv4 : String
  ipv6 : String
  mac : String
  deriving DecidableEq, Repr

namespace Attachment

def columns (containerId : String) (document : Json) : Except ShapeError Members := do
  let name ← ((← document.get "Name").orElse (.text "")).textFor "lstrip"
  return [
    ("container_id", .text containerId),
    ("container_name", .text (withoutSlashes name)),
    ("ipv4_address", ← document.getD "IPv4Address" (.text "")),
    ("ipv6_address", ← document.getD "IPv6Address" (.text "")),
    ("mac_address", ← document.getD "MacAddress" (.text ""))]

def decode (members : Members) : Checked Attachment :=
  Attachment.mk <$> required members "container_id" text
    <*> required members "container_name" text
    <*> required members "ipv4_address" text
    <*> required members "ipv6_address" text
    <*> required members "mac_address" text

end Attachment

/-- A network in detail. -/
structure NetworkDetails where
  id : String
  name : String
  driver : String
  scope : String
  isInternal : Bool
  ipv6 : Bool
  labels : Table String String
  host : String
  addresses : AddressPlan
  attached : List Attachment
  options : Table String String
  created : String
  deriving DecidableEq, Repr

namespace NetworkDetails

def decode (addresses : AddressPlan) (attached : List Attachment) (members : Members) :
    Checked NetworkDetails :=
  NetworkDetails.mk <$> required members "id" text
    <*> required members "name" text
    <*> required members "driver" text
    <*> required members "scope" text
    <*> required members "internal" flag
    <*> required members "enable_ipv6" flag
    <*> required members "labels" (table text)
    <*> required members "host" text
    <*> pure addresses
    <*> pure attached
    <*> required members "options" (table text)
    <*> required members "created" text

end NetworkDetails

/-- Take columns from a document and check them, a wrong kind of document
first. -/
def ofColumns {α : Type} (columns : Except ShapeError Members) (decode : Members → Checked α) :
    Except Fault α := do
  ((decode (← columns.mapError .shape)).toExcept).mapError .invalid

/-- The details that a daemon describes.  The pools are read first, then the
attached containers, then the network itself. -/
def NetworkDetails.ofDocument (document : Json) (host : String) :
    Except Fault NetworkDetails := do
  let plan := (← (document.get "IPAM").mapError .shape).orElse (.object [])
  let listed ← (plan.get "Config").mapError .shape
  let pools ← (← ((listed.orElse (.array [])).parts).mapError .shape).mapM fun pool =>
    ofColumns (AddressPool.columns pool) AddressPool.decode
  let containers ← (document.get "Containers").mapError .shape
  let attached ← (← ((containers.orElse (.object [])).entries).mapError .shape).mapM
    fun (containerId, container) =>
      ofColumns (Attachment.columns containerId container) Attachment.decode
  let shared ← (Network.columns document host).mapError .shape
  let addresses ← ofColumns
    (do return [("driver", ← plan.getD "Driver" (.text "")),
      ("options", (← plan.get "Options").orElse (.object []))])
    (AddressPlan.decode pools)
  ofColumns
    (do return shared ++ [("options", (← document.get "Options").orElse (.object [])),
      ("created", ← document.getD "Created" (.text ""))])
    (NetworkDetails.decode addresses attached)

end ContainerFleet
