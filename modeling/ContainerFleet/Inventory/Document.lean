import ContainerFleet.Inventory.Image
import ContainerFleet.Inventory.Network
import ContainerFleet.Json.Build

/-!
# Documents about an inventory

The documents in which containers, images and networks are handed to a caller.
What is absent is null; names that are worked out stand beside the fields that
a daemon gave.
-/

namespace ContainerFleet

open Json (ofTexts ofTable ofList ofOption)

def Container.document (container : Container) : Json :=
  .object [("id", .text container.id), ("names", ofTexts container.names),
    ("host", .text container.host), ("image", .text container.image),
    ("image_id", .text container.imageId), ("command", .text container.command),
    ("created", .whole container.created), ("state", .text container.state),
    ("status", .text container.status), ("labels", ofTable container.labels),
    ("name", .text container.name), ("running", .bool container.running)]

def Image.document (image : Image) : Json :=
  .object [("id", .text image.id), ("repo_tags", ofTexts image.tags),
    ("repo_digests", ofTexts image.digests), ("size", .whole image.size),
    ("virtual_size", .whole image.virtualSize), ("created", .whole image.created),
    ("labels", ofTable image.labels), ("host", .text image.host)]

def PullProgress.document (progress : PullProgress) : Json :=
  .object [("status", .text progress.status), ("progress", ofOption .text progress.progress),
    ("current", ofOption .whole progress.current), ("total", ofOption .whole progress.total),
    ("id", ofOption .text progress.id), ("error", ofOption .text progress.error)]

def ImageRemoval.document (removal : ImageRemoval) : Json :=
  .object [("untagged", .array removal.untagged), ("deleted", .array removal.deleted)]

def Network.document (network : Network) : Json :=
  .object [("id", .text network.id), ("name", .text network.name),
    ("driver", .text network.driver), ("scope", .text network.scope),
    ("internal", .bool network.isInternal), ("enable_ipv6", .bool network.ipv6),
    ("labels", ofTable network.labels), ("host", .text network.host),
    ("containers", .whole network.containers)]

def AddressPool.document (pool : AddressPool) : Json :=
  .object [("subnet", .text pool.subnet), ("gateway", ofOption .text pool.gateway),
    ("ip_range", ofOption .text pool.range), ("aux_addresses", ofTable pool.auxiliary)]

def AddressPlan.document (plan : AddressPlan) : Json :=
  .object [("driver", .text plan.driver), ("config", ofList AddressPool.document plan.pools),
    ("options", ofTable plan.options)]

def Attachment.document (attachment : Attachment) : Json :=
  .object [("container_id", .text attachment.containerId),
    ("container_name", .text attachment.containerName), ("ipv4_address", .text attachment.ipv4),
    ("ipv6_address", .text attachment.ipv6), ("mac_address", .text attachment.mac)]

def NetworkDetails.document (details : NetworkDetails) : Json :=
  .object [("id", .text details.id), ("name", .text details.name),
    ("driver", .text details.driver), ("scope", .text details.scope),
    ("internal", .bool details.isInternal), ("enable_ipv6", .bool details.ipv6),
    ("labels", ofTable details.labels), ("host", .text details.host),
    ("ipam", details.addresses.document),
    ("connected_containers", ofList Attachment.document details.attached),
    ("options", ofTable details.options), ("created", .text details.created)]

end ContainerFleet
