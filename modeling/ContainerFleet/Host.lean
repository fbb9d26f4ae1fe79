import ContainerFleet.Text.Blank

/-!
# Hosts

A host has a name and the address of its daemon; the scheme of the address
decides how the daemon is reached.
-/

namespace ContainerFleet

/-- How a daemon is reached. -/
inductive Transport where
  | localSocket
  | tcp
  | ssh
  deriving DecidableEq, Repr

def Transport.name : Transport → String
  | .localSocket => "local"
  | .tcp => "tcp"
  | .ssh => "ssh"

/-- A configured host. -/
structure Host where
  name : String
  uri : String
  deriving DecidableEq, Repr

/-- The scheme of the address, in any letter case and behind any blanks; an
address without a known scheme is a local socket. -/
def Host.transport (host : Host) : Transport :=
  let address := (Text.trim host.uri.toList).map Char.toLower
  let hasScheme (scheme : String) := scheme.toList.isPrefixOf address
  if hasScheme "ssh://" then .ssh
  else if hasScheme "tcp://" || hasScheme "http://" || hasScheme "https://" then .tcp
  else .localSocket

end ContainerFleet
