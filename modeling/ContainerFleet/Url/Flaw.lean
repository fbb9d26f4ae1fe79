import ContainerFleet.Text.Quoted

/-!
# Flaws of addresses

Why a text is no address of a resource, and the words for each reason.
-/

namespace ContainerFleet

/-- Why a text is no address. -/
inductive Url.Flaw where
  | tooLong
  /-- A part has become too long by spelling out its characters. -/
  | partTooLong (part : String)
  | unprintable (char : Char) (position : Nat)
  | badPort (text : String)
  /-- The host looks like four numbers with dots between them, but is not. -/
  | badNumbers (host : String)
  /-- The host stands in brackets and is no address of the sixth version. -/
  | badBrackets (host : String)
  | badName (host : String)
  /-- The path of an address without a scheme and a host begins so. -/
  | badStart (start : String)
  deriving DecidableEq, Repr

def Url.Flaw.message : Url.Flaw → String
  | .tooLong => "URL too long"
  | .partTooLong part => s!"URL component '{part}' too long"
  | .unprintable char position =>
    "Invalid non-printable ASCII character in URL, " ++ Text.quoted (String.singleton char) ++
      s!" at position {position}."
  | .badPort text => s!"Invalid port: {Text.quoted text}"
  | .badNumbers host => s!"Invalid IPv4 address: {Text.quoted host}"
  | .badBrackets host => s!"Invalid IPv6 address: {Text.quoted host}"
  | .badName host => s!"Invalid IDNA hostname: {Text.quoted host}"
  | .badStart start => s!"Relative URLs cannot have a path starting with '{start}'"

end ContainerFleet
