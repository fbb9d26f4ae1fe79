import ContainerFleet.Decode.Typed
import ContainerFleet.Url.Flaw
import ContainerFleet.Url.HostName
import ContainerFleet.Url.Numeric
import ContainerFleet.Url.Percent

/-!
# Addresses of resources

An address in its normal form: scheme and host in small letters, no port that
goes without saying, no detours in the path, and everything that may not stand
for itself spelled out.  `read` brings a text into this form, `write` is its
text.
-/

namespace ContainerFleet

/-- An address.  Scheme, user, host and path are empty where they are not
given, and a host in brackets is kept without them. -/
structure Url where
  scheme : List Char
  user : List Char
  host : List Char
  port : Option Int
  path : List Char
  query : Option (List Char)
  fragment : Option (List Char)
  deriving DecidableEq, Repr

namespace Url

/-- How long an address may be, and each part of one that is put together. -/
def lengthLimit : Nat := 65536

/-- The first character that is not printable in ASCII, and its place. -/
def unprintable? (chars : List Char) : Option (Char × Nat) :=
  chars.zipIdx.find? fun entry => entry.1.toNat < 0x20 || entry.1.toNat = 0x7f

/-- A character of a scheme behind the first. -/
def isSchemeChar (char : Char) : Bool :=
  char.isAlphanum || char = '+' || char = '.' || char = '-'

/-- The scheme in front of a colon, and what follows.  There may be nothing
before the colon. -/
def splitScheme (chars : List Char) : List Char × List Char :=
  let scheme := chars.takeWhile isSchemeChar
  match chars.dropWhile isSchemeChar with
  | ':' :: rest =>
    if scheme.head?.all Char.isAlpha then (scheme, rest) else ([], chars)
  | _ => ([], chars)

/-- What stands behind two slashes, up to the path, the query or the fragment. -/
def splitAuthority : List Char → List Char × List Char
  | '/' :: '/' :: rest =>
    let ends := fun char => char = '/' || char = '?' || char = '#'
    (rest.takeWhile (!ends ·), rest.dropWhile (!ends ·))
  | chars => ([], chars)

/-- A text up to the first of a mark, and what stands behind the mark. -/
def cutBefore (mark : Char) (chars : List Char) : List Char × Option (List Char) :=
  match Text.cutAt? mark chars with
  | some (before, after) => (before, some after)
  | none => (chars, none)

/-- A text up to and with the last of a mark, and the rest. -/
def cutBehindLast (mark : Char) (chars : List Char) : List Char × List Char :=
  let behind := (chars.reverse.takeWhile (· ≠ mark)).reverse
  (chars.take (chars.length - behind.length), behind)

/-- The host in front of a text, with its brackets where it has some, and the
rest. -/
def splitHost (chars : List Char) : List Char × List Char :=
  if chars.head? = some '[' && chars.contains ']' then cutBehindLast ']' chars
  else (chars.takeWhile (· ≠ ':'), chars.dropWhile (· ≠ ':'))

/-- The port that goes without saying for a scheme. -/
def usualPort? (scheme : List Char) : Option Int :=
  [("ftp", 21), ("http", 80), ("https", 443), ("ws", 80), ("wss", 443)].lookup
    (String.ofList scheme)

/-- The port that a text says, none where it goes without saying; schemes are
known in small letters only. -/
def readPort (scheme text : List Char) : Except Flaw (Option Int) :=
  if text.isEmpty then .ok none
  else
    match Decode.wholeOfWord? (String.ofList text) with
    | none => .error (.badPort (String.ofList text))
    | some port => .ok (if usualPort? scheme = some port then none else some port)

/-- The normal form of a host. -/
def readHost (host : List Char) : Except Flaw (List Char) :=
  if looksDotted host then
    if isDotted host then .ok host else .error (.badNumbers (String.ofList host))
  else if host.head? = some '[' && host.getLast? = some ']' then
    let address := (host.drop 1).dropLast
    if isZoned address then .ok address else .error (.badBrackets (String.ofList host))
  else if host.all fun char => char.toNat < 0x80 then
    .ok (escape isHostChar (host.map Char.toLower))
  else
    match nameText? host with
    | some name => .ok name
    | none => .error (.badName (String.ofList host))

/-- Follow a step of a path from the steps before it, latest first: one dot
stays, two dots go back, but not behind the beginning. -/
def follow (steps : List (List Char)) (step : List Char) : List (List Char) :=
  if step = ['.'] then steps
  else if step = ['.', '.'] then if steps = [[]] then steps else steps.drop 1
  else step :: steps

/-- A path without detours. -/
def straight (path : List Char) : List Char :=
  let steps := Text.splitAt '/' path
  if steps.contains ['.'] || steps.contains ['.', '.'] then
    List.intercalate ['/'] (steps.foldl follow []).reverse
  else path

/-- The beginnings that a path may not have without a scheme and a host. -/
def checkStart (path : List Char) : Except Flaw Unit :=
  match path with
  | '/' :: '/' :: _ => .error (.badStart "//")
  | ':' :: _ => .error (.badStart ":")
  | _ => .ok ()

/-- Read an address that is not too long and printable. -/
def readParts (chars : List Char) : Except Flaw Url := do
  let (scheme, rest) := splitScheme chars
  let (authority, rest) := splitAuthority rest
  let (rest, fragment) := cutBefore '#' rest
  let (path, query) := cutBefore '?' rest
  let (user, place) := cutBehindLast '@' authority
  let (host, port) := splitHost place
  let user := escape (printableBut userMarks) user.dropLast
  let host ← readHost host
  let port ← readPort scheme (if port.head? = some ':' then port.drop 1 else port)
  let scheme := scheme.map Char.toLower
  let bare := scheme.isEmpty && user.isEmpty && host.isEmpty && port.isNone
  if bare then checkStart path
  return {
    scheme := scheme
    user := user
    host := host
    port := port
    path := escape (printableBut pathMarks) (if bare then path else straight path)
    query := query.map (escape (printableBut queryMarks))
    fragment := fragment.map (escape (printableBut fragmentMarks)) }

/-- The address that a text says, in its normal form. -/
def read (text : String) : Except Flaw Url :=
  if lengthLimit < text.length then .error .tooLong
  else
    match unprintable? text.toList with
    | some (char, position) => .error (.unprintable char position)
    | none => readParts text.toList

/-- A part that is there, between two marks. -/
def marked (before part after : List Char) : List Char :=
  if part.isEmpty then [] else before ++ part ++ after

/-- User, host and port. -/
def authority (url : Url) : List Char :=
  marked [] url.user ['@'] ++
    (if url.host.contains ':' then '[' :: url.host ++ [']'] else url.host) ++
    (url.port.map fun port => ':' :: (toString port).toList).getD []

/-- A part behind a mark, where the part is given. -/
def behind (mark : Char) (part : Option (List Char)) : List Char :=
  (part.map (mark :: ·)).getD []

/-- The text of an address. -/
def write (url : Url) : String :=
  String.ofList (marked [] url.scheme [':'] ++ marked ['/', '/'] url.authority [] ++ url.path ++
    behind '?' url.query ++ behind '#' url.fragment)

/-- An address says by itself where something is if it has a scheme and a
host. -/
def isAbsolute (url : Url) : Bool :=
  !url.scheme.isEmpty && !url.host.isEmpty

/-- The place that an address says from the root of the receiver: its path,
behind a single slash, and its query. -/
def fromRoot (url : Url) : Except Flaw Url := do
  let path := '/' :: url.path.dropWhile (· = '/')
  if lengthLimit < path.length then throw (.partTooLong "path")
  if (url.query.map List.length).any (lengthLimit < ·) then throw (.partTooLong "query")
  return ⟨[], [], [], none, path, url.query, none⟩

/-- Where a message for an address goes: to the place it says, which is taken
from the root where it does not say it by itself. -/
def target (url : Url) : Except Flaw Url :=
  if url.isAbsolute then .ok url else url.fromRoot

end Url
end ContainerFleet
