import ContainerFleet.Text.Utf8

/-!
# Lines out of pieces

Pieces of output do not end where lines end.  A buffer holds the octets of a
line that has not ended and hands over each line that has: without its line
feed, without one carriage return before it, and not at all if nothing is
left.  The receiver of a line may fail; the buffer has then given up that
line and keeps everything behind it.
-/

namespace ContainerFleet
namespace Log

/-- The octets that wait for a line feed. -/
structure LineBuffer where
  pending : List UInt8
  deriving DecidableEq, Repr

namespace LineBuffer

def lineFeed : UInt8 := 0x0A

def carriageReturn : UInt8 := 0x0D

/-- A buffer that has seen nothing. -/
def empty : LineBuffer := ⟨[]⟩

/-- A receiver of lines, which may fail and whose state survives a failure. -/
abbrev Receiver (ε σ : Type) := String → EStateM ε σ Unit

/-- A line without one carriage return at its end. -/
def withoutReturn (line : List UInt8) : List UInt8 :=
  if line.getLast? = some carriageReturn then line.dropLast else line

/-- Hand over one line, if anything is in it. -/
def emit {ε σ : Type} (receive : Receiver ε σ) (line : List UInt8) : EStateM ε σ Unit :=
  let content := withoutReturn line
  if content.isEmpty then pure () else receive (Utf8.decodeText content)

/-- The octets before the first line feed and those after it. -/
def splitLine? (octets : List UInt8) : Option (List UInt8 × List UInt8) :=
  match octets.dropWhile (· ≠ lineFeed) with
  | [] => none
  | _ :: rest => some (octets.takeWhile (· ≠ lineFeed), rest)

theorem splitLine?_eq_some {octets line rest : List UInt8}
    (split : splitLine? octets = some (line, rest)) : octets = line ++ lineFeed :: rest := by
  unfold splitLine? at split
  cases dropped : octets.dropWhile (· ≠ lineFeed) with
  | nil =>
    rw [dropped] at split
    cases split
  | cons octet tail =>
    rw [dropped] at split
    simp only [Option.some.injEq, Prod.mk.injEq] at split
    obtain ⟨rfl, rfl⟩ := split
    have head : octet = lineFeed := by
      have stopped := List.head?_dropWhile_not (· ≠ lineFeed) octets
      rw [dropped] at stopped
      simpa using stopped
    rw [← head, ← dropped, head]
    exact List.takeWhile_append_dropWhile.symm

theorem length_of_splitLine? {octets line rest : List UInt8}
    (split : splitLine? octets = some (line, rest)) : rest.length < octets.length := by
  rw [splitLine?_eq_some split]
  simp only [List.length_append, List.length_cons]
  omega

/-- Hand over the complete lines at the front of some octets, one after
another, until none is left or the receiver fails; then the octets that
remain and the receiver's answer. -/
def drain {ε σ : Type} (receive : Receiver ε σ) (octets : List UInt8) (state : σ) :
    LineBuffer × EStateM.Result ε σ Unit :=
  match _split : splitLine? octets with
  | none => (⟨octets⟩, .ok () state)
  | some (line, rest) =>
    match emit receive line state with
    | .ok () state => drain receive rest state
    | .error error state => (⟨rest⟩, .error error state)
  termination_by octets.length
  decreasing_by exact length_of_splitLine? _split

/-- Take in a piece of output. -/
def write {ε σ : Type} (receive : Receiver ε σ) (buffer : LineBuffer) (data : List UInt8)
    (state : σ) : LineBuffer × EStateM.Result ε σ Unit :=
  drain receive (buffer.pending ++ data) state

/-- Hand over what is left, as a line that has no line feed. -/
def flush {ε σ : Type} (receive : Receiver ε σ) (buffer : LineBuffer) (state : σ) :
    LineBuffer × EStateM.Result ε σ Unit :=
  if buffer.pending.isEmpty then (buffer, .ok () state)
  else (empty, emit receive buffer.pending state)

end LineBuffer
end Log
end ContainerFleet
