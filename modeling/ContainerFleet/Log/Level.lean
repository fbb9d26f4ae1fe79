/-!
# Severity of a message

A message has the most severe level one of whose keywords stands in it as a
whole word.  Words are made of ASCII letters, digits and underscores, and
letter case does not count.
-/

namespace ContainerFleet
namespace Log

inductive Level where
  | trace
  | debug
  | info
  | warn
  | error
  | fatal
  | panic
  | unknown
  deriving DecidableEq, Repr

namespace Level

def name : Level → String
  | .trace => "TRACE"
  | .debug => "DEBUG"
  | .info => "INFO"
  | .warn => "WARN"
  | .error => "ERROR"
  | .fatal => "FATAL"
  | .panic => "PANIC"
  | .unknown => "UNKNOWN"

/-- The words that announce a level, in lower case. -/
def keywords : Level → List (List Char)
  | .panic => ["panic", "emergency"].map String.toList
  | .fatal => ["fatal", "critical", "crit"].map String.toList
  | .error => ["error", "err", "fail", "failed", "exception"].map String.toList
  | .warn => ["warn", "warning", "wrn"].map String.toList
  | .info => ["info", "inf", "notice", "log"].map String.toList
  | .debug => ["debug", "dbg"].map String.toList
  | .trace => ["trace", "trc"].map String.toList
  | .unknown => []

/-- The levels that have keywords, most severe first. -/
def bySeverity : List Level :=
  [.panic, .fatal, .error, .warn, .info, .debug, .trace]

end Level

/-- A character of which words are made. -/
def isWordChar (char : Char) : Bool :=
  char.isAlphanum || char = '_'

/-- The keyword stands at the front, in any letter case, and the word ends
behind it. -/
def startsWithWord : (keyword : List Char) → List Char → Bool
  | [], [] => true
  | [], char :: _ => !isWordChar char
  | _ :: _, [] => false
  | letter :: later, char :: rest => char.toLower = letter && startsWithWord later rest

/-- One of the keywords stands in the text as a whole word; `inWord` says
whether the character before the text belongs to a word. -/
def hasWord (keywords : List (List Char)) : (inWord : Bool) → List Char → Bool
  | _, [] => false
  | inWord, char :: rest =>
    if !inWord && keywords.any fun keyword => startsWithWord keyword (char :: rest) then true
    else hasWord keywords (isWordChar char) rest

/-- The severity of a message. -/
def detectLevel (message : List Char) : Level :=
  (Level.bySeverity.find? fun level => hasWord level.keywords false message).getD .unknown

end Log
end ContainerFleet
