/-!
# Values that leave their range

Whole numbers have no bound here, while dates and binary fractions do.  The
ways in which a computed value can leave the range of its type, and the
words for each.
-/

namespace ContainerFleet

/-- A result outside the range of its type. -/
inductive RangeError where
  /-- A moment outside the years 1 to 9999. -/
  | date
  /-- A quotient of whole numbers beyond the largest binary fraction. -/
  | quotient
  /-- A whole number beyond the largest binary fraction. -/
  | whole
  /-- A second that falls into a year that no clock shows. -/
  | year (number : Int)
  /-- A second that no counter of seconds reaches. -/
  | second
  /-- A second in a year that no calendar counts to. -/
  | calendar
  deriving DecidableEq, Repr

namespace RangeError

def message : RangeError → String
  | .date => "date value out of range"
  | .quotient => "integer division result too large for a float"
  | .whole => "int too large to convert to float"
  | .year number => s!"year {number} is out of range"
  | .second => "timestamp out of range for platform time_t"
  | .calendar => "[Errno 75] Value too large for defined data type"

end RangeError
end ContainerFleet
