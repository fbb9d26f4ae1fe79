import ContainerFleet.Timestamp.Layout

/-!
# Writing timestamps

The text that spells given fields in a layout.  Each element is written in the
form that `Element.read` recognises.  A layout leaves some choices open, such
as the weekday, which carries no meaning, or a second blank before the day;
they are made by a `Style`.
-/

namespace ContainerFleet
namespace Timestamp

/-- The choices that a layout leaves open to the writer. -/
structure Style where
  weekday : Fin 7
  zoneName : List Char
  /-- Two blanks stand before a loose day. -/
  twoBlanks : Bool
  /-- A loose day below ten has one digit. -/
  shortDay : Bool
  deriving DecidableEq, Repr

namespace Style

/-- The zone name consists of three to five capitals. -/
def Fits (style : Style) : Prop :=
  3 ≤ style.zoneName.length ∧ style.zoneName.length ≤ 5 ∧ style.zoneName.all Char.isUpper = true

instance (style : Style) : Decidable style.Fits :=
  inferInstanceAs (Decidable (_ ∧ _ ∧ _))

end Style

namespace Zone

def signOf (ahead : Bool) : Char :=
  if ahead then '+' else '-'

/-- Sign, hours and minutes, with `between` before the minutes. -/
def signed (ahead : Bool) (hours : Nat) (between : List Char) (minutes : Nat) : List Char :=
  signOf ahead :: (Digits.padded 2 hours ++ between ++ Digits.padded 2 minutes)

/-- A zone with a colon; universal time has a letter of its own. -/
def write : Zone → List Char
  | .universal => ['Z']
  | .shifted ahead hours minutes => signed ahead hours [':'] minutes

/-- A zone without a colon; universal time is a shift of nothing. -/
def writeCompact : Zone → List Char
  | .universal => signed true 0 [] 0
  | .shifted ahead hours minutes => signed ahead hours [] minutes

end Zone

namespace Element

/-- The day, as wide as the style has it. -/
def looseDayText (style : Style) (day : Nat) : List Char :=
  (if style.twoBlanks then [' ', ' '] else [' ']) ++
    (if style.shortDay then Digits.ofNat day else Digits.padded 2 day)

/-- Hour, minute and second with colons. -/
def clockText (fields : Fields) : List Char :=
  Digits.padded 2 fields.hour ++ ':' :: Digits.padded 2 fields.minute ++
    ':' :: Digits.padded 2 fields.second

/-- A point and the digits of the fraction, if it has any. -/
def fractionText (fields : Fields) : List Char :=
  if fields.fraction.isEmpty then [] else '.' :: fields.fraction

/-- Write one element of a layout. -/
def write (element : Element) (style : Style) (fields : Fields) : List Char :=
  match element with
  | .literal char => [char]
  | .year => Digits.padded 4 fields.date.year
  | .month => Digits.padded 2 fields.date.month
  | .monthName => monthNames.getD (fields.date.month - 1) []
  | .weekday => weekdayNames.getD style.weekday []
  | .day => Digits.padded 2 fields.date.day
  | .looseDay => looseDayText style fields.date.day
  | .clock => clockText fields
  | .fraction => fractionText fields
  | .zone => fields.zone.write
  | .compactZone => fields.zone.writeCompact
  | .zoneName => style.zoneName

end Element

namespace Layout

/-- Write some elements one after another. -/
def writeElements (elements : List Element) (style : Style) (fields : Fields) : List Char :=
  elements.flatMap fun element => element.write style fields

/-- Write fields in a layout. -/
def write (layout : Layout) (style : Style) (fields : Fields) : List Char :=
  writeElements layout.elements style fields

/-- The layout has a place for a numeric zone. -/
def hasShift (layout : Layout) : Bool :=
  layout.elements.contains .zone || layout.elements.contains .compactZone

/-- The layout has a place for a fraction. -/
def hasFraction (layout : Layout) : Bool :=
  layout.elements.contains .fraction

/-- What of the fields a layout has no place for is not there: without a zone
they are read as universal time. -/
def Holds (layout : Layout) (fields : Fields) : Prop :=
  (layout.hasShift = false → fields.zone = .universal) ∧
    (layout.hasFraction = false → fields.fraction = [])

instance (layout : Layout) (fields : Fields) : Decidable (layout.Holds fields) :=
  inferInstanceAs (Decidable (_ ∧ _))

theorem writeElements_cons (element : Element) (later : List Element) (style : Style)
    (fields : Fields) :
    writeElements (element :: later) style fields =
      element.write style fields ++ writeElements later style fields :=
  List.flatMap_cons

end Layout
end Timestamp
end ContainerFleet
