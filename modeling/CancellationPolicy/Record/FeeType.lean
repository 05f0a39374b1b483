/-! # Fee types

The types of fees that stand for the price of the whole stay.
-/

namespace CancellationPolicy.FeeType

/-- The types that stand for the price of the whole stay. -/
def fullStay : List String := ["full_stay", "entire_stay_room_and_tax"]

/-- Whether two texts agree up to the case of ASCII letters. -/
def agree (s t : String) : Bool := s.toList.map Char.toLower == t.toList.map Char.toLower

/-- Whether a text is one of these types, in any case. -/
def isFullStay (type : String) : Bool := fullStay.any (agree type)

end CancellationPolicy.FeeType
