/-!
# JSON values

The values of arbitrary JSON texts. Numbers keep the three ranges that the format's users tell
apart: natural numbers and negative integers of sixty-four bits, and everything else as a double.
The members of an object are pairs in the order in which they are written.
-/

namespace CdnPublish

/-- A JSON value. -/
inductive Json where
  | null
  | bool (value : Bool)
  | natural (value : UInt64)
  /-- The negative integer with this absolute value. -/
  | negative (magnitude : UInt64)
  | float (value : Float)
  | string (text : String)
  | array (elements : List Json)
  | object (members : List (String × Json))
  deriving Inhabited

end CdnPublish
