import Untrack.Decimal.Shortest
import Untrack.Entries
import Untrack.Text.Quoted

namespace Untrack.Json

/-!
# JSON values

The members of an object keep the order in which their names first came.
Numbers are whole as long as they fit: from -2^63 up to below 2^64.
-/

/-- A number of a JSON document. -/
inductive Number where
  | natural (value : Nat)
  /-- The number below zero that is this far away from it. -/
  | negative (distance : Nat)
  | real (isNegative : Bool) (size : Decimal.Binary64)
  deriving Repr, DecidableEq

/-- A JSON value. -/
inductive Value where
  | null
  | boolean (value : Bool)
  | number (value : Number)
  | string (text : String)
  | array (items : List Value)
  | object (members : List (String × Value))
  deriving Repr

/-- The kind of a value that was found where another was wanted. -/
inductive Found where
  | null
  | boolean (value : Bool)
  | number (value : Number)
  | string (text : String)
  | sequence
  | map
  deriving Repr, DecidableEq

namespace Number

/-- The number as it is named in messages. -/
def describe : Number → String
  | .natural value => "integer `" ++ toString value ++ "`"
  | .negative distance => "integer `-" ++ toString distance ++ "`"
  | .real isNegative size =>
      "floating point `" ++ (if isNegative then "-" else "") ++ size.write ++
        "`"

end Number

namespace Found

/-- The kind as it is named in messages. -/
def describe : Found → String
  | .null => "null"
  | .boolean true => "boolean `true`"
  | .boolean false => "boolean `false`"
  | .number value => value.describe
  | .string text => "string " ++ Text.Quoted.quote text
  | .sequence => "sequence"
  | .map => "map"

end Found

namespace Value

/-- The kind of a value. -/
def found : Value → Found
  | .null => .null
  | .boolean value => .boolean value
  | .number value => .number value
  | .string text => .string text
  | .array _ => .sequence
  | .object _ => .map

end Value

end Untrack.Json
