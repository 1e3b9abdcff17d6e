import Criteria.Json.Decoder
import Criteria.Value
/-!
Values as JSON. Every JSON value that holds no object is a value.
-/

namespace Criteria.Value

mutual

def toJson : Value → Json
  | .null => .null
  | .bool b => .bool b
  | .number x => .ofNumber x
  | .text s => .text s
  | .list vs => .list (itemsToJson vs)

def itemsToJson : List Value → List Json
  | [] => []
  | v :: vs => v.toJson :: itemsToJson vs

end

mutual

def ofJson? : Json → Option Value
  | .null => some .null
  | .bool b => some (.bool b)
  | .number n => n.toNumber?.map .number
  | .text s => some (.text s)
  | .list js => (itemsOfJson? js).map .list
  | .object _ => none

def itemsOfJson? : List Json → Option (List Value)
  | [] => some []
  | j :: js => do
    let v ← ofJson? j
    let vs ← itemsOfJson? js
    return v :: vs

end

def decoder : Json.Decoder Value := .whole ofJson?

end Criteria.Value
