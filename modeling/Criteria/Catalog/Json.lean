import Criteria.Catalog
import Criteria.Json.Decoder
import Criteria.Tree.Json
/-!
Field catalogs as JSON. Parts that a field does not have are left out; custom tests have no JSON
form.
-/

namespace Criteria

open Json (Decoder)

namespace FieldType

def decoder : Decoder FieldType := .name (all.map fun t => (t.name, t))

end FieldType

namespace FieldOption

def toJson (o : FieldOption) : Json := .object [("value", .text o.value), ("label", .text o.label)]

structure Parts where
  value : Option String := none
  label : Option String := none

def decoder : Decoder FieldOption :=
  .record
    [.of "value" .string fun value p => { p with value := some value },
      .of "label" .string fun label p => { p with label := some label }]
    ({} : Parts) fun p => do return ⟨← p.value, ← p.label⟩

end FieldOption

namespace OptionPage

def toJson (page : OptionPage) : Json :=
  .object
    [("options", .list (page.options.map FieldOption.toJson)), ("hasMore", .bool page.hasMore)]

structure Parts where
  options : Option (List FieldOption) := none
  hasMore : Bool := false

def decoder : Decoder OptionPage :=
  .record
    [.of "options" (.list FieldOption.decoder) fun options p => { p with options := some options },
      .of "hasMore" .bool fun hasMore p => { p with hasMore }]
    ({} : Parts) fun p => do return ⟨← p.options, p.hasMore⟩

end OptionPage

namespace Bound

def ofNumeral? : Numeral → Option Bound
  | .negativeZero => some ⟨.zero, true, fun _ => rfl⟩
  | n => n.toNumber?.map fun x => ⟨x, false, by simp⟩

def toNumeral (b : Bound) : Numeral := if b.minusZero then .negativeZero else .real b.value

def decoder : Decoder Bound := .checked .numeral ofNumeral?

end Bound

namespace Constraints

def toJson (c : Constraints) : Json :=
  let bound (b : Bound) : Json := .number b.toNumeral
  .object <| Json.optional "min" bound c.min ++ Json.optional "max" bound c.max
    ++ Json.optional "minLength" Json.ofNat c.minLength
    ++ Json.optional "maxLength" Json.ofNat c.maxLength
    ++ Json.optional "pattern" .text c.pattern ++ Json.optional "message" .text c.message
    ++ Json.optional "suggestion" .text c.suggestion

def decoder : Decoder Constraints :=
  .record
    [.of "min" (.option Bound.decoder) fun min p => { p with min },
      .of "max" (.option Bound.decoder) fun max p => { p with max },
      .of "minLength" (.option .natural) fun minLength p => { p with minLength },
      .of "maxLength" (.option .natural) fun maxLength p => { p with maxLength },
      .of "pattern" (.option .string) fun pattern p => { p with pattern },
      .of "message" (.option .string) fun message p => { p with message },
      .of "suggestion" (.option .string) fun suggestion p => { p with suggestion }]
    Constraints.none some

end Constraints

namespace Field

def toJson (f : Field) : Json :=
  .object <| [("name", .text f.name), ("label", .text f.label), ("type", .text f.type.name)]
    ++ Json.optional "allowedOperators" (fun ops => .list (ops.map Operator.toJson))
      f.allowedOperators
    ++ (if f.options.isEmpty then []
      else [("options", .list (f.options.map FieldOption.toJson))])
    ++ Json.optional "constraints" Constraints.toJson f.constraints

structure Parts where
  name : Option String := none
  label : Option String := none
  type : Option FieldType := none
  allowedOperators : Option (List Operator) := none
  options : List FieldOption := []
  constraints : Option Constraints := none

def decoder : Decoder Field :=
  .record
    [.of "name" .string fun name p => { p with name := some name },
      .of "label" .string fun label p => { p with label := some label },
      .of "type" FieldType.decoder fun type p => { p with type := some type },
      .of "allowedOperators" (.option (.list Operator.decoder))
        fun allowedOperators p => { p with allowedOperators },
      .of "options" (.list FieldOption.decoder) fun options p => { p with options },
      .of "constraints" (.option Constraints.decoder) fun constraints p => { p with constraints }]
    ({} : Parts) fun p => do
      return ⟨← p.name, ← p.label, ← p.type, p.allowedOperators, p.options, p.constraints⟩

end Field

namespace Catalog

def toJson (c : Catalog) : Json := .list (c.fields.map Field.toJson)

def decoder : Decoder Catalog := .checked (.list Field.decoder) fun fields => some ⟨fields⟩

end Catalog

end Criteria
