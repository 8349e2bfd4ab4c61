import SnippetCheck.Json.Value
import SnippetCheck.Text.Decimal

/-!
# Records In JSON

A record is read from an object or from an array. An object may have members that the record
does not know, but none of those that it knows twice. An array gives the fields in their
order; fields may be missing at its end, and nothing may follow the last one.
-/

namespace SnippetCheck.Json

/-- The fields of a record, by name. -/
structure Record where
  /-- The value of a field, if it is there. -/
  get : String → Option Value

namespace Record

/-- The record with fields of the given names that a value holds. -/
def ofValue? (names : List String) : Value → Option Record
  | .object members =>
    let keys := members.map Prod.fst
    if keys.all Option.isSome && names.all fun name => keys.count (some name) ≤ 1 then
      some ⟨fun name => members.lookup (some name)⟩
    else none
  | .array items =>
    if items.length ≤ names.length then some ⟨fun name => (names.zip items).lookup name⟩
    else none
  | _ => none

/-- A field that has to be there. -/
def required (record : Record) (name : String) (decode : Value → Option α) : Option α :=
  (record.get name).bind decode

/-- A field that may be missing, or the given value in its place. -/
def withDefault (record : Record) (name : String) (fallback : α) (decode : Value → Option α) :
    Option α :=
  match record.get name with
  | none => some fallback
  | some value => decode value

end Record

/-- A text. -/
def Value.text? : Value → Option String
  | .text content => content
  | _ => none

/-- A natural number below 2^64. -/
def Value.natural? : Value → Option Nat
  | .number (some n) => if n < Text.limit64 then some n else none
  | _ => none

/-- A list of what `decode` reads. -/
def Value.list? (decode : Value → Option α) : Value → Option (List α)
  | .array items => items.mapM decode
  | _ => none

/-- A map from texts to what `decode` reads, as its members in order. -/
def Value.map? (decode : Value → Option α) : Value → Option (List (String × α))
  | .object members => members.mapM fun (key, value) => do
    return (← key, ← decode value)
  | _ => none

end SnippetCheck.Json
