import Cosigner.Json.Reader

/-!
# Records in JSON

A record is written as an object or as an array. An object names its members;
members that the record does not have are passed over, and one that it has must
not stand there twice. An array lists the members in the order of the record
and may break off before the end, but has no more items than the record has
members.

What an absent member means depends on the member. Some have to be there. Some
have a default, which applies in both forms. A member that may be `null` may
also be left out of an object, but not out of an array.

## Main definitions

* `Json.Record`: The members of a record that are present.
* `Json.record?`: A value as a record with the given members.
* `Json.Record.required?`, `Json.Record.nullable?`, `Json.Record.defaulted?`:
    The three kinds of members.
-/

namespace Cosigner

namespace Json

/-- The mark that stands for any complaint about the form of JSON, which has no
    wording of its own. -/
def complaint : String := "<json>"

/-- The members of a record that are present. -/
structure Record where
  /-- Whether the record is written as an array. -/
  positional : Bool
  /-- The members, by name. -/
  fields : List (String × Json)

/-- The members of an object whose names are text, or nothing if some name is
    none. -/
def namedMembers? : List (Bytes × Json) → Option (List (String × Json))
  | [] => some []
  | (raw, value) :: rest => do
    return (← textOf? raw, value) :: (← namedMembers? rest)

/-- A value as a record with members of the given names. -/
def record? (names : List String) : Json → Option Record
  | .object members => do
    let found := (← namedMembers? members).filter fun field => names.contains field.1
    if (found.map (·.1)).Nodup then return ⟨false, found⟩ else none
  | .array items =>
    if items.length ≤ names.length then some ⟨true, names.zip items⟩ else none
  | _ => none

/-- A value that is text. -/
def text? : Json → Option String
  | .string raw => textOf? raw
  | _ => none

/-- A value that is a truth value. -/
def bool? : Json → Option Bool
  | .bool b => some b
  | _ => none

/-- A value that is a natural number below a bound. -/
def natural? (bound : Nat) : Json → Option Nat
  | .number n => n.natural?.filter (· < bound)
  | _ => none

/-- A value that is a 64-bit number. -/
def u64? (j : Json) : Option UInt64 :=
  (natural? UInt64.size j).map UInt64.ofNat

/-- A value that is a 32-bit number. -/
def u32? (j : Json) : Option UInt32 :=
  (natural? UInt32.size j).map UInt32.ofNat

/-- A value that is `null` or something else. -/
def option? {α : Type} (f : Json → Option α) : Json → Option (Option α)
  | .null => some none
  | j => (f j).map some

/-- A value that is an array. -/
def list? {α : Type} (f : Json → Option α) : Json → Option (List α)
  | .array items => items.mapM f
  | _ => none

namespace Record

variable {α : Type}

/-- The value of a member that is present. -/
def value? (r : Record) (name : String) : Option Json :=
  (r.fields.find? (·.1 = name)).map (·.2)

/-- A member that has to be there. -/
def required? (r : Record) (name : String) (f : Json → Option α) : Option α :=
  r.value? name >>= f

/-- A member that may be `null`, and may be left out of an object. -/
def nullable? (r : Record) (name : String) (f : Json → Option α) : Option (Option α) :=
  match r.value? name with
  | some j => option? f j
  | none => if r.positional then none else some none

/-- A member with a default. -/
def defaulted? (r : Record) (name : String) (default : α) (f : Json → Option α) : Option α :=
  match r.value? name with
  | some j => f j
  | none => some default

end Record

end Json

end Cosigner
