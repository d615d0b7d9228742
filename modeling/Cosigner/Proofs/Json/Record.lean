import Cosigner.Json.Record
import Cosigner.Proofs.Json.RoundTrip
import Mathlib.Data.List.Basic

/-!
# Records Written and Read

A type that is written as JSON and read from it keeps its values if writing and
reading fit together, `Faithful`. It is a property of the two functions, and one
that passes from the members of a record to the record: texts, truth values and
numbers have it, optional values inherit it, and so does whatever is written as an
object of faithful members.

Reading a record looks its members up by name. In an object that was written, the
names are known, and each lookup is settled by comparing them. Nothing else about
the other members matters.

A value that is taken in as a whole has to be readable besides. What is written is
readable as deep as it is nested, since texts and numbers that were written have a
meaning.

## Main definitions

* `Json.Faithful`: Writing and reading that keep every value.

## Theorems

* `Json.faithful_text`, `Json.faithful_bool`, `Json.faithful_u64`: Single values.
* `Json.Faithful.option`: Values that may be absent.
* `Json.record?_ofFields`: An object that was written is the record of its members.
* `Json.proper_ofFields`: It is proper if its members are.
* `Json.Faithful.read?_print`: What is printed is read back.
-/

namespace Cosigner

namespace Json

variable {α : Type}

/-- Writing and reading that keep every value. -/
structure Faithful (write : α → Json) (read : Json → Option α) : Prop where
  -- What is written can be printed and read again as JSON.
  proper : ∀ a, (write a).Proper
  -- It is no `null`, which is kept for what is absent.
  ne_null : ∀ a, write a ≠ .null
  -- It is read as what it was written for.
  read_write : ∀ a, read (write a) = some a

-- The values that members are made of.
theorem faithful_text : Faithful ofText text? where
  proper s := .string (escape s) (delimited_escape s)
  ne_null s := by simp only [ofText, ne_eq, reduceCtorEq, not_false_eq_true]
  read_write s := textOf?_escape s

theorem faithful_bool : Faithful .bool bool? where
  proper b := .bool b
  ne_null b := by simp only [ne_eq, reduceCtorEq, not_false_eq_true]
  read_write b := rfl

theorem faithful_u64 : Faithful (fun n : UInt64 => ofNat n.toNat) u64? where
  proper n := .number _ (Numeral.proper_ofNat n.toNat)
  ne_null n := by simp only [ofNat, ne_eq, reduceCtorEq, not_false_eq_true]
  read_write n := by
    have hlt : n.toNat < UInt64.size := n.toNat_lt_size
    simp only [u64?, ofNat, natural?, Numeral.natural?_ofNat, Option.filter_some, hlt, decide_true,
      if_true, Option.map_some, UInt64.ofNat_toNat]

-- The option of an option would be read as absent where `null` was written inside,
-- so only the members of the option are known to be no `null`.
theorem Faithful.read_ofOption {write : α → Json} {read : Json → Option α}
    (h : Faithful write read) (o : Option α) : option? read (ofOption write o) = some o := by
  cases o with
  | none => rfl
  | some a =>
      rw [ofOption, option?.eq_2 read (write a) (h.ne_null a), h.read_write a]
      rfl

theorem Faithful.proper_ofOption {write : α → Json} {read : Json → Option α}
    (h : Faithful write read) (o : Option α) : (ofOption write o).Proper := by
  cases o with
  | none => exact .null
  | some a => exact h.proper a

/-- The names of members are read back, whatever characters they have. -/
theorem namedMembers?_ofFields (fields : List (String × Json)) :
    namedMembers? (fields.map fun (name, value) => (escape name, value)) = some fields := by
  induction fields with
  | nil => rfl
  | cons field fields ih =>
      simp only [List.map_cons, namedMembers?, textOf?_escape, ih, Option.bind_eq_bind,
        Option.bind_some, Option.pure_def]

/-- An object that was written is the record of its members. -/
theorem record?_ofFields (names : List String) (fields : List (String × Json))
    (hnames : ∀ name ∈ fields.map (·.1), name ∈ names) (hnodup : (fields.map (·.1)).Nodup) :
    record? names (ofFields fields) = some ⟨false, fields⟩ := by
  have hown : fields.filter (fun field => names.contains field.1) = fields := by
    rw [List.filter_eq_self]
    intro field hfield
    exact List.contains_iff_mem.mpr (hnames field.1 (List.mem_map_of_mem hfield))
  simp only [record?, ofFields, namedMembers?_ofFields, Option.bind_eq_bind, Option.bind_some, hown,
    hnodup, if_true, Option.pure_def]

namespace Record

-- A member is looked up by comparing names, whatever the value of the others is.
theorem value?_cons (positional : Bool) (name own : String) (j : Json)
    (fields : List (String × Json)) : (⟨positional, (own, j) :: fields⟩ : Record).value? name =
      if own = name then some j else (⟨positional, fields⟩ : Record).value? name := by
  by_cases h : own = name
  · simp only [value?, List.find?_cons, h, decide_true, Option.map_some, if_true]
  · simp only [value?, List.find?_cons, h, decide_false, if_false]

-- The same for the two ways of asking for a member.
@[simp] theorem required?_cons (positional : Bool) (name own : String) (j : Json)
    (fields : List (String × Json)) (f : Json → Option α) :
    (⟨positional, (own, j) :: fields⟩ : Record).required? name f =
      if own = name then f j else (⟨positional, fields⟩ : Record).required? name f := by
  rw [required?, value?_cons]
  by_cases h : own = name
  · rw [if_pos h, if_pos h]
    rfl
  · rw [if_neg h, if_neg h]
    rfl

@[simp] theorem defaulted?_cons (positional : Bool) (name own : String) (j : Json)
    (fields : List (String × Json)) (default : α) (f : Json → Option α) :
    (⟨positional, (own, j) :: fields⟩ : Record).defaulted? name default f =
      if own = name then f j else (⟨positional, fields⟩ : Record).defaulted? name default f := by
  rw [defaulted?, value?_cons]
  by_cases h : own = name
  · rw [if_pos h, if_pos h]
  · rw [if_neg h, if_neg h]
    rfl

end Record

/-- An object that was written is proper if its members are. -/
theorem proper_ofFields (fields : List (String × Json)) (h : ∀ field ∈ fields, field.2.Proper) :
    (ofFields fields).Proper := by
  refine .object _ (fun m hm => ?_) fun m hm => ?_
  · rcases List.mem_map.mp hm with ⟨field, _, rfl⟩
    exact delimited_escape field.1
  · rcases List.mem_map.mp hm with ⟨field, hfield, rfl⟩
    exact h field hfield

/-- A record keeps its values if they can be put together from the members that were
    written. -/
theorem faithful_ofFields (names : List String) (fields : α → List (String × Json))
    (build : Record → Option α) (hnames : ∀ a, (fields a).map (·.1) = names)
    (hnodup : names.Nodup) (hproper : ∀ a, (fields a).Forall fun field => field.2.Proper)
    (hbuild : ∀ a, build ⟨false, fields a⟩ = some a) :
    Faithful (fun a => ofFields (fields a)) fun j => record? names j >>= build where
  proper a := proper_ofFields (fields a) (List.forall_iff_forall_mem.mp (hproper a))
  ne_null a := by simp only [ofFields, ne_eq, reduceCtorEq, not_false_eq_true]
  read_write a := by
    have hown : ∀ name ∈ (fields a).map (·.1), name ∈ names := by
      intro name hname
      rw [← hnames a]
      exact hname
    rw [record?_ofFields names (fields a) hown (by rw [hnames a]; exact hnodup)]
    exact hbuild a

/-- What is printed is read back. -/
theorem Faithful.read?_print {write : α → Json} {read : Json → Option α}
    (h : Faithful write read) (a : α) : Json.read? (write a).print >>= read = some a := by
  rw [read?_of_proper (write a) (h.proper a)]
  exact h.read_write a

end Json

end Cosigner
