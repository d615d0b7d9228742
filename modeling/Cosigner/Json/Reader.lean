import Cosigner.Json.Basic

/-!
# Reading JSON

The grammar of JSON, from bytes to trees. Four blanks may stand between any two
tokens, a number has no leading zeros, and no comma follows a last item. A
string may hold any bytes except control characters; that its bytes are text is
not asked here.

Arrays and objects recurse through `value`, and each step takes at least one
byte, so the length of the input bounds their number.

## Main definitions

* `Json.value`: Reads a value from the front of the input.
* `Json.read?`: Reads a value that has to be the whole input.
-/

namespace Cosigner

namespace Json

/-- Whether a byte is a blank between tokens. -/
def isBlank (b : UInt8) : Bool :=
  b = 32 || b = 10 || b = 13 || b = 9

/-- The input without the blanks in front. -/
def skipBlanks (bs : Bytes) : Bytes :=
  bs.dropWhile isBlank

/-- The decimal digits at the front of the input, and what follows them. -/
def digits : Bytes → List Nat × Bytes
  | [] => ([], [])
  | b :: rest =>
    match Digits.decimal? b with
    | some d =>
      let (ds, after) := digits rest
      (d :: ds, after)
    | none => ([], b :: rest)

/-- One digit or more. -/
def someDigits? (bs : Bytes) : Option (List Nat × Bytes) :=
  match digits bs with
  | ([], _) => none
  | found => some found

/-- The digits before the point: a zero alone, or digits that start with
    another one. -/
def whole? (bs : Bytes) : Option (List Nat × Bytes) :=
  match digits bs with
  | ([], _) => none
  | (0 :: _ :: _, _) => none
  | found => some found

/-- The point and the digits after it, if there is a point. -/
def fraction? (bs : Bytes) : Option (Option (List Nat) × Bytes) :=
  match bs with
  | 46 :: rest => (someDigits? rest).map fun (ds, rest) => (some ds, rest)
  | _ => some (none, bs)

/-- The sign in front of the digits of an exponent. -/
def exponentSign (bs : Bytes) : Bool × Bytes :=
  match bs with
  | 43 :: rest => (false, rest)
  | 45 :: rest => (true, rest)
  | _ => (false, bs)

/-- The exponent, if there is one. -/
def exponent? (bs : Bytes) : Option (Option (Bool × List Nat) × Bytes) :=
  match bs with
  | b :: rest =>
    if b = 101 ∨ b = 69 then
      (someDigits? (exponentSign rest).2).map fun (ds, after) =>
        (some ((exponentSign rest).1, ds), after)
    else some (none, bs)
  | [] => some (none, [])

/-- A number without its sign. -/
def unsigned? (negative : Bool) (bs : Bytes) : Option (Json × Bytes) := do
  let (whole, bs) ← whole? bs
  let (fraction, bs) ← fraction? bs
  let (exponent, bs) ← exponent? bs
  return (.number ⟨negative, whole, fraction, exponent⟩, bs)

/-- The bytes up to the closing quote of a string, and what follows the quote.
    An escape has to be one that JSON knows. -/
def rawString? : Bytes → Option (Bytes × Bytes)
  | [] => none
  | 92 :: 117 :: a :: b :: c :: d :: rest => do
    let _ ← hexNumber? a b c d
    let (raw, after) ← rawString? rest
    return (92 :: 117 :: a :: b :: c :: d :: raw, after)
  | 92 :: b :: rest => do
    let _ ← shortEscape? b
    let (raw, after) ← rawString? rest
    return (92 :: b :: raw, after)
  | b :: rest =>
    if b = 34 then some ([], rest)
    else if b < 32 ∨ b = 92 then none
    else do
      let (raw, after) ← rawString? rest
      return (b :: raw, after)

mutual

/-- Reads a value from the front of the input, in at most `fuel` nested steps. -/
def value : Nat → Bytes → Option (Json × Bytes)
  | 0, _ => none
  | fuel + 1, bs =>
    match skipBlanks bs with
    | 110 :: 117 :: 108 :: 108 :: rest => some (.null, rest)
    | 116 :: 114 :: 117 :: 101 :: rest => some (.bool true, rest)
    | 102 :: 97 :: 108 :: 115 :: 101 :: rest => some (.bool false, rest)
    | 34 :: rest => (rawString? rest).map fun (raw, after) => (.string raw, after)
    | 45 :: rest => unsigned? true rest
    | 91 :: rest =>
      match skipBlanks rest with
      | 93 :: after => some (.array [], after)
      | _ => (items fuel rest).map fun (found, after) => (.array found, after)
    | 123 :: rest =>
      match skipBlanks rest with
      | 125 :: after => some (.object [], after)
      | _ => (members fuel rest).map fun (found, after) => (.object found, after)
    | rest => unsigned? false rest

/-- Reads the items of an array up to its closing bracket. -/
def items : Nat → Bytes → Option (List Json × Bytes)
  | 0, _ => none
  | fuel + 1, bs =>
    match value fuel bs with
    | none => none
    | some (item, rest) =>
      match skipBlanks rest with
      | 93 :: after => some ([item], after)
      | 44 :: after => (items fuel after).map fun (others, after) => (item :: others, after)
      | _ => none

/-- Reads the members of an object up to its closing brace. -/
def members : Nat → Bytes → Option (List (Bytes × Json) × Bytes)
  | 0, _ => none
  | fuel + 1, bs =>
    match skipBlanks bs with
    | 34 :: rest =>
      match rawString? rest with
      | none => none
      | some (name, rest) =>
        match skipBlanks rest with
        | 58 :: rest =>
          match value fuel rest with
          | none => none
          | some (item, rest) =>
            match skipBlanks rest with
            | 125 :: after => some ([(name, item)], after)
            | 44 :: after =>
              (members fuel after).map fun (others, after) => ((name, item) :: others, after)
            | _ => none
        | _ => none
    | _ => none

end

/-- Reads a value that has to be the whole input, blanks around it aside. -/
def read? (bs : Bytes) : Option Json :=
  match value (2 * bs.length + 2) bs with
  | some (found, rest) => if (skipBlanks rest).isEmpty then some found else none
  | none => none

end Json

end Cosigner
