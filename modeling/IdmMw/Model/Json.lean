import Mathlib.Tactic

/-!
# JSON values

The values that cross the boundaries of the middleware (webhook payloads, JSON columns, Kafka
messages) and the conversions of the language that the services use on them: `JSON.parse` / `JSON.stringify`,
`Number(..)` and `String(..)`.

A text is modelled by the value it denotes (`JsonText`): two texts of one value are not told apart,
and a text that is not JSON is `malformed`. Numbers are exact.
-/

namespace IdmMw

/-- A JSON value. -/
inductive Json
  | null
  | bool (b : Bool)
  | num (n : ℚ)
  | str (s : String)
  | arr (xs : List Json)
  | obj (fields : List (String × Json))

/-- A text, by what `JSON.parse` makes of it. -/
inductive JsonText
  | text (v : Json)
  | malformed

namespace Json

/-- `JSON.stringify(value)`. -/
def stringify (v : Json) : JsonText := .text v

/-- The property `v[key]`; `none` is `undefined`. -/
def get? : Json → String → Option Json
  | obj fields, key => fields.lookup key
  | _, _ => none

/-- The string property `v[key]`. -/
def getStr? (v : Json) (key : String) : Option String :=
  match v.get? key with
  | some (str s) => some s
  | _ => none

@[simp] theorem get?_obj (fields : List (String × Json)) (key : String) :
    (obj fields).get? key = fields.lookup key := rfl

/-! ### Lengths -/

mutual

/-- No JSON text of the value is shorter. -/
def minLength : Json → ℕ
  | null => 4
  | bool _ => 4
  | num _ => 1
  | str s => s.length + 2
  | arr xs => minLengthOfList xs + 2
  | obj fields => minLengthOfFields fields + 2

def minLengthOfList : List Json → ℕ
  | [] => 0
  | v :: xs => minLength v + minLengthOfList xs

def minLengthOfFields : List (String × Json) → ℕ
  | [] => 0
  | (key, v) :: fields => key.length + minLength v + minLengthOfFields fields

end

/-- A value is longer than the strings in it. -/
theorem length_lt_of_getStr? {v : Json} {key s : String} (h : v.getStr? key = some s) :
    s.length < v.minLength := by
  cases v with
  | obj fields =>
    have hlookup : fields.lookup key = some (str s) := by
      unfold getStr? at h
      split at h
      · next heq =>
        cases h
        exact heq
      · cases h
    have hle : s.length ≤ minLengthOfFields fields := by
      clear h
      induction fields with
      | nil => cases hlookup
      | cons field fields ih =>
        obtain ⟨key', v⟩ := field
        rw [List.lookup_cons] at hlookup
        unfold minLengthOfFields
        split at hlookup
        · cases hlookup
          unfold minLength
          omega
        · have hrest := ih hlookup
          omega
    unfold minLength
    omega
  | _ => cases h

/-! ### `Number(..)` -/

/-- The value of a digit in the given base. -/
def digit? (base : ℕ) (c : Char) : Option ℕ :=
  let d := if c.isDigit then c.toNat - '0'.toNat
    else if c.isLower then c.toNat - 'a'.toNat + 10
    else if c.isUpper then c.toNat - 'A'.toNat + 10
    else base
  if d < base then some d else none

/-- The value of a run of digits; the empty run is `0`. -/
def digits? (base : ℕ) (cs : List Char) : Option ℕ :=
  cs.foldl (fun acc c => acc.bind fun n => (digit? base c).map fun d => n * base + d) (some 0)

/-- A signed exponent, without its `e`. -/
def exponent? : List Char → Option ℤ
  | '+' :: c :: cs => (digits? 10 (c :: cs)).map Int.ofNat
  | '-' :: c :: cs => (digits? 10 (c :: cs)).map fun n => -Int.ofNat n
  | c :: cs => (digits? 10 (c :: cs)).map Int.ofNat
  | [] => none

/-- An unsigned decimal literal: digits, a fraction, an exponent. -/
def decimal? (cs : List Char) : Option ℚ :=
  let mantissa := cs.takeWhile fun c => c ≠ 'e' ∧ c ≠ 'E'
  let whole := mantissa.takeWhile (· ≠ '.')
  let fraction := (mantissa.dropWhile (· ≠ '.')).drop 1
  let power := match cs.dropWhile fun c => c ≠ 'e' ∧ c ≠ 'E' with
    | [] => some 0
    | _ :: e => exponent? e
  if whole = [] ∧ fraction = [] then none
  else do
    let n ← digits? 10 (whole ++ fraction)
    let p ← power
    pure ((n : ℚ) * (10 : ℚ) ^ (p - fraction.length))

/-- `Number(s)` for a string without blanks around it; `none` where the result is not a finite
number. -/
def numberOfChars (text : List Char) : Option ℚ :=
  match text with
  | [] => some 0
  | '0' :: 'x' :: c :: cs | '0' :: 'X' :: c :: cs => (digits? 16 (c :: cs)).map fun n => (n : ℚ)
  | '0' :: 'o' :: c :: cs | '0' :: 'O' :: c :: cs => (digits? 8 (c :: cs)).map fun n => (n : ℚ)
  | '0' :: 'b' :: c :: cs | '0' :: 'B' :: c :: cs => (digits? 2 (c :: cs)).map fun n => (n : ℚ)
  | '+' :: cs => decimal? cs
  | '-' :: cs => (decimal? cs).map fun q => -q
  | cs => decimal? cs

/-- `Number(s)`, with the blanks of ASCII. -/
def numberOfString (s : String) : Option ℚ := numberOfChars s.trimAscii.toString.toList

/-- `Number(v)` where it is finite. An array goes through its text: no element counts as the empty
text, one element as that element (a boolean's text is no number), more contain a comma. -/
def toNumber : Json → Option ℚ
  | null => some 0
  | bool b => some (if b then 1 else 0)
  | num n => some n
  | str s => numberOfString s
  | arr [] => some 0
  | arr [bool _] => none
  | arr [v] => toNumber v
  | arr _ => none
  | obj _ => none

/-! ### `String(..)` -/

section Text

-- `numberText` is how the language writes a number
variable (numberText : ℚ → String)

mutual

/-- `String(v)`. -/
def toText : Json → String
  | null => "null"
  | bool b => if b then "true" else "false"
  | num n => numberText n
  | str s => s
  | arr xs => ",".intercalate (elementTexts xs)
  | obj _ => "[object Object]"

/-- The elements as `join` writes them; `null` is written as nothing. -/
def elementTexts : List Json → List String
  | [] => []
  | null :: xs => "" :: elementTexts xs
  | v :: xs => toText v :: elementTexts xs

end

end Text

end Json

end IdmMw
