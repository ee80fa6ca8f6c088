import Shorthand.Calendar.Date

/-! Dates written as year, month and day with hyphens between them. Writing uses
four digits for the years 0 to 9999 and a sign with at least four digits for all
others. Reading is wider: it admits blanks before each number and one-digit
months and days, and it reports the leftmost element that fails. -/
namespace Shorthand.Iso

/-- Why a text is not a date. -/
inductive Fault where
  /-- The text ends where a digit or a hyphen is due. -/
  | tooShort
  /-- Another character stands where a digit or a hyphen is due. -/
  | invalid
  /-- A number is outside its range, or the numbers name no date. -/
  | outOfRange
  /-- Text remains after the day. -/
  | tooLong
  deriving DecidableEq

def Fault.message : Fault → Text
  | .tooShort => "premature end of input".toList
  | .invalid => "input contains invalid characters".toList
  | .outOfRange => "input is out of range".toList
  | .tooLong => "trailing input".toList

def writeYear (year : Int) : Text :=
  if 0 ≤ year ∧ year ≤ 9999 then Numeral.padded 4 year.toNat
  else (if year < 0 then '-' else '+') :: Numeral.padded 4 year.natAbs

/-- The written form of a date. -/
def write (d : Date) : Text :=
  writeYear d.year ++ '-' :: Numeral.padded 2 d.month ++ '-' :: Numeral.padded 2 d.day

/-- Reads a run of digits, which must not be empty and may be limited in length. -/
def readNumber (limit : Option Nat) (t : Text) : Except Fault (Nat × Text) :=
  match t with
  | [] => .error .tooShort
  | c :: _ =>
    if c.isDigit then
      let digits := (t.take (limit.getD t.length)).takeWhile Char.isDigit
      .ok (Numeral.value digits, t.drop digits.length)
    else .error .invalid

/-- Reads a year: up to four digits, or a sign and any number of digits. -/
def readSigned : Text → Except Fault (Int × Text)
  | '-' :: t => (readNumber none t).map fun (n, rest) => (-(n : Int), rest)
  | '+' :: t => (readNumber none t).map fun (n, rest) => ((n : Int), rest)
  | t => (readNumber (some 4) t).map fun (n, rest) => ((n : Int), rest)

/-- Reads a year that fits into a signed word of 32 bits. -/
def readYear (t : Text) : Except Fault (Int × Text) := do
  let (y, rest) ← readSigned (Text.trimStart t)
  if -2147483648 ≤ y ∧ y ≤ 2147483647 then return (y, rest) else throw .outOfRange

/-- Reads a number of one or two digits from one up to `greatest`. -/
def readUpTo (greatest : Nat) (t : Text) : Except Fault (Nat × Text) := do
  let (n, rest) ← readNumber (some 2) (Text.trimStart t)
  if 1 ≤ n ∧ n ≤ greatest then return (n, rest) else throw .outOfRange

def readHyphen : Text → Except Fault Text
  | [] => .error .tooShort
  | c :: rest => if c = '-' then .ok rest else .error .invalid

/-- Reads a date from the whole of a text. -/
def read (t : Text) : Except Fault Date := do
  let (y, t) ← readYear t
  let t ← readHyphen t
  let (m, t) ← readUpTo 12 t
  let t ← readHyphen t
  let (d, t) ← readUpTo 31 t
  if t ≠ [] then throw .tooLong
  match Date.ofYmd? y m d with
  | some date => return date
  | none => throw .outOfRange

end Shorthand.Iso
