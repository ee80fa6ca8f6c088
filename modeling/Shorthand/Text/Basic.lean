/-! Text as a list of characters, with the operations every later module shares:
blank characters, trimming and lines, letters without regard to case, and numbers in
decimal digits. Trimming removes blank characters at the two ends and nothing else, so
a text is empty after it exactly when it was blank. -/
namespace Shorthand

/-- Entries, lines and everything written about them. A string is decoded to a
text where it enters the library and encoded again where it leaves it. -/
abbrev Text := List Char

namespace Text

/-- The twenty-five characters with the Unicode property White_Space. -/
def isBlank (c : Char) : Bool :=
  let n := c.toNat
  (0x09 ≤ n && n ≤ 0x0D) || n == 0x20 || n == 0x85 || n == 0xA0 || n == 0x1680 ||
    (0x2000 ≤ n && n ≤ 0x200A) || n == 0x2028 || n == 0x2029 || n == 0x202F ||
    n == 0x205F || n == 0x3000

/-- Whether a text has only blank characters. -/
def blank (t : Text) : Bool := t.all isBlank

def trimStart (t : Text) : Text := t.dropWhile isBlank

def trimEnd (t : Text) : Text := (t.reverse.dropWhile isBlank).reverse

/-- The text without the blank characters at its two ends. -/
def trim (t : Text) : Text := trimEnd (trimStart t)

/-- One carriage return is removed from the end of a terminated line. -/
def dropReturn (line : Text) : Text :=
  if line.getLast? = some '\r' then line.dropLast else line

/-- The lines of a text. A newline ends a line, and a carriage return right
before it belongs to that ending. What follows the last newline is a line of
its own unless it is empty, and keeps all its characters. -/
def lines (t : Text) : List Text :=
  let parts := t.splitOn '\n'
  parts.dropLast.map dropReturn ++ parts.getLast?.toList.filter (· ≠ [])

theorem dropWhile_isBlank_eq_nil_iff (t : Text) : t.dropWhile isBlank = [] ↔ blank t = true := by
  induction t with
  | nil => simp [blank]
  | cons c rest ih =>
    by_cases space : isBlank c = true
    · simp [space, ih, blank]
    · simp [space, blank]

/-- A text is empty after trimming exactly when it is blank. -/
theorem trim_eq_nil_iff (t : Text) : trim t = [] ↔ blank t = true := by
  have ends : trim t = [] ↔ blank (trimStart t).reverse = true := by
    rw [trim, trimEnd, List.reverse_eq_nil_iff, dropWhile_isBlank_eq_nil_iff]
  rw [ends]
  constructor
  · intro spaces
    rw [← dropWhile_isBlank_eq_nil_iff]
    have every : ∀ c ∈ t.dropWhile isBlank, isBlank c = true := by
      simpa [blank, trimStart, List.all_eq_true] using spaces
    cases left : t.dropWhile isBlank with
    | nil => rfl
    | cons c rest =>
      have head := List.head?_dropWhile_not isBlank t
      rw [left] at head every
      simp [every c (by simp)] at head
  · intro spaces
    rw [trimStart, (dropWhile_isBlank_eq_nil_iff t).mpr spaces]
    rfl

end Text

/-! Two characters agree when simple case folding sends them to one character; the long
s folds to s and the Kelvin sign to k, and no other character outside ASCII folds to an
ASCII letter. -/

namespace Letter

/-- Simple case folding, as far as it reaches ASCII letters. All other
characters stand for themselves. -/
def fold (c : Char) : Char :=
  if c = 'ſ' then 's' else if c = '\u212A' then 'k' else c.toLower

/-- Whether two characters are the same letter in any case. -/
def agrees (c d : Char) : Bool := fold c == fold d

/-- A letter from A to Z in any case, the long s and the Kelvin sign included. -/
def isLetter (c : Char) : Bool := (fold c).isLower

def isAscii (c : Char) : Bool := c.toNat < 128

/-- Agreement of two texts in ASCII case only: no other character is folded. -/
def sameAscii (s t : Text) : Bool := s.map Char.toUpper == t.map Char.toUpper

end Letter

/-! Numbers are written with or without a sign and a least width. -/

namespace Numeral

/-- The digits of a number, with no leading zero. -/
def decimal (n : Nat) : Text := Nat.toDigits 10 n

/-- At least `width` digits, filled with zeros on the left. -/
def padded (width n : Nat) : Text := (decimal n).leftpad width '0'

/-- A minus sign before the digits of a negative number, no sign otherwise. -/
def signed (z : Int) : Text :=
  if z < 0 then '-' :: decimal z.natAbs else decimal z.natAbs

/-- At least `width` characters, the minus sign of a negative number among them. -/
def signedPadded (width : Nat) (z : Int) : Text :=
  if z < 0 then '-' :: padded (width - 1) z.natAbs else padded width z.natAbs

/-- The number that a run of digits is worth; the empty run is worth zero. -/
def value (digits : Text) : Nat := Nat.ofDigitChars 10 digits 0

theorem value_decimal (n : Nat) : value (decimal n) = n :=
  Nat.ofDigitChars_toDigits (by decide) (by decide)

/-- Leading zeros do not change what the digits are worth. -/
theorem value_padded (width n : Nat) : value (padded width n) = n := by
  have zeros : ∀ (count start : Nat), start = 0 →
      Nat.ofDigitChars 10 (List.replicate count '0') start = 0 := by
    intro count
    induction count with
    | zero => intro start none; simpa [Nat.ofDigitChars] using none
    | succ count ih =>
      intro start none
      subst none
      exact ih _ (by decide)
  rw [value, padded, List.leftpad, Nat.ofDigitChars, List.foldl_append]
  have lead := zeros (width - (decimal n).length) 0 rfl
  rw [Nat.ofDigitChars] at lead
  rw [lead]
  exact value_decimal n

end Numeral
end Shorthand
