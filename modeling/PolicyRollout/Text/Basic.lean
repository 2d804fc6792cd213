/-!
Blank characters, digits and columns of text.  A character is blank when it has
the Unicode property White_Space; trimming drops the blank ends of a text and
keeps the rest untouched.  Numbers are written in decimal without leading zeros
and read in any base up to sixteen, with any number of leading zeros, at least
one digit, and nothing but digits.  A column is a least width, counted in
characters; longer texts stand as they are.
-/
namespace PolicyRollout.Text

section Blank

/-- The Unicode property White_Space. -/
def isBlank (c : Char) : Bool :=
  let n := c.toNat
  (9 ≤ n && n ≤ 13) || n == 0x20 || n == 0x85 || n == 0xA0 || n == 0x1680 ||
    (0x2000 ≤ n && n ≤ 0x200A) || n == 0x2028 || n == 0x2029 || n == 0x202F ||
    n == 0x205F || n == 0x3000

/-- The characters without the blank ones at both ends. -/
def trimChars (cs : List Char) : List Char :=
  ((cs.dropWhile isBlank).reverse.dropWhile isBlank).reverse

/-- The text without the blank characters at both ends. -/
def trim (s : String) : String :=
  String.ofList (trimChars s.toList)

/-- Whether a text holds no character but blank ones. -/
def isBlankText (s : String) : Bool :=
  s.toList.all isBlank

end Blank

section Digits

/-- The decimal digits of a number, most significant first. -/
def decimal (n : Nat) : List Char :=
  Nat.toDigits 10 n

def decimalText (n : Nat) : String :=
  String.ofList (decimal n)

/-- The decimal text of an integer, with a minus sign when it is negative. -/
def integerText (n : Int) : String :=
  match n with
  | .ofNat n => decimalText n
  | .negSucc n => "-" ++ decimalText (n + 1)

/-- The value of one digit of a base. -/
def digit? (base : Nat) (c : Char) : Option Nat :=
  let n := c.toNat
  let value :=
    if 48 ≤ n && n ≤ 57 then some (n - 48)
    else if 97 ≤ n && n ≤ 102 then some (n - 87)
    else if 65 ≤ n && n ≤ 70 then some (n - 55)
    else none
  value.filter (· < base)

/-- The number read after `value`, as long as only digits follow. -/
def appendDigits (base : Nat) : Nat → List Char → Option Nat
  | value, [] => some value
  | value, c :: rest =>
    match digit? base c with
    | some d => appendDigits base (value * base + d) rest
    | none => none

/-- The number a non-empty run of digits stands for. -/
def natural? (base : Nat) : List Char → Option Nat
  | [] => none
  | c :: rest => appendDigits base 0 (c :: rest)

/-- A decimal number of at most `limit`; one plus sign may stand before it. -/
def unsigned? (limit : Nat) (cs : List Char) : Option Nat :=
  let digits := match cs with
    | '+' :: rest => rest
    | cs => cs
  (natural? 10 digits).filter (· ≤ limit)

/-- One hexadecimal digit, in lower case. -/
def hexDigit (n : Nat) : Char :=
  Nat.digitChar (n % 16)

/-- The longest run of decimal digits a text begins with, and the rest. -/
def spanDigits (cs : List Char) : List Char × List Char :=
  (cs.takeWhile Char.isDigit, cs.dropWhile Char.isDigit)

end Digits

section Column

/-- Blanks that fill a text up to a width. -/
def filling (width : Nat) (s : String) : String :=
  String.ofList (List.replicate (width - s.length) ' ')

/-- A text at the left edge of its column. -/
def padRight (width : Nat) (s : String) : String :=
  s ++ filling width s

/-- A text at the right edge of its column. -/
def padLeft (width : Nat) (s : String) : String :=
  filling width s ++ s

end Column

end PolicyRollout.Text
