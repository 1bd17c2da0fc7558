/-!
Numerals that a field value may be written in. Integers are decimal with an optional sign and must
fit their width; floating-point numerals are only checked for form, since every magnitude rounds to
some number. Nothing here accepts blanks, underscores or digits outside ASCII.
-/
namespace TypedRoutes.Text

/-- The decimal value of a run of ASCII digits, most significant first. -/
def decimalValue (digits : List Char) : Nat :=
  digits.foldl (fun value c => value * 10 + (c.toNat - 0x30)) 0

/-- A nonempty run of ASCII digits. -/
def isDigits (cs : List Char) : Bool :=
  !cs.isEmpty && cs.all Char.isDigit

/-- The sign of a numeral and what follows it. The sign is `true` for a minus. -/
def splitSign : List Char → Bool × List Char
  | '-' :: rest => (true, rest)
  | '+' :: rest => (false, rest)
  | cs => (false, cs)

def integerValue? (cs : List Char) : Option Int :=
  let (negative, digits) := splitSign cs
  if isDigits digits then
    some (if negative then -(decimalValue digits : Int) else decimalValue digits)
  else
    none

/-- Whether a numeral stands for an integer of the given two's-complement width. -/
def isSignedInteger (width : Nat) (s : String) : Bool :=
  match integerValue? s.toList with
  | some n => decide (-Int.pow 2 (width - 1) ≤ n ∧ n < Int.pow 2 (width - 1))
  | none => false

/-- An exponent part: nothing, or `e` in either case, an optional sign and digits. -/
def isExponent : List Char → Bool
  | [] => true
  | c :: rest => (c == 'e' || c == 'E') && isDigits (splitSign rest).2

/-- An unsigned floating-point numeral: digits with an optional point among or beside them, at
least one digit in all, then an optional exponent. -/
def isUnsignedFloat (cs : List Char) : Bool :=
  let whole := cs.takeWhile Char.isDigit
  match cs.dropWhile Char.isDigit with
  | '.' :: rest =>
    let fraction := rest.takeWhile Char.isDigit
    !(whole.isEmpty && fraction.isEmpty) && isExponent (rest.dropWhile Char.isDigit)
  | rest => !whole.isEmpty && isExponent rest

/-- The names of the values that are no finite number, in lowercase. -/
def specialFloats : List String := ["inf", "infinity", "nan"]

/-- Whether a numeral stands for a floating-point number, special values included. -/
def isFloat (s : String) : Bool :=
  let unsigned := (splitSign s.toList).2
  isUnsignedFloat unsigned || specialFloats.contains (String.ofList (unsigned.map Char.toLower))

end TypedRoutes.Text
