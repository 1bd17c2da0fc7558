/-!
TOML values. Numbers keep their exact magnitude, so a consumer decides what range it takes; dates
and times are told apart from text but not looked into.
-/
namespace TypedRoutes.Toml

/-- A decimal number `digits * 10 ^ exponent`, sign aside. -/
structure Decimal where
  digits : Nat
  exponent : Int
deriving DecidableEq, Repr

/-- A value. An integer without a value is one that only its notation tells to be an integer, since
its digits make no number. A floating-point number without magnitude is an infinity or not a
number. -/
inductive Value where
  | string (text : String)
  | integer (value : Option Int)
  | float (magnitude : Option Decimal)
  | boolean (value : Bool)
  | datetime
  | array (elements : List Value)
  | table (entries : List (String × Value))

/-- Whether a magnitude rounds to infinity as a double, that is whether it reaches the midpoint
between the largest double and the next power of two. -/
def Decimal.overflows (magnitude : Decimal) : Bool :=
  let places := (Nat.toDigits 10 magnitude.digits).length + magnitude.exponent
  if magnitude.digits = 0 ∨ places < 300 then false
  else if places > 320 then true
  else
    let limit := (Nat.pow 2 54 - 1) * Nat.pow 2 970
    if magnitude.exponent ≥ 0 then
      decide (limit ≤ magnitude.digits * Nat.pow 10 magnitude.exponent.toNat)
    else
      decide (limit * Nat.pow 10 (-magnitude.exponent).toNat ≤ magnitude.digits)

mutual

/-- Whether every number in a value can be held: integers that have a value within the given bounds,
the upper one excluded, and floating-point numbers that do not round to infinity. -/
def Value.fits (low high : Int) : Value → Bool
  | .integer value => value.any fun value => decide (low ≤ value ∧ value < high)
  | .float magnitude => !(magnitude.any (·.overflows))
  | .array elements => allFit low high elements
  | .table entries => entriesFit low high entries
  | _ => true

def allFit (low high : Int) : List Value → Bool
  | [] => true
  | value :: rest => value.fits low high && allFit low high rest

def entriesFit (low high : Int) : List (String × Value) → Bool
  | [] => true
  | (_, value) :: rest => value.fits low high && entriesFit low high rest

end

end TypedRoutes.Toml
