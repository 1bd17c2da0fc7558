import TypedRoutes.Text.Numeral
import TypedRoutes.Toml.Value

/-!
TOML scalars other than text: booleans, integers, floating-point numbers, dates and times. A scalar
is read as a whole, so a run of characters that no rule covers is an error rather than a prefix.
-/
namespace TypedRoutes.Toml

/-- The digits of a run in which single underscores may stand between digits. -/
def ungroup? (isDigit : Char → Bool) : List Char → Option (List Char)
  | [] => none
  | [c] => if isDigit c then some [c] else none
  | c :: '_' :: rest => if isDigit c then (ungroup? isDigit rest).map (c :: ·) else none
  | c :: rest => if isDigit c then (ungroup? isDigit rest).map (c :: ·) else none

/-- The value of a digit in any base up to sixteen, when the base has it. -/
def digitIn? (base : Nat) (c : Char) : Option Nat :=
  let value? :=
    if c.isDigit then some (c.toNat - 0x30)
    else if 'a' ≤ c ∧ c ≤ 'f' then some (c.toNat - 0x57)
    else if 'A' ≤ c ∧ c ≤ 'F' then some (c.toNat - 0x37)
    else none
  value?.filter (· < base)

/-- The number that digits of a base stand for. -/
def natIn (base : Nat) (digits : List Char) : Nat :=
  digits.foldl (fun value c => value * base + (digitIn? base c).getD 0) 0

/-- The integer written in a base that its leading mark names. Without digits it has no value. -/
def basedInteger? (base : Nat) : List Char → Option Value
  | [] => some (.integer none)
  | cs =>
    (ungroup? (fun c => (digitIn? base c).isSome) cs).map fun digits =>
      .integer (some (natIn base digits))

/-- Whether every underscore stands between digits, where letters of base sixteen count as digits.
Nothing is asked of characters away from underscores. -/
def groupsDigits : List Char → Bool
  | [] => true
  | '_' :: _ => false
  | [_] => true
  | a :: b :: rest =>
    if b == '_' then
      (digitIn? 16 a).isSome && rest.head?.any (fun c => (digitIn? 16 c).isSome) &&
        groupsDigits rest
    else groupsDigits (b :: rest)

/-- A decimal integer without its sign: digits without a leading zero, and from the first underscore
on any characters that do not mark a floating-point number or a date with a time. It has a value
when all of it is digits and underscores. -/
def decimalInteger? (cs : List Char) : Option (Option Nat) :=
  let tail := cs.dropWhile Char.isDigit
  let leadsWithZero := cs.head? == some '0' && cs.length > 1
  let grouped := tail.head?.all (· == '_') && !tail.any ".eE ".toList.contains && groupsDigits cs
  if !cs.isEmpty && !leadsWithZero && grouped then
    let digits := cs.filter (· != '_')
    some (if digits.all Char.isDigit then some (natIn 10 digits) else none)
  else
    none

/-- An integer. Only decimal integers take a sign. -/
def integer? : List Char → Option Value
  | '0' :: 'x' :: rest => basedInteger? 16 rest
  | '0' :: 'o' :: rest => basedInteger? 8 rest
  | '0' :: 'b' :: rest => basedInteger? 2 rest
  | cs =>
    let (negative, rest) := Text.splitSign cs
    (decimalInteger? rest).map fun value =>
      .integer (value.map fun (value : Nat) => if negative then -(value : Int) else value)

/-- The digits in front of a point or an exponent, which have no leading zero. -/
def wholeDigits? (cs : List Char) : Option (List Char) :=
  match ungroup? Char.isDigit cs with
  | some ('0' :: _ :: _) => none
  | digits => digits

/-- The exponent part of a floating-point number, zero when there is none. -/
def exponent? : List Char → Option Int
  | [] => some 0
  | c :: rest =>
    if c == 'e' || c == 'E' then
      let (negative, digits) := Text.splitSign rest
      (ungroup? Char.isDigit digits).map fun digits =>
        if negative then -(natIn 10 digits : Int) else natIn 10 digits
    else none

/-- A floating-point number: decimal digits with a fraction, an exponent, or both. -/
def float? (cs : List Char) : Option Value :=
  let unsigned := (Text.splitSign cs).2
  if unsigned == "inf".toList || unsigned == "nan".toList then some (.float none)
  else do
    let inNumber (c : Char) := c.isDigit || c == '_'
    let whole ← wholeDigits? (unsigned.takeWhile inNumber)
    match unsigned.dropWhile inNumber with
    | [] => none
    | '.' :: rest =>
      let fraction ← ungroup? Char.isDigit (rest.takeWhile inNumber)
      let exponent ← exponent? (rest.dropWhile inNumber)
      some (.float (some ⟨natIn 10 (whole ++ fraction), exponent - fraction.length⟩))
    | rest =>
      let exponent ← exponent? rest
      some (.float (some ⟨natIn 10 whole, exponent⟩))

/-- A number of exactly two digits and what follows it. -/
def twoDigits? : List Char → Option (Nat × List Char)
  | a :: b :: rest => if a.isDigit && b.isDigit then some (natIn 10 [a, b], rest) else none
  | _ => none

def daysIn (year month : Nat) : Nat :=
  if month = 2 then
    if year % 4 = 0 ∧ (year % 100 ≠ 0 ∨ year % 400 = 0) then 29 else 28
  else if month = 4 ∨ month = 6 ∨ month = 9 ∨ month = 11 then 30
  else 31

/-- What follows a date, when one stands in front. -/
def afterDate? : List Char → Option (List Char)
  | a :: b :: c :: d :: '-' :: rest => do
    if !([a, b, c, d].all Char.isDigit) then none
    let (month, rest) ← twoDigits? rest
    match rest with
    | '-' :: rest =>
      let (day, rest) ← twoDigits? rest
      if 1 ≤ month ∧ month ≤ 12 ∧ 1 ≤ day ∧ day ≤ daysIn (natIn 10 [a, b, c, d]) month then
        some rest
      else none
    | _ => none
  | _ => none

/-- What follows hours and minutes, when they stand in front. -/
def afterMinutes? (cs : List Char) : Option (List Char) := do
  let (hour, rest) ← twoDigits? cs
  match rest with
  | ':' :: rest =>
    let (minute, rest) ← twoDigits? rest
    if hour ≤ 23 ∧ minute ≤ 59 then some rest else none
  | _ => none

/-- What follows a time of day, when one stands in front. Seconds are optional and admit a leap
second; their fraction may be of any length. -/
def afterTime? (cs : List Char) : Option (List Char) := do
  match (← afterMinutes? cs) with
  | ':' :: rest =>
    let (second, rest) ← twoDigits? rest
    if second > 60 then none
    match rest with
    | '.' :: rest =>
      if (rest.takeWhile Char.isDigit).isEmpty then none else some (rest.dropWhile Char.isDigit)
    | _ => some rest
  | rest => some rest

/-- Whether characters are the offset of a time from the universal one. -/
def isOffset : List Char → Bool
  | [] => true
  | ['Z'] | ['z'] => true
  | sign :: rest => (sign == '+' || sign == '-') && afterMinutes? rest == some []

/-- Whether characters are a date, a time, or both with a separator and maybe an offset. -/
def isDatetime (cs : List Char) : Bool :=
  match afterDate? cs with
  | some [] => true
  | some (separator :: rest) =>
    (separator == 'T' || separator == 't' || separator == ' ') && (afterTime? rest).any isOffset
  | none => afterTime? cs == some []

/-- The scalar that characters stand for. -/
def scalar? (cs : List Char) : Option Value :=
  if cs == "true".toList then some (.boolean true)
  else if cs == "false".toList then some (.boolean false)
  else (integer? cs).or ((float? cs).or (if isDatetime cs then some .datetime else none))

end TypedRoutes.Toml
