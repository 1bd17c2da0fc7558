import TypedRoutes.Text.UppercaseTable

/-!
Uppercase text. Key constants are named by the uppercase form of their field, and the form is the
full one: a letter may become several, so distinct fields can share a constant.
-/
namespace TypedRoutes.Text

/-- The uppercase letter of a code point, when a run holds it. -/
def UpperRun.letter? (run : UpperRun) (n : Nat) : Option Char :=
  if run.first ≤ n && n ≤ run.last && (n - run.first) % run.step == 0 then
    some (Char.ofNat (Int.toNat (n + run.distance)))
  else
    none

/-- The uppercase form of one character. ASCII letters need no table; a character without an
uppercase form stands for itself. -/
def upperChar (c : Char) : List Char :=
  if c.toNat < 128 then
    [c.toUpper]
  else
    match upperExpansions.lookup c.toNat with
    | some expansion => expansion.map Char.ofNat
    | none => [(upperRuns.findSome? (·.letter? c.toNat)).getD c]

/-- The uppercase form of a text, character by character. -/
def upper (s : String) : String :=
  String.ofList (s.toList.flatMap upperChar)

/-- Inside ASCII the form keeps the length of a name. -/
theorem upperChar_ascii {c : Char} (h : c.toNat < 128) : upperChar c = [c.toUpper] := by
  simp [upperChar, h]

end TypedRoutes.Text
