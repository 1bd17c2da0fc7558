/-!
Blank text. A route name or a type counts as missing when every character of it belongs to the
Unicode class White_Space, so text of no-break spaces is as blank as the empty text.
-/
namespace TypedRoutes.Text

/-- Whether a character belongs to the Unicode class White_Space. Zero-width spaces and the byte
order mark do not, so a name made of them is visible to the generator. -/
def isSpace (c : Char) : Bool :=
  let n := c.toNat
  (9 ≤ n && n ≤ 13) || n == 0x20 || n == 0x85 || n == 0xA0 || n == 0x1680 ||
    (0x2000 ≤ n && n ≤ 0x200A) || n == 0x2028 || n == 0x2029 || n == 0x202F ||
    n == 0x205F || n == 0x3000

/-- Text that shows nothing: it is empty or holds white space only. -/
def isBlank (s : String) : Bool :=
  s.toList.all isSpace

theorem isBlank_append (s t : String) : isBlank (s ++ t) = (isBlank s && isBlank t) := by
  simp [isBlank]

end TypedRoutes.Text
