import Listings.Text.Unassigned
import Listings.Text.Extending

/-!
# Printable characters

A character is printable when it is assigned and is neither a control, a format character, a private
use character nor a separator other than the space.

* `standsAlone`: a printable character that does not extend the one before it may be shown as it is.
-/

namespace Listings.Text

/-- Controls, format and private use characters, and separators other than the space: the general
categories Cc, Cf, Co, Zl, Zp and Zs in Unicode 15. -/
def invisible : CodeSet :=
  [(0x0, 0x1F), (0x7F, 0xA0), (0xAD, 0xAD), (0x600, 0x605), (0x61C, 0x61C), (0x6DD, 0x6DD),
    (0x70F, 0x70F), (0x890, 0x891), (0x8E2, 0x8E2), (0x1680, 0x1680), (0x180E, 0x180E),
    (0x2000, 0x200F), (0x2028, 0x202F), (0x205F, 0x2064), (0x2066, 0x206F), (0x3000, 0x3000),
    (0xE000, 0xF8FF), (0xFEFF, 0xFEFF), (0xFFF9, 0xFFFB), (0x110BD, 0x110BD), (0x110CD, 0x110CD),
    (0x13430, 0x1343F), (0x1BCA0, 0x1BCA3), (0x1D173, 0x1D17A), (0xE0001, 0xE0001),
    (0xE0020, 0xE007F), (0xF0000, 0xFFFFD), (0x100000, 0x10FFFD)]

/-- Whether a character has a visible shape, the space included. -/
def isPrintable (c : Char) : Bool := !(invisible.contains c || unassigned.contains c)

/-- Whether a character can be shown by itself. -/
def standsAlone (c : Char) : Bool := !extending.contains c && isPrintable c

end Listings.Text
