import Devirt.Text.Alphabetic
import Devirt.Text.Numeric

/-!
# Letters and numbers
-/

namespace Devirt.Text

/-- Whether a character is a letter or a number. -/
def isAlphanumeric (c : Char) : Bool := isAlphabetic c || isNumeric c

end Devirt.Text
