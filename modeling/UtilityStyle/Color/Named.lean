/-
  The basic color names of CSS.
-/
import UtilityStyle.Color

namespace UtilityStyle.Color

/-- The opaque named colors, each with its hexadecimal digits. -/
def basicNames : List (String × String) := [
  ("black", "000000"), ("white", "ffffff"), ("red", "ff0000"), ("green", "008000"),
  ("lime", "00ff00"), ("blue", "0000ff"), ("navy", "000080"), ("yellow", "ffff00"),
  ("orange", "ffa500"), ("purple", "800080"), ("pink", "ffc0cb"), ("gray", "808080"),
  ("grey", "808080"), ("silver", "c0c0c0"), ("maroon", "800000"), ("olive", "808000"),
  ("teal", "008080"), ("aqua", "00ffff"), ("cyan", "00ffff"), ("fuchsia", "ff00ff"),
  ("magenta", "ff00ff"), ("brown", "a52a2a")]

/-- The color of a name of any case. -/
def named? (name : String) : Option Color :=
  let key := Text.lowerAscii name
  if key = "transparent" then some .transparent
  else (basicNames.lookup key).bind ofHex?

end UtilityStyle.Color
