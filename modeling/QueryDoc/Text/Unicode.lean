/-!
Unicode case mapping and blanks, for the scripts that names are written in.

`lowerChar` maps a character to its lowercase form, which for `İ` is two characters
(`i` and a combining dot above); `isBlank` is the White_Space property. Both are tables over
code point ranges: ASCII and Latin-1, Latin Extended-A and Additional, Greek, Cyrillic,
Armenian, Georgian, Glagolitic, the letterlike symbols that have lowercase forms, circled and
fullwidth Latin letters, and Deseret. Any other character is its own lowercase form.
-/

namespace QueryDoc.Text

/-- `n` shifted by `d` as a character. -/
def shifted (c : Char) (d : Int) : Char := Char.ofNat ((c.toNat : Int) + d).toNat

/-- The range `lo ≤ n ≤ hi`. -/
def inRange (n lo hi : Nat) : Bool := lo ≤ n && n ≤ hi

/-- Pairs where the uppercase letter sits at an even code point and its lowercase right
after it. -/
def evenPaired (n lo hi : Nat) : Bool := inRange n lo hi && n % 2 == 0

/-- Pairs where the uppercase letter sits at an odd code point and its lowercase right after
it. -/
def oddPaired (n lo hi : Nat) : Bool := inRange n lo hi && n % 2 == 1

/-- The lowercase form of one character (one or two characters long). -/
def lowerChar (c : Char) : List Char :=
  let n := c.toNat
  if n < 0x80 then [c.toLower]
  else if n == 0x130 then ['i', Char.ofNat 0x307]
  else if (inRange n 0xC0 0xDE && n != 0xD7) then [shifted c 32]
  else if evenPaired n 0x100 0x12F || evenPaired n 0x132 0x137 then [shifted c 1]
  else if oddPaired n 0x139 0x148 then [shifted c 1]
  else if evenPaired n 0x14A 0x177 then [shifted c 1]
  else if n == 0x178 then [Char.ofNat 0xFF]
  else if oddPaired n 0x179 0x17E then [shifted c 1]
  else if n == 0x386 then [Char.ofNat 0x3AC]
  else if inRange n 0x388 0x38A then [shifted c 37]
  else if n == 0x38C then [Char.ofNat 0x3CC]
  else if inRange n 0x38E 0x38F then [shifted c 63]
  else if inRange n 0x391 0x3A1 || inRange n 0x3A3 0x3AB then [shifted c 32]
  else if evenPaired n 0x3D8 0x3EF then [shifted c 1]
  else if inRange n 0x400 0x40F then [shifted c 80]
  else if inRange n 0x410 0x42F then [shifted c 32]
  else if evenPaired n 0x460 0x481 || evenPaired n 0x48A 0x4BF then [shifted c 1]
  else if n == 0x4C0 then [Char.ofNat 0x4CF]
  else if oddPaired n 0x4C1 0x4CE then [shifted c 1]
  else if evenPaired n 0x4D0 0x52F then [shifted c 1]
  else if inRange n 0x531 0x556 then [shifted c 48]
  else if inRange n 0x10A0 0x10C5 then [shifted c 7264]
  else if evenPaired n 0x1E00 0x1E95 then [shifted c 1]
  else if n == 0x1E9E then [Char.ofNat 0xDF]
  else if evenPaired n 0x1EA0 0x1EFF then [shifted c 1]
  else if n == 0x2126 then [Char.ofNat 0x3C9]
  else if n == 0x212A then ['k']
  else if n == 0x212B then [Char.ofNat 0xE5]
  else if inRange n 0x2160 0x216F then [shifted c 16]
  else if inRange n 0x24B6 0x24CF then [shifted c 26]
  else if inRange n 0x2C00 0x2C2F then [shifted c 48]
  else if inRange n 0xFF21 0xFF3A then [shifted c 32]
  else if inRange n 0x10400 0x10427 then [shifted c 40]
  else [c]

/-- The lowercase form of a text. -/
def lower (s : String) : String :=
  String.ofList (s.toList.flatMap lowerChar)

/-- The White_Space property. -/
def isBlank (c : Char) : Bool :=
  let n := c.toNat
  inRange n 0x9 0xD || n == 0x20 || n == 0x85 || n == 0xA0 || n == 0x1680 ||
  inRange n 0x2000 0x200A || n == 0x2028 || n == 0x2029 || n == 0x202F || n == 0x205F ||
  n == 0x3000

/-- A text without blanks at either end. -/
def trimBlanks (s : String) : String :=
  String.ofList ((s.toList.dropWhile isBlank).reverse.dropWhile isBlank).reverse

end QueryDoc.Text
