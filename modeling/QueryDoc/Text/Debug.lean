/-!
Debug text of a string: in double quotes, with `"` and `\` escaped, the control characters
`\0 \t \r \n` written as such, and every other character that prints nothing (control and
format characters, combining marks, private use) written as `\u{hex}` with lowercase digits.
Any other character is written as it is; a single quote is not escaped.
-/

namespace QueryDoc.Text

/-- Lowercase hex digits of a number, without leading zeros. -/
def hexDigits (n : Nat) : String :=
  String.ofList (Nat.toDigits 16 n)

/-- Characters that print nothing visible, or join the one before them. -/
def isHidden (c : Char) : Bool :=
  let n := c.toNat
  n < 0x20 || (0x7F ≤ n && n ≤ 0x9F) || n == 0xAD ||
  (0x300 ≤ n && n ≤ 0x36F) || (0x483 ≤ n && n ≤ 0x489) || (0x591 ≤ n && n ≤ 0x5BD) ||
  (0x600 ≤ n && n ≤ 0x605) || n == 0x61C || n == 0x6DD || n == 0x70F || n == 0x180E ||
  (0x200B ≤ n && n ≤ 0x200F) || (0x2028 ≤ n && n ≤ 0x202E) || (0x2060 ≤ n && n ≤ 0x206F) ||
  (0x20D0 ≤ n && n ≤ 0x20F0) || (0xE000 ≤ n && n ≤ 0xF8FF) || (0xFE00 ≤ n && n ≤ 0xFE0F) ||
  (0xFE20 ≤ n && n ≤ 0xFE2F) || n == 0xFEFF || (0xFFF0 ≤ n && n ≤ 0xFFFB) ||
  (0xE0000 ≤ n && n ≤ 0xE0FFF) || n ≥ 0xF0000

/-- The debug form of one character inside a quoted string. -/
def debugChar (c : Char) : String :=
  if c == '\x00' then "\\0"
  else if c == '\t' then "\\t"
  else if c == '\r' then "\\r"
  else if c == '\n' then "\\n"
  else if c == '\\' then "\\\\"
  else if c == '"' then "\\\""
  else if isHidden c then "\\u\x7b" ++ hexDigits c.toNat ++ "\x7d"
  else String.singleton c

/-- The debug form of a string, quotes included. -/
def debugQuote (s : String) : String :=
  "\"" ++ String.join (s.toList.map debugChar) ++ "\""

end QueryDoc.Text
