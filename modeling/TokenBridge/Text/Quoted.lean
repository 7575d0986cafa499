import TokenBridge.Text.Invisible

/-!
# Quoted text

How a string or a character is shown between quotes: the quote itself, the backslash and the characters
without a shape of their own are escaped, everything else stands for itself.
-/

namespace TokenBridge.Text

/-- The escape of a character by its code point, in lower-case hex digits without leading zeros. -/
def codePointEscape (c : Char) : String :=
  "\\u\x7b" ++ String.ofList (Nat.toDigits 16 c.toNat) ++ "\x7d"

/-- A character as it stands between two `quote`s. -/
def escaped (quote c : Char) : String :=
  if c = quote ∨ c = '\\' then String.ofList ['\\', c]
  else if c = '\x00' then "\\0"
  else if c = '\t' then "\\t"
  else if c = '\r' then "\\r"
  else if c = '\n' then "\\n"
  else if isInvisible c then codePointEscape c
  else String.ofList [c]

/-- A string between double quotes. -/
def quoted (s : String) : String :=
  "\"" ++ String.join (s.toList.map (escaped '"')) ++ "\""

/-- A character between single quotes. -/
def quotedChar (c : Char) : String :=
  "'" ++ escaped '\'' c ++ "'"

end TokenBridge.Text
