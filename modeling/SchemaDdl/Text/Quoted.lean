import SchemaDdl.Text.Printable

/-!
# Quoted text in messages

A text is shown between double quotes.  Quotes, backslashes and the usual controls have short
escapes; any other character that does not show by itself is written by its code point.
-/

namespace SchemaDdl.Text

def quotedChar (c : Char) : List Char :=
  if c = '\x00' then ['\\', '0']
  else if c = '\t' then ['\\', 't']
  else if c = '\r' then ['\\', 'r']
  else if c = '\n' then ['\\', 'n']
  else if c = '\\' then ['\\', '\\']
  else if c = '"' then ['\\', '"']
  else if isPrintable c then [c]
  else '\\' :: 'u' :: '\x7b' :: (Nat.toDigits 16 c.toNat ++ ['\x7d'])

/-- A text between double quotes, with escapes. -/
def quoted (s : List Char) : String :=
  String.ofList ('"' :: (s.flatMap quotedChar ++ ['"']))

end SchemaDdl.Text
