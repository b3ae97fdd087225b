import CdnPublish.Text.Hidden

/-!
# Quoted texts

A text between double quotes in which everything that could be mistaken is escaped: the quote and
the escape sign itself, line breaks and tabs by a letter, and every other character that is not
shown by itself by its number, as in `\u{7f}`.
-/

namespace CdnPublish.Text

/-- A character by its number, in lower-case hexadecimal. -/
def numbered (character : Char) : List Char :=
  '\\' :: 'u' :: '\x7b' :: Nat.toDigits 16 character.toNat ++ ['\x7d']

/-- A character inside a quoted text. -/
def quotedChar (character : Char) : List Char :=
  if character = '\x00' then ['\\', '0']
  else if character = '\t' then ['\\', 't']
  else if character = '\r' then ['\\', 'r']
  else if character = '\n' then ['\\', 'n']
  else if character = '\\' then ['\\', '\\']
  else if character = '"' then ['\\', '"']
  else if character.toNat < 0x20 || character.toNat = 0x7F then numbered character
  else if character.toNat < 0x7F then [character]
  else if isHidden character then numbered character
  else [character]

/-- A text between quotes. -/
def quoted (text : String) : String :=
  String.ofList ('"' :: text.toList.flatMap quotedChar ++ ['"'])

end CdnPublish.Text
