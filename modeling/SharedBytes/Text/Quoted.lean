import SharedBytes.Text.Combining
import SharedBytes.Text.Ignorable
import SharedBytes.Text.Printable

/-!
# Quoted text

A quoted text stands between double quotes. The backslash and the double quote carry a backslash,
tab, line feed, carriage return and the null character have short names. Any other character that
does not print, that may show as nothing or that extends the one before it is given by its code
point in hexadecimal.
-/

namespace SharedBytes.Text

def codePointName (c : Char) : List Char :=
  "\\u\x7b".toList ++ Nat.toDigits 16 c.toNat ++ ['\x7d']

/-- Whether a character can be told from its neighbours when it stands for itself. -/
def isPlain (c : Char) : Bool :=
  isPrintable c && !isIgnorable c && !isExtending c

def quotedChar (c : Char) : List Char :=
  if c = '\x00' then ['\\', '0']
  else if c = '\t' then ['\\', 't']
  else if c = '\r' then ['\\', 'r']
  else if c = '\n' then ['\\', 'n']
  else if c = '\\' ∨ c = '"' then ['\\', c]
  else if isPlain c then [c]
  else codePointName c

def quoted (text : List Char) : String :=
  String.ofList ('"' :: text.flatMap quotedChar ++ ['"'])

end SharedBytes.Text
