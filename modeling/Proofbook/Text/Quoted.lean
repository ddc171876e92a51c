import Proofbook.Text.Printable

/-!
# Quoted text

A text is written between double quotes. A quote, a backslash, a line feed, a carriage return, a
tab and a null have short escapes; every other character that could not be seen, or that would
merge with the character before it, is written by its code point in hexadecimal.
-/

namespace Proofbook.Text

def codePointEscape (c : Char) : List Char :=
  ['\\', 'u', '\x7b'] ++ Nat.toDigits 16 c.toNat ++ ['\x7d']

def quoteChar (c : Char) : List Char :=
  if c = '\x00' then ['\\', '0']
  else if c = '\t' then ['\\', 't']
  else if c = '\r' then ['\\', 'r']
  else if c = '\n' then ['\\', 'n']
  else if c = '"' then ['\\', '"']
  else if c = '\\' then ['\\', '\\']
  else if isExtender c || !isPrintable c then codePointEscape c
  else [c]

def quoted (s : String) : String := String.ofList ('"' :: s.toList.flatMap quoteChar ++ ['"'])

-- Short escapes, a combining accent, a soft hyphen, a filler, letters that stand for themselves.
example : quoted "a\"\n\x00" = "\"a\\\"\\n\\0\"" := by decide +kernel
example : quoted "é\u0301\u00ad" = "\"é\\u\x7b301\x7d\\u\x7bad\x7d\"" := by decide +kernel
example : quoted "\u3164カ\uff9e" = "\"\\u\x7b3164\x7dカ\uff9e\"" := by decide +kernel

end Proofbook.Text
