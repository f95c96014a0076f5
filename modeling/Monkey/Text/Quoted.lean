import Monkey.Text.Extender
import Monkey.Text.Ignorable
import Monkey.Text.Printable

/-!
Quoted text: a text between double quotes, on one line and readable whatever it holds. Quotes and
backslashes take a backslash, the common control characters have a letter, and every other character
that cannot be shown by itself is given by its code point in hexadecimal: one that is not printable,
that attaches to its neighbour, or that has no form of its own.
-/
namespace Monkey.Text

def codeEscape (c : Char) : List Char :=
  ['\\', 'u', '{'] ++ Nat.toDigits 16 c.toNat ++ ['}']

def isVisible (c : Char) : Bool := isPrintable c && !isExtender c && !isIgnorable c

def quotedChar (c : Char) : List Char :=
  if c = '"' then ['\\', '"']
  else if c = '\\' then ['\\', '\\']
  else if c = '\n' then ['\\', 'n']
  else if c = '\r' then ['\\', 'r']
  else if c = '\t' then ['\\', 't']
  else if c = '\x00' then ['\\', '0']
  else if isVisible c then [c]
  else codeEscape c

def quotedChars (text : List Char) : List Char :=
  ['"'] ++ text.flatMap quotedChar ++ ['"']

def quoted (text : String) : String := String.ofList (quotedChars text.toList)

end Monkey.Text
