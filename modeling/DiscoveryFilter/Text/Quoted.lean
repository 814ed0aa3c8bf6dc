import DiscoveryFilter.Text.Hidden

/-!
# Quoted text

`quote` puts a text between double quotes. Quotes and backslashes get a backslash in front, line
ends, tabs and NUL have short forms, and every other character without a shape of its own is
written by its code point in base sixteen. `disarm` leaves a text without quotes and replaces only
the control characters that a terminal would act on.
-/

namespace DiscoveryFilter.Text

/-- The code point of a character in base sixteen between braces. -/
def codePoint (c : Char) : List Char :=
  ['\\', 'u', '\x7b'] ++ Nat.toDigits 16 c.toNat ++ ['\x7d']

/-- How a character is written between quotes. -/
def escape (c : Char) : List Char :=
  if c = '\x00' then ['\\', '0']
  else if c = '\t' then ['\\', 't']
  else if c = '\r' then ['\\', 'r']
  else if c = '\n' then ['\\', 'n']
  else if c = '"' ∨ c = '\\' then ['\\', c]
  else if isHidden c then codePoint c
  else [c]

/-- A text between quotes. -/
def quote (cs : List Char) : List Char :=
  '"' :: cs.flatMap escape ++ ['"']

/-- The control characters below U+0080 that a terminal acts on, with their written forms. -/
def terminalControls : List (Char × String) :=
  [('\x07', "\\x07"), ('\x08', "\\x08"), ('\x0c', "\\x0c"), ('\x1b', "\\x1b"),
   ('\x7f', "\\x7f")]

/-- How a character is written in a text that goes to a terminal as it is. -/
def disarmChar (c : Char) : List Char :=
  match terminalControls.lookup c with
  | some written => written.toList
  | none => if 0x80 ≤ c.toNat ∧ c.toNat ≤ 0x9F then codePoint c else [c]

/-- Writes the control characters that a terminal would act on by their code. -/
def disarm (s : String) : String :=
  String.ofList (s.toList.flatMap disarmChar)

/-- `quote` on strings. -/
def quoted (s : String) : String :=
  String.ofList (quote s.toList)

end DiscoveryFilter.Text
