import EventFeed.Text.Extending
import EventFeed.Text.Invisible

/-!
# EventFeed.Text.Quoted

Text quoted for a message.  A message that names a value from outside
(a host, a listen address, a JSON string) shows it between double quotes,
with everything that would not show as itself escaped:

* the quote and the backslash by a backslash;
* NUL, tab, line feed and carriage return by their letters;
* characters without a form of their own, and marks that would attach to
  their neighbour, by their code in braces.
-/

namespace EventFeed

/-- The code of a character in lower-case hexadecimal, without leading
zeros. -/
def hexCode (c : Char) : List Char := Nat.toDigits 16 c.toNat

/-- How one character shows between quotes. -/
def quotedChar (c : Char) : List Char :=
  if c = '"' then ['\\', '"']
  else if c = '\\' then ['\\', '\\']
  else if c = '\x00' then ['\\', '0']
  else if c = '\t' then ['\\', 't']
  else if c = '\n' then ['\\', 'n']
  else if c = '\r' then ['\\', 'r']
  else if isExtending c || isInvisible c then
    ['\\', 'u', '{'] ++ hexCode c ++ ['}']
  else [c]

/-- The text between double quotes, as a message shows it. -/
def quoted (s : String) : String :=
  String.ofList ('"' :: s.toList.flatMap quotedChar ++ ['"'])

/-- The text between double quotes, with apostrophes escaped as well. -/
def quotedStrictly (s : String) : String :=
  String.ofList ('"' :: s.toList.flatMap (fun c => if c = '\'' then ['\\', '\''] else quotedChar c)
    ++ ['"'])

/-- A plain letter shows as itself. -/
example : quoted "a b" = "\"a b\"" := by decide +kernel

/-- A combining accent shows by its code. -/
example : quoted "a\u0301" = "\"a\\u\x7b301\x7d\"" := by decide +kernel

end EventFeed
