import Sidecar.Text.Escaped
/-! Two ways of quoting a text between double quotes.

* `quote` is the debugging form used in error messages: the short escapes `\0 \t \r \n \\ \"`,
  and `\u{hex}` (lowercase, no padding) for every character of `isEscaped`.
* `jsonQuote` is the JSON form: `\" \\ \b \f \n \r \t`, and `\u00hh` for the other control
  characters below `0x20`; everything else is written as it is. -/
namespace Sidecar.Text

def hexText (n : Nat) : List Char :=
  Nat.toDigits 16 n

/-- How one character is written inside a debugging quote. -/
def escapeChar (c : Char) : List Char :=
  if c = '\x00' then ['\\', '0']
  else if c = '\t' then ['\\', 't']
  else if c = '\r' then ['\\', 'r']
  else if c = '\n' then ['\\', 'n']
  else if c = '\\' then ['\\', '\\']
  else if c = '"' then ['\\', '"']
  else if isEscaped c then ['\\', 'u', '\x7b'] ++ hexText c.toNat ++ ['\x7d']
  else [c]

/-- The debugging form of a text, quotes included. -/
def quote (s : String) : String :=
  String.ofList ('"' :: s.toList.flatMap escapeChar ++ ['"'])

def jsonEscapeChar (c : Char) : List Char :=
  if c = '"' then ['\\', '"']
  else if c = '\\' then ['\\', '\\']
  else if c = '\x08' then ['\\', 'b']
  else if c = '\x0c' then ['\\', 'f']
  else if c = '\n' then ['\\', 'n']
  else if c = '\r' then ['\\', 'r']
  else if c = '\t' then ['\\', 't']
  else if c.toNat < 0x20 then
    let h := hexText c.toNat
    ['\\', 'u'] ++ List.replicate (4 - h.length) '0' ++ h
  else [c]

def jsonQuote (s : String) : String :=
  String.ofList ('"' :: s.toList.flatMap jsonEscapeChar ++ ['"'])

end Sidecar.Text
