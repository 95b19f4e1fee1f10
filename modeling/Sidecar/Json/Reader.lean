import Sidecar.Json.Value
/-! Reading a request line into a value, or saying exactly where and why it cannot be read.

The reader walks the UTF-8 bytes of the line once, from the left:

* blanks are space, tab, line feed and carriage return;
* `null`, `true` and `false` are spelled out in full;
* a number is an optional `-`, an integer part without leading zeros, an optional fraction of
  one or more digits and an optional exponent (see `Number` for its value);
* a string may not hold a control character; its escapes are `\" \\ \/ \b \f \n \r \t` and
  `\uXXXX`, where a leading surrogate must be followed by an escaped trailing one;
* arrays and objects nest at most 127 deep, objects have string keys, and no comma may trail;
* nothing but blanks may follow the value.

A refusal names its fault and a position: the line is one more than the line breaks before it,
the column counts bytes from the start of that line. Faults found at a byte already read point
at that byte; faults found by looking at the next byte point at the next byte. -/
namespace Sidecar.Json

inductive SyntaxFault where
  | eofList
  | eofObject
  | eofString
  | eofValue
  | expectedColon
  | expectedListCommaOrEnd
  | expectedObjectCommaOrEnd
  | expectedIdent
  | expectedValue
  | invalidEscape
  | invalidNumber
  | numberOutOfRange
  | controlCharacter
  | keyMustBeString
  | loneLeadingSurrogate
  | trailingComma
  | trailingCharacters
  | unexpectedEndOfHexEscape
  | recursionLimit
deriving DecidableEq

def SyntaxFault.message : SyntaxFault → String
  | .eofList => "EOF while parsing a list"
  | .eofObject => "EOF while parsing an object"
  | .eofString => "EOF while parsing a string"
  | .eofValue => "EOF while parsing a value"
  | .expectedColon => "expected `:`"
  | .expectedListCommaOrEnd => "expected `,` or `]`"
  | .expectedObjectCommaOrEnd => "expected `,` or `\x7d`"
  | .expectedIdent => "expected ident"
  | .expectedValue => "expected value"
  | .invalidEscape => "invalid escape"
  | .invalidNumber => "invalid number"
  | .numberOutOfRange => "number out of range"
  | .controlCharacter => "control character (\\u0000-\\u001F) found while parsing a string"
  | .keyMustBeString => "key must be a string"
  | .loneLeadingSurrogate => "lone leading surrogate in hex escape"
  | .trailingComma => "trailing comma"
  | .trailingCharacters => "trailing characters"
  | .unexpectedEndOfHexEscape => "unexpected end of hex escape"
  | .recursionLimit => "recursion limit exceeded"

/-- A fault and the byte index it points at. -/
structure ReadError where
  fault : SyntaxFault
  index : Nat

structure ReadFailure where
  fault : SyntaxFault
  line : Nat
  column : Nat

def ReadFailure.message (f : ReadFailure) : String :=
  f.fault.message ++ " at line " ++ toString f.line ++ " column " ++ toString f.column

def ReadError.locate (bs : ByteArray) (e : ReadError) : ReadFailure :=
  let before := bs.toList.take e.index
  let lineStart := before.length - (before.reverse.takeWhile (· != 10)).length
  ⟨e.fault, 1 + (before.take lineStart).count 10, e.index - lineStart⟩

def byteAt? (bs : ByteArray) (i : Nat) : Option UInt8 :=
  if h : i < bs.size then some bs[i] else none

def ascii (c : Char) : UInt8 := c.toNat.toUInt8

/-- A fault at the bytes read so far, the last of them at index `i - 1`. -/
def failAt (f : SyntaxFault) (i : Nat) : Except ReadError α := .error ⟨f, i⟩

/-- A fault at the next byte, at index `i`, which has not been read. -/
def failBefore (bs : ByteArray) (f : SyntaxFault) (i : Nat) : Except ReadError α :=
  .error ⟨f, min bs.size (i + 1)⟩

/-- Blank bytes: space, line feed, tab and carriage return. -/
def isBlank (b : UInt8) : Bool := b == 32 || b == 10 || b == 9 || b == 13

/-- The index of the first byte from `i` on that is not blank. -/
def skipBlanks (bs : ByteArray) (i : Nat) : Nat :=
  if h : i < bs.size then if isBlank bs[i] then skipBlanks bs (i + 1) else i else i
termination_by bs.size - i

def isDigitByte (b : UInt8) : Bool := 48 ≤ b && b ≤ 57

def byteDigit (b : UInt8) : Nat := b.toNat - 48

def skipDigits (bs : ByteArray) (i : Nat) : Nat :=
  if h : i < bs.size then if isDigitByte bs[i] then skipDigits bs (i + 1) else i else i
termination_by bs.size - i

def isExponentMark (b : UInt8) : Bool := b == ascii 'e' || b == ascii 'E'

/-- The float of a number's parts, which ended before index `i`. -/
def floatAt (positive : Bool) (significand : Nat) (exponent : Int) (i : Nat) :
    Except ReadError (Number × Nat) :=
  match Number.ofParts positive significand exponent with
  | some x => pure (.float x, i)
  | none => failAt .numberOutOfRange i

/-- Reads the exponent digits after the first, whose value so far is `e`. An exponent beyond
`2^31 - 1` gives zero, or is refused when it would scale a nonzero significand up. -/
def readExponentDigits (bs : ByteArray) (positive : Bool) (significand : Nat) (start : Int)
    (up : Bool) (e : Nat) (i : Nat) : Except ReadError (Number × Nat) :=
  let finish := floatAt positive significand
    (if up then min exponentMax (start + e) else max exponentMin (start - e)) i
  if h : i < bs.size then
    if isDigitByte bs[i] then
      let e := e * 10 + byteDigit bs[i]
      if exponentMax < (e : Int) then
        if significand != 0 && up then failAt .numberOutOfRange (i + 1)
        else pure (.float (if positive then 0 else -0), skipDigits bs (i + 1))
      else readExponentDigits bs positive significand start up e (i + 1)
    else finish
  else finish
termination_by bs.size - i

/-- Reads an exponent at its `e`, added to the exponent `start` of the significand. -/
def readExponent (bs : ByteArray) (positive : Bool) (significand : Nat) (start : Int) (i : Nat) :
    Except ReadError (Number × Nat) :=
  let (up, i) := match byteAt? bs (i + 1) with
    | some 43 => (true, i + 2)
    | some 45 => (false, i + 2)
    | _ => (true, i + 1)
  match byteAt? bs i with
  | none => failAt .eofValue i
  | some b =>
    if isDigitByte b then readExponentDigits bs positive significand start up (byteDigit b) (i + 1)
    else failAt .invalidNumber (i + 1)

/-- What may follow a significand: an exponent, or the end of the number. -/
def readAfterSignificand (bs : ByteArray) (positive : Bool) (significand : Nat) (exponent : Int)
    (i : Nat) : Except ReadError (Number × Nat) :=
  match byteAt? bs i with
  | some b =>
    if isExponentMark b then readExponent bs positive significand exponent i
    else floatAt positive significand exponent i
  | none => floatAt positive significand exponent i

/-- Reads fraction digits while the significand fits in 64 bits; the digits after that are
dropped. `after` counts the digits taken. -/
def readFraction (bs : ByteArray) (positive : Bool) (significand : Nat) (before : Int)
    (after : Nat) (i : Nat) : Except ReadError (Number × Nat) :=
  if h : i < bs.size then
    let b := bs[i]
    if isDigitByte b then
      if wordMax < significand * 10 + byteDigit b then
        readAfterSignificand bs positive significand (before - after) (skipDigits bs i)
      else readFraction bs positive (significand * 10 + byteDigit b) before (after + 1) (i + 1)
    else if after == 0 then failBefore bs .invalidNumber i
    else readAfterSignificand bs positive significand (before - after) i
  else if after == 0 then failBefore bs .eofValue i
  else floatAt positive significand (before - after) i
termination_by bs.size - i

/-- Reads the rest of an integer part too long for 64 bits: each further digit only raises the
exponent. -/
def readLongInteger (bs : ByteArray) (positive : Bool) (significand : Nat) (exponent : Nat)
    (i : Nat) : Except ReadError (Number × Nat) :=
  if h : i < bs.size then
    let b := bs[i]
    if isDigitByte b then readLongInteger bs positive significand (exponent + 1) (i + 1)
    else if b == ascii '.' then readFraction bs positive significand exponent 0 (i + 1)
    else if isExponentMark b then readExponent bs positive significand exponent i
    else floatAt positive significand exponent i
  else floatAt positive significand exponent i
termination_by bs.size - i

/-- What may follow an integer part: a fraction, an exponent, or the end of the number. -/
def readAfterInteger (bs : ByteArray) (positive : Bool) (n : Nat) (i : Nat) :
    Except ReadError (Number × Nat) :=
  match byteAt? bs i with
  | some b =>
    if b == ascii '.' then readFraction bs positive n 0 0 (i + 1)
    else if isExponentMark b then readExponent bs positive n 0 i
    else pure (Number.ofInteger positive n, i)
  | none => pure (Number.ofInteger positive n, i)

def readIntegerDigits (bs : ByteArray) (positive : Bool) (n : Nat) (i : Nat) :
    Except ReadError (Number × Nat) :=
  if h : i < bs.size then
    let b := bs[i]
    if isDigitByte b then
      if wordMax < n * 10 + byteDigit b then readLongInteger bs positive n 0 i
      else readIntegerDigits bs positive (n * 10 + byteDigit b) (i + 1)
    else readAfterInteger bs positive n i
  else readAfterInteger bs positive n i
termination_by bs.size - i

def readNumber (bs : ByteArray) (positive : Bool) (i : Nat) : Except ReadError (Number × Nat) :=
  match byteAt? bs i with
  | none => failAt .eofValue i
  | some b =>
    if b == ascii '0' then
      match byteAt? bs (i + 1) with
      | some c =>
        if isDigitByte c then failBefore bs .invalidNumber (i + 1)
        else readAfterInteger bs positive 0 (i + 1)
      | none => readAfterInteger bs positive 0 (i + 1)
    else if isDigitByte b then readIntegerDigits bs positive (byteDigit b) (i + 1)
    else failAt .invalidNumber (i + 1)

def hexByteValue? (b : UInt8) : Option Nat :=
  if isDigitByte b then some (byteDigit b)
  else if ascii 'a' ≤ b && b ≤ ascii 'f' then some (b.toNat - 87)
  else if ascii 'A' ≤ b && b ≤ ascii 'F' then some (b.toNat - 55)
  else none

def readHex4 (bs : ByteArray) (i : Nat) : Except ReadError Nat :=
  if bs.size < i + 4 then failAt .eofString bs.size
  else
    match [0, 1, 2, 3].map fun k => (byteAt? bs (i + k)).bind hexByteValue? with
    | [some a, some b, some c, some d] => pure (((a * 16 + b) * 16 + c) * 16 + d)
    | _ => failAt .invalidEscape (i + 4)

/-- Reads the code point of a `\u` escape whose digits start at index `i`, and whether it took a
second escape for a trailing surrogate. -/
def readUnicodeEscape (bs : ByteArray) (i : Nat) : Except ReadError (Nat × Bool) := do
  let n ← readHex4 bs i
  if 0xDC00 ≤ n ∧ n ≤ 0xDFFF then failAt .loneLeadingSurrogate (i + 4)
  else if n < 0xD800 ∨ 0xDBFF < n then pure (n, false)
  else
    match byteAt? bs (i + 4) with
    | none => failAt .eofString (i + 4)
    | some b =>
      if b != ascii '\\' then failAt .unexpectedEndOfHexEscape (i + 5)
      else
        match byteAt? bs (i + 5) with
        | none => failAt .eofString (i + 5)
        | some c =>
          if c != ascii 'u' then failAt .unexpectedEndOfHexEscape (i + 6)
          else
            let m ← readHex4 bs (i + 6)
            if m < 0xDC00 ∨ 0xDFFF < m then failAt .loneLeadingSurrogate (i + 10)
            else pure ((n - 0xD800) * 1024 + (m - 0xDC00) + 0x10000, true)

def escapedByte? (c : UInt8) : Option UInt8 :=
  if c == ascii '"' || c == ascii '\\' || c == ascii '/' then some c
  else if c == ascii 'b' then some 8
  else if c == ascii 'f' then some 12
  else if c == ascii 'n' then some 10
  else if c == ascii 'r' then some 13
  else if c == ascii 't' then some 9
  else none

def readStringBytes (bs : ByteArray) (i : Nat) (acc : ByteArray) :
    Except ReadError (ByteArray × Nat) :=
  if h : i < bs.size then
    let b := bs[i]
    if b == ascii '"' then pure (acc, i + 1)
    else if b == ascii '\\' then
      match byteAt? bs (i + 1) with
      | none => failAt .eofString (i + 1)
      | some c =>
        if c == ascii 'u' then
          match readUnicodeEscape bs (i + 2) with
          | .error e => .error e
          | .ok (n, pair) =>
            readStringBytes bs (i + 2 + (if pair then 10 else 4))
              (acc ++ (String.singleton (Char.ofNat n)).toUTF8)
        else
          match escapedByte? c with
          | some e => readStringBytes bs (i + 2) (acc.push e)
          | none => failAt .invalidEscape (i + 2)
    else if b < 32 then failAt .controlCharacter (i + 1)
    else readStringBytes bs (i + 1) (acc.push b)
  else failAt .eofString i
termination_by bs.size - i
decreasing_by all_goals (try split) <;> omega

def readString (bs : ByteArray) (i : Nat) : Except ReadError (String × Nat) := do
  let (b, i) ← readStringBytes bs i ByteArray.empty
  pure ((String.fromUTF8? b).getD "", i)

def readIdent (bs : ByteArray) : List Char → Nat → Except ReadError Nat
  | [], i => pure i
  | c :: cs, i =>
    match byteAt? bs i with
    | none => failAt .eofValue i
    | some b => if b == ascii c then readIdent bs cs (i + 1) else failAt .expectedIdent (i + 1)

mutual

/-- Reads a value; `depth` is one more than the arrays and objects that may still be opened.
Every two nested calls read at least one byte, so twice the length of the line and a little more
is fuel enough. -/
def readValue (bs : ByteArray) (fuel depth i : Nat) : Except ReadError (Value × Nat) :=
  match fuel with
  | 0 => failBefore bs .recursionLimit i
  | fuel + 1 =>
    let i := skipBlanks bs i
    match byteAt? bs i with
    | none => failBefore bs .eofValue i
    | some b =>
      if b == ascii 'n' then (readIdent bs ['u', 'l', 'l'] (i + 1)).map fun j => (.null, j)
      else if b == ascii 't' then
        (readIdent bs ['r', 'u', 'e'] (i + 1)).map fun j => (.bool true, j)
      else if b == ascii 'f' then
        (readIdent bs ['a', 'l', 's', 'e'] (i + 1)).map fun j => (.bool false, j)
      else if b == ascii '-' then (readNumber bs false (i + 1)).map fun (n, j) => (.num n, j)
      else if isDigitByte b then (readNumber bs true i).map fun (n, j) => (.num n, j)
      else if b == ascii '"' then (readString bs (i + 1)).map fun (s, j) => (.str s, j)
      else if b == ascii '[' then
        if depth ≤ 1 then failBefore bs .recursionLimit i
        else (readElements bs fuel (depth - 1) (i + 1) true #[]).map fun (xs, j) => (.arr xs, j)
      else if b == ascii '\x7b' then
        if depth ≤ 1 then failBefore bs .recursionLimit i
        else (readMembers bs fuel (depth - 1) (i + 1) true #[]).map fun (kvs, j) => (.obj kvs, j)
      else failBefore bs .expectedValue i
termination_by fuel

def readElements (bs : ByteArray) (fuel depth i : Nat) (first : Bool) (acc : Array Value) :
    Except ReadError (Array Value × Nat) :=
  match fuel with
  | 0 => failBefore bs .recursionLimit i
  | fuel + 1 =>
    let i := skipBlanks bs i
    match byteAt? bs i with
    | none => failBefore bs .eofList i
    | some b =>
      if b == ascii ']' then pure (acc, i + 1)
      else if b == ascii ',' && !first then
        let j := skipBlanks bs (i + 1)
        match byteAt? bs j with
        | none => failBefore bs .eofValue j
        | some c =>
          if c == ascii ']' then failBefore bs .trailingComma j
          else
            match readValue bs fuel depth j with
            | .error e => .error e
            | .ok (v, k) => readElements bs fuel depth k false (acc.push v)
      else if first then
        match readValue bs fuel depth i with
        | .error e => .error e
        | .ok (v, k) => readElements bs fuel depth k false (acc.push v)
      else failBefore bs .expectedListCommaOrEnd i
termination_by fuel

def readMembers (bs : ByteArray) (fuel depth i : Nat) (first : Bool)
    (acc : Array (String × Value)) : Except ReadError (Array (String × Value) × Nat) :=
  match fuel with
  | 0 => failBefore bs .recursionLimit i
  | fuel + 1 =>
    let i := skipBlanks bs i
    match byteAt? bs i with
    | none => failBefore bs .eofObject i
    | some b =>
      if b == ascii '\x7d' then pure (acc, i + 1)
      else if b == ascii ',' && !first then readMember bs fuel depth (skipBlanks bs (i + 1)) acc
      else if first then readMember bs fuel depth i acc
      else failBefore bs .expectedObjectCommaOrEnd i
termination_by fuel

def readMember (bs : ByteArray) (fuel depth i : Nat) (acc : Array (String × Value)) :
    Except ReadError (Array (String × Value) × Nat) :=
  match fuel with
  | 0 => failBefore bs .recursionLimit i
  | fuel + 1 =>
    match byteAt? bs i with
    | none => failBefore bs .eofValue i
    | some b =>
      if b == ascii '"' then
        match readString bs (i + 1) with
        | .error e => .error e
        | .ok (k, j) =>
          let j := skipBlanks bs j
          match byteAt? bs j with
          | none => failBefore bs .eofObject j
          | some c =>
            if c == ascii ':' then
              match readValue bs fuel depth (j + 1) with
              | .error e => .error e
              | .ok (v, l) => readMembers bs fuel depth l false (insertEntry acc k v)
            else failBefore bs .expectedColon j
      else if b == ascii '\x7d' then failBefore bs .trailingComma i
      else failBefore bs .keyMustBeString i
termination_by fuel

end

/-- Reads a whole line of bytes: one value, with only blanks after it. -/
def readDocument (bs : ByteArray) : Except ReadError Value := do
  let (v, i) ← readValue bs (2 * bs.size + 8) 128 0
  let i := skipBlanks bs i
  if i < bs.size then failBefore bs .trailingCharacters i else pure v

def Value.ofText (text : String) : Except ReadFailure Value :=
  let bs := text.toUTF8
  (readDocument bs).mapError (·.locate bs)

end Sidecar.Json
