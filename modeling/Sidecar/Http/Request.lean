/-! Request lines: methods, request targets and percent-decoding.

A method is one of the standard names, spelled in capitals, or any other nonempty run of token
characters. A request target is an origin form (`/path?query`), an absolute form
(`scheme://authority/path`, whose authority may not be empty), an authority form (`host:port`)
or `*`; its path is what routing sees. In a path the characters that must be percent-encoded are refused, apart from `"`, `{`
and `}`, which are let through; the delete character is refused and non-ASCII characters pass.
What follows a `#` is not looked at. -/
namespace Sidecar.Http

inductive Method where
  | get
  | head
  | post
  | put
  | delete
  | connect
  | options
  | trace
  | patch
  | other (name : String)
deriving DecidableEq

/-- Token characters of the HTTP grammar. -/
def isTokenChar (c : Char) : Bool :=
  ('a' ≤ c && c ≤ 'z') || ('A' ≤ c && c ≤ 'Z') || ('0' ≤ c && c ≤ '9') ||
    "!#$%&*+-.^_|~".toList.contains c || c.toNat == 39 || c.toNat == 96

/-- Reads a method; none for an empty name or one with a character outside the token set. -/
def Method.parse? (s : String) : Option Method :=
  match s with
  | "GET" => some .get
  | "HEAD" => some .head
  | "POST" => some .post
  | "PUT" => some .put
  | "DELETE" => some .delete
  | "CONNECT" => some .connect
  | "OPTIONS" => some .options
  | "TRACE" => some .trace
  | "PATCH" => some .patch
  | _ => if !s.isEmpty && s.toList.all isTokenChar then some (.other s) else none

inductive TargetError where
  | empty
  | tooLong
  | invalidChar
  | invalidAuthority
  | invalidFormat
  | schemeTooLong
deriving DecidableEq

def TargetError.message : TargetError → String
  | .empty => "empty string"
  | .tooLong => "uri too long"
  | .invalidChar => "invalid uri character"
  | .invalidAuthority => "invalid authority"
  | .invalidFormat => "invalid format"
  | .schemeTooLong => "scheme too long"

def isPathChar (c : Char) : Bool :=
  let n := c.toNat
  n == 0x21 || (0x24 ≤ n && n ≤ 0x3B) || n == 0x3D || (0x40 ≤ n && n ≤ 0x5F) ||
    (0x61 ≤ n && n ≤ 0x7A) || n == 0x7C || n == 0x7E || 0x80 ≤ n || n == 0x22 || n == 0x7B ||
    n == 0x7D

def isQueryChar (c : Char) : Bool :=
  let n := c.toNat
  n == 0x21 || (0x24 ≤ n && n ≤ 0x3B) || n == 0x3D || (0x3F ≤ n && n ≤ 0x7E) || 0x80 ≤ n

/-- Checks the query part after `?`, up to a fragment. -/
def checkQuery : List Char → Except TargetError Unit
  | [] => .ok ()
  | c :: cs =>
    if c = '#' then .ok ()
    else if isQueryChar c then checkQuery cs
    else .error .invalidChar

/-- The path of a path-and-query text, which ends at `?` or `#`; checks the whole text. -/
def pathOf : List Char → Except TargetError (List Char)
  | [] => .ok []
  | c :: cs =>
    if c = '?' then (checkQuery cs).map fun _ => []
    else if c = '#' then .ok []
    else if isPathChar c then (pathOf cs).map (c :: ·)
    else .error .invalidChar

/-- Characters an authority may hold; `%` is handled apart. -/
def isAuthorityChar (c : Char) : Bool :=
  ('a' ≤ c && c ≤ 'z') || ('A' ≤ c && c ≤ 'Z') || ('0' ≤ c && c ≤ '9') ||
    "!#$&()*+,-./:;=?@[]_~".toList.contains c || c.toNat == 39

structure AuthorityScan where
  colons : Nat := 0
  openBracket : Bool := false
  closeBracket : Bool := false
  percent : Bool := false
  atSign : Option Nat := none

/-- The length of the authority at the front of a text: it ends at `/`, `?` or `#`. -/
def authorityLength (cs : List Char) : Except TargetError Nat :=
  let rec go (st : AuthorityScan) (i : Nat) : List Char → Except TargetError (AuthorityScan × Nat)
    | [] => .ok (st, i)
    | c :: rest =>
      if c = '/' ∨ c = '?' ∨ c = '#' then .ok (st, i)
      else if c = ':' then
        if 8 ≤ st.colons then .error .invalidAuthority
        else go { st with colons := st.colons + 1 } (i + 1) rest
      else if c = '[' then
        if st.percent ∨ st.openBracket then .error .invalidAuthority
        else go { st with openBracket := true } (i + 1) rest
      else if c = ']' then
        if !st.openBracket ∨ st.closeBracket then .error .invalidAuthority
        else go { st with closeBracket := true, colons := 0, percent := false } (i + 1) rest
      else if c = '@' then go { st with atSign := some i, colons := 0, percent := false } (i + 1) rest
      else if c = '%' then go { st with percent := true } (i + 1) rest
      else if isAuthorityChar c then go st (i + 1) rest
      else .error .invalidChar
  match go {} 0 cs with
  | .error e => .error e
  | .ok (st, n) =>
    if st.openBracket != st.closeBracket then .error .invalidAuthority
    else if 1 < st.colons then .error .invalidAuthority
    else if 0 < n ∧ st.atSign = some (n - 1) then .error .invalidAuthority
    else if st.percent then .error .invalidAuthority
    else .ok n

/-- Characters of a scheme name: letters, digits, `+`, `-`, `.` and also `~`, in any order, so
that a name may start with any of them. -/
def isSchemeChar (c : Char) : Bool :=
  ('a' ≤ c && c ≤ 'z') || ('A' ≤ c && c ≤ 'Z') || ('0' ≤ c && c ≤ '9') || c == '+' || c == '-' ||
    c == '.' || c == '~'

/-- The length of a scheme and its `://`, when the text starts with one. -/
def schemeLength (cs : List Char) : Except TargetError (Option Nat) :=
  let lower := cs.map Char.toLower
  if 7 ≤ cs.length ∧ lower.take 7 = "http://".toList then .ok (some 7)
  else if 8 ≤ cs.length ∧ lower.take 8 = "https://".toList then .ok (some 8)
  else if cs.length ≤ 3 then .ok none
  else
    let name := cs.takeWhile isSchemeChar
    let i := name.length
    match cs.drop i with
    | ':' :: '/' :: '/' :: _ => if 64 < i then .error .schemeTooLong else .ok (some (i + 3))
    | _ => .ok none

/-- The path that routing sees for a request target. -/
def targetPath? (target : String) : Except TargetError String := do
  let cs := target.toList
  if cs.isEmpty then throw .empty
  if 65534 < target.utf8ByteSize then throw .tooLong
  match cs with
  | ['/'] => pure "/"
  | ['*'] => pure "*"
  | [_] =>
    let n ← authorityLength cs
    if n = 1 then pure "" else throw .invalidChar
  | '/' :: _ => pure (String.ofList (← pathOf cs))
  | _ =>
    match ← schemeLength cs with
    | none =>
      let n ← authorityLength cs
      if n = cs.length then pure "" else throw .invalidFormat
    | some k =>
      let rest := cs.drop k
      if rest.isEmpty then throw .empty
      let n ← authorityLength rest
      if n = 0 then throw .invalidFormat
      let path ← pathOf (rest.drop n)
      pure (if path.isEmpty then "/" else String.ofList path)

def hexValue? (c : Char) : Option Nat :=
  if '0' ≤ c ∧ c ≤ '9' then some (c.toNat - '0'.toNat)
  else if 'a' ≤ c ∧ c ≤ 'f' then some (c.toNat - 'a'.toNat + 10)
  else if 'A' ≤ c ∧ c ≤ 'F' then some (c.toNat - 'A'.toNat + 10)
  else none

/-- Replaces each `%` followed by two hexadecimal digits with the byte they name; any other `%`
stays as it is. -/
def percentDecodeBytes : List UInt8 → List UInt8
  | [] => []
  | b :: h :: l :: more =>
    if b = 37 then
      match hexValue? (Char.ofNat h.toNat), hexValue? (Char.ofNat l.toNat) with
      | some x, some y => (16 * x + y).toUInt8 :: percentDecodeBytes more
      | _, _ => b :: percentDecodeBytes (h :: l :: more)
    else b :: percentDecodeBytes (h :: l :: more)
  | b :: rest => b :: percentDecodeBytes rest

/-- Percent-decodes a text; none when the bytes are not UTF-8. -/
def percentDecode? (s : String) : Option String :=
  String.fromUTF8? ⟨(percentDecodeBytes s.toUTF8.toList).toArray⟩

end Sidecar.Http
