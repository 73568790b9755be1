import TwinServers.Bytes

/-!
# Request targets

What may stand between the method and the version of a request: a path with a query and a fragment,
a single `*`, an authority, or a scheme with an authority and a path. Bytes above `0x7f` are allowed
in a path, a query and a fragment when the whole target is valid UTF-8.
-/

namespace TwinServers.Http.Target

/-- Whether the byte is an ASCII letter or digit. -/
def isAlphanumeric (b : UInt8) : Bool :=
  (0x30 ≤ b && b ≤ 0x39) || (0x41 ≤ b && b ≤ 0x5a) || (0x61 ≤ b && b ≤ 0x7a)

/-- Whether the byte is one of the characters of a text. -/
def isOneOf (chars : String) (b : UInt8) : Bool := (Bytes.latin chars).contains b

/-- Whether the byte can stand in a target at all. Where it can stand is a matter of the form. -/
def isByte (b : UInt8) : Bool := 0x20 < b && b != 0x7f

/-- Whether the byte can stand in a path. The grave accent is written by its number. -/
def isPathByte (b : UInt8) : Bool := isByte b && !isOneOf "<>\x60" b

/-- Whether the byte can stand in a query. -/
def isQueryByte (b : UInt8) : Bool := isByte b && !isOneOf "\"<>" b

/-- Whether the byte can stand in a scheme. -/
def isSchemeByte (b : UInt8) : Bool := isAlphanumeric b || isOneOf "+-.~" b

/-- Whether the byte can stand in an authority. A percent sign is judged apart. -/
def isAuthorityByte (b : UInt8) : Bool :=
  isAlphanumeric b || isOneOf "!$%&'()*+,-.:;=@[]_~" b

/-- Whether the byte ends an authority. -/
def endsAuthority (b : UInt8) : Bool := isOneOf "/?#" b

/-- What has been seen of an authority. -/
structure Authority where
  /-- Colons since the user part and the brackets. -/
  colons : Nat := 0
  opened : Bool := false
  closed : Bool := false
  /-- Whether there was a percent sign since the user part and the brackets. -/
  percent : Bool := false
  /-- Whether the last byte ended the user part. -/
  atSign : Bool := false

namespace Authority

/-- The authority with one more byte, unless it cannot stand there. -/
def next? (a : Authority) (b : UInt8) : Option Authority :=
  let a := { a with atSign := false }
  if !isAuthorityByte b then none
  else if isOneOf ":" b then
    if a.colons < 8 then some { a with colons := a.colons + 1 } else none
  else if isOneOf "[" b then
    if a.percent || a.opened then none else some { a with opened := true }
  else if isOneOf "]" b then
    if a.opened && !a.closed then some { a with closed := true, colons := 0, percent := false }
    else none
  else if isOneOf "@" b then some { a with colons := 0, percent := false, atSign := true }
  else if isOneOf "%" b then some { a with percent := true }
  else some a

/-- Whether the authority can end here. -/
def complete (a : Authority) : Bool :=
  a.opened == a.closed && a.colons ≤ 1 && !a.atSign && !a.percent

/-- Whether a text is an authority. -/
def valid (s : Bytes) : Bool := (s.foldlM next? {}).any complete

end Authority

/-- Whether a text is a path, with a query and a fragment if there are any. Nothing in a fragment
matters. -/
def validPath (s : Bytes) : Bool :=
  let afterPath := s.dropWhile fun b => isPathByte b && !isOneOf "?#" b
  match afterPath with
  | [] => true
  | b :: query =>
    if isOneOf "#" b then true
    else if isOneOf "?" b then
      match query.dropWhile fun b => isQueryByte b && !isOneOf "#" b with
      | [] => true
      | b :: _ => isOneOf "#" b
    else false

/-- What follows a scheme of up to 64 bytes and `://`, if the text begins with them. -/
def afterScheme? (s : Bytes) : Option Bytes :=
  let scheme := s.takeWhile isSchemeByte
  let rest := s.dropWhile isSchemeByte
  if (Bytes.latin "://").isPrefixOf rest && scheme.length ≤ 64 then some (rest.drop 3) else none

/-- Whether a text is one of the forms of a target. -/
def validForm (s : Bytes) : Bool :=
  if s = Bytes.latin "*" then true
  else if (Bytes.latin "/").isPrefixOf s then validPath s
  else
    match afterScheme? s with
    | some rest =>
      let authority := rest.takeWhile (!endsAuthority ·)
      authority != [] && Authority.valid authority &&
        validPath (rest.dropWhile (!endsAuthority ·))
    | none => s != [] && Authority.valid s

/-- Whether a text is valid UTF-8. -/
def isUtf8 (s : Bytes) : Bool := (ByteArray.mk s.toArray).validateUTF8

/-- Whether a text is a target. -/
def valid (s : Bytes) : Bool := validForm s && isUtf8 s

end TwinServers.Http.Target
