import TrafficMap.Url.Address
import TrafficMap.Url.Domain

/-!
# Reading URLs

An absolute URL from a text. Blanks and controls of ASCII at the ends do not count, nor do tabs and
line breaks anywhere. The web's own schemes always have a host, whose rules depend on the scheme; of
other schemes only the ones with two slashes have one.
-/

namespace TrafficMap.Url

/-! ## Text -/

/-- The characters that do not count at the ends. -/
def isEdge (c : Char) : Bool := c.toNat ≤ 0x20

/-- The characters that do not count anywhere. -/
def isBreak (c : Char) : Bool := c == '\t' || c == '\n' || c == '\r'

/-- The characters without those satisfying `p` at the ends. -/
def stripEnds (p : Char → Bool) (cs : List Char) : List Char :=
  ((cs.dropWhile p).reverse.dropWhile p).reverse

/-- The characters of a text that count. -/
def significant (s : String) : List Char :=
  (stripEnds isEdge s.toList).filter (!isBreak ·)

/-! ## Scheme -/

/-- A character of a scheme behind its first. -/
def isSchemeChar (c : Char) : Bool :=
  c.isAlpha || c.isDigit || c == '+' || c == '-' || c == '.'

/-- The scheme in small letters, and what follows its colon. -/
def scheme? (cs : List Char) : Option (List Char × List Char) :=
  match cs with
  | [] => none
  | c :: _ =>
    if !c.isAlpha then none
    else
      match cs.dropWhile isSchemeChar with
      | ':' :: rest => some ((cs.takeWhile isSchemeChar).map Char.toLower, rest)
      | _ => none

/-- Rules for what follows a scheme. -/
inductive SchemeKind where
  /-- A scheme of the web. -/
  | web
  | file
  | other
deriving Repr, DecidableEq

def schemeKind (scheme : String) : SchemeKind :=
  if ["http", "https", "ws", "wss", "ftp"].contains scheme then .web
  else if scheme = "file" then .file
  else .other

/-- The port of a scheme when none is given. -/
def defaultPort? (scheme : String) : Option Nat :=
  if scheme = "http" ∨ scheme = "ws" then some 80
  else if scheme = "https" ∨ scheme = "wss" then some 443
  else if scheme = "ftp" then some 21
  else none

/-! ## Hosts -/

/-- The characters that end the part with user and host. -/
def endsAuthority (kind : SchemeKind) (c : Char) : Bool :=
  c == '/' || c == '?' || c == '#' || (c == '\\' && kind != .other)

def hexDigit? (c : Char) : Option Nat := Text.digitIn? 16 c

/-- The bytes that characters stand for when escapes with a percent sign are replaced. -/
def percentDecoded : List Char → List UInt8
  | '%' :: a :: b :: cs =>
    match hexDigit? a, hexDigit? b with
    | some x, some y => (16 * x + y).toUInt8 :: percentDecoded cs
    | _, _ => 0x25 :: percentDecoded (a :: b :: cs)
  | c :: cs => (String.singleton c).toUTF8.toList ++ percentDecoded cs
  | [] => []

/-- The host of a web or file URL. -/
def webHost (cs : List Char) : Except Fault Host :=
  match cs with
  | '[' :: rest =>
    if cs.getLast? = some ']' then
      match ipv6? rest.dropLast with
      | some groups => .ok (.ipv6 groups)
      | none => .error .invalidIpv6
    else .error .invalidIpv6
  | cs =>
    -- Escapes are replaced before the name is looked at, so that none can hide a character.
    match String.fromUTF8? (ByteArray.mk (percentDecoded cs).toArray) with
    | none => .error .invalidDomain
    | some decoded =>
      match domain? decoded.toList with
      | none => .error .invalidDomain
      | some name =>
        if name.isEmpty then .error .emptyHost
        -- A name whose last part is a number can only be an address.
        else if endsInNumber name then
          match ipv4? name with
          | some address => .ok (.ipv4 address)
          | none => .error .invalidIpv4
        else .ok (.domain (String.ofList name))

/-- Characters that no host of any scheme holds. -/
def isForbiddenInHost (c : Char) : Bool :=
  c == '\x00' || "\t\n\r #/:<>?@[\\]^|".toList.contains c

/-- The host of a URL with another scheme; it may be empty. -/
def opaqueHost (cs : List Char) : Except Fault (Option Host) :=
  match cs with
  | [] => .ok none
  | '[' :: _ => (webHost cs).map some
  | cs =>
    if cs.any isForbiddenInHost then .error .invalidDomainCharacter
    else .ok (some (.opaqueName (String.ofList cs)))

/-- Splits at the first colon that is not between brackets. -/
def splitHost (inside : Bool) : List Char → List Char × List Char
  | [] => ([], [])
  | c :: cs =>
    if c = ':' ∧ !inside then ([], c :: cs)
    else
      let inside := if c = '[' then true else if c = ']' then false else inside
      let (front, rest) := splitHost inside cs
      (c :: front, rest)

/-! ## Authority -/

/-- User name and password, and what follows the last `@`. -/
def splitCredentials (authority : List Char) : List Char × List Char :=
  if authority.contains '@' then
    let host := (authority.reverse.takeWhile (· != '@')).reverse
    (authority.take (authority.length - host.length - 1), host)
  else ([], authority)

/-- There is a user name or a password; a colon alone separates nothing. -/
def hasCredentials (user : List Char) : Bool := !user.isEmpty && user != [':']

/-- The number of a port, which ends at a backslash. -/
def portNumber (cs : List Char) : Except Fault (Option Nat) :=
  let digits := cs.takeWhile Char.isDigit
  if ((cs.drop digits.length).head?.map (· != '\\')).getD false then .error .invalidPort
  else if digits.isEmpty then .ok none
  else
    match Text.numberIn? 10 digits with
    | some n => if n ≤ 0xFFFF then .ok (some n) else .error .invalidPort
    | none => .error .invalidPort

/-- Host and port of a part without credentials. -/
def hostAndPort (kind : SchemeKind) (cs : List Char) : Except Fault (Option Host × Option Nat) := do
  let (name, rest) := splitHost false cs
  if name.isEmpty && (kind == .web || !rest.isEmpty) then .error .emptyHost
  else
    let h ← if kind == .other then opaqueHost name else (webHost name).map some
    let port ← portNumber (rest.drop 1)
    .ok (h, port)

/-- The URL with the given scheme whose text goes on with user and host. -/
def withAuthority (scheme : String) (cs : List Char) : Except Fault Url := do
  let kind := schemeKind scheme
  let authority := cs.takeWhile (!endsAuthority kind ·)
  let tail := cs.dropWhile (!endsAuthority kind ·)
  let (user, rest) := splitCredentials authority
  -- An `@` that separates nothing from nothing is no authority.
  if authority.head? = some '@' ∧ rest.isEmpty ∧ user.isEmpty ∧ !tail.isEmpty then
    .error .emptyHost
  else
    let (h, port) ← hostAndPort kind rest
    if h.isNone && hasCredentials user then .error .emptyHost
    else
      .ok
        { scheme
          credentials := String.ofList user
          host := h
          port := port.filter (some · != defaultPort? scheme)
          tail := String.ofList tail }

/-! ## Files -/

/-- A letter and a colon or a bar name a drive. -/
def isDrive (cs : List Char) : Bool :=
  match cs with
  | [c, d] => c.isAlpha && (d == ':' || d == '|')
  | _ => false

/-- A file URL behind its scheme. -/
def fileUrl (cs : List Char) : Except Fault Url :=
  let slash (c : Char) : Bool := c == '/' || c == '\\'
  match cs with
  | a :: b :: rest =>
    if slash a && slash b then
      let name := rest.takeWhile (!endsAuthority .file ·)
      let tail := String.ofList (rest.dropWhile (!endsAuthority .file ·))
      if name.isEmpty || isDrive name then .ok ⟨"file", "", none, none, tail⟩
      else
        -- The local machine is the same as no host.
        (webHost name).map fun h =>
          { scheme := "file"
            credentials := ""
            host := if h = .domain "localhost" then none else some h
            port := none
            tail }
    else .ok ⟨"file", "", none, none, String.ofList cs⟩
  | cs => .ok ⟨"file", "", none, none, String.ofList cs⟩

/-! ## URLs -/

/-- The absolute URL that a text is. -/
def parse (s : String) : Except Fault Url :=
  match scheme? (significant s) with
  | none => .error .noScheme
  | some (scheme, rest) =>
    let scheme := String.ofList scheme
    match schemeKind scheme with
    | .file => fileUrl rest
    -- Slashes before the host may lean either way, and there may be any number of them.
    | .web => withAuthority scheme (rest.dropWhile fun c => c == '/' || c == '\\')
    | .other =>
      match rest with
      | '/' :: '/' :: rest => withAuthority scheme rest
      -- Without two slashes there is no host.
      | rest => .ok ⟨scheme, "", none, none, String.ofList rest⟩

end TrafficMap.Url
