import SecretFlow.Text.Blank
import SecretFlow.Text.Search
import SecretFlow.Text.Utf8
import SecretFlow.Url.Address
import SecretFlow.Url.Domain

set_option autoImplicit false
set_option relaxedAutoImplicit false

/-!
Hosts of URLs, as browsers read them, and the host that a command sends to.
-/

namespace SecretFlow.Url

inductive SchemeType where
  | file
  | web
  | other
  deriving DecidableEq, Repr

def SchemeType.ofName (name : String) : SchemeType :=
  if name = "file" then .file
  else if ["http", "https", "ws", "wss", "ftp"].contains name then .web
  else .other

private def isSchemeChar (c : Char) : Bool :=
  c.isAlphanum || c = '+' || c = '-' || c = '.'

/-- The scheme of a URL in lower case, and what follows its colon. -/
def splitScheme? : List Char → Option (String × List Char)
  | [] => none
  | c :: rest =>
      if !c.isAlpha then none
      else
        let name := c :: rest.takeWhile isSchemeChar
        match rest.dropWhile isSchemeChar with
        | ':' :: after => some (String.ofList (name.map Char.toLower), after)
        | _ => none

private def endsAuthority (type : SchemeType) (c : Char) : Bool :=
  c = '/' || c = '?' || c = '#' || (c = '\\' && type ≠ .other)

/-- What stands after the last at sign of an authority and how much before it; none if there is no
such sign. -/
private def splitUser? (type : SchemeType) (s : List Char) : Option (List Char × List Char) :=
  let authority := s.takeWhile (!endsAuthority type ·)
  let host := (authority.reverse.takeWhile (· ≠ '@')).reverse
  if host.length = authority.length then none
  else
    let user := authority.take (authority.length - host.length - 1)
    some (user, s.drop (user.length + 1))

/-- The length of the host at the front: up to a colon outside square brackets, or the end of the
authority. -/
private def hostLength (type : SchemeType) (bracketed : Bool) : List Char → Nat
  | [] => 0
  | c :: rest =>
      if (c = ':' && !bracketed) || endsAuthority type c then 0
      else
        let bracketed := if c = '[' then true else if c = ']' then false else bracketed
        hostLength type bracketed rest + 1

private def hexNibble? (c : Char) : Option Nat :=
  if c.isDigit then some (c.toNat - '0'.toNat)
  else if 'a' ≤ c && c ≤ 'f' then some (c.toNat - 'a'.toNat + 10)
  else if 'A' ≤ c && c ≤ 'F' then some (c.toNat - 'A'.toNat + 10)
  else none

/-- Bytes with each percent sign and two digits read as a byte. -/
private def percentDecode : List UInt8 → List UInt8
  | 0x25 :: a :: b :: rest =>
      match hexNibble? (Char.ofNat a.toNat), hexNibble? (Char.ofNat b.toNat) with
      | some x, some y => UInt8.ofNat (16 * x + y) :: percentDecode rest
      | _, _ => 0x25 :: percentDecode (a :: b :: rest)
  | b :: rest => b :: percentDecode rest
  | [] => []

/-- The characters of a domain whose percent signs are read, if they are UTF-8. -/
private def decodedDomain? (s : List Char) : Option (List Char) :=
  let bytes := percentDecode (Text.Utf8.encode (String.ofList s))
  if Text.Utf8.isValid bytes then some (Text.Utf8.decode bytes) else none

private def bracketedHost? (s : List Char) : Option String :=
  match s.reverse with
  | ']' :: inner =>
      (readAddress8? (inner.reverse.drop 1)).map fun pieces => "[" ++ writeAddress8 pieces ++ "]"
  | _ => none

/-- The host of a web or file URL: an address or a domain in ASCII form. -/
def domainHost? (s : List Char) : Option String :=
  if s.head? = some '[' then bracketedHost? s
  else do
    let domain ← asciiDomain? (← decodedDomain? s)
    if domain.isEmpty then none
    else if endsInNumber domain then (readAddress4? domain).map writeAddress4
    else some (String.ofList domain)

private def percentByte (b : UInt8) : List Char :=
  let digits := (Nat.toDigits 16 b.toNat).map Char.toUpper
  '%' :: (List.replicate (2 - digits.length) '0' ++ digits)

/-- Control characters and all outside ASCII as percent signs with two digits for each byte. -/
private def percentEncode (s : List Char) : List Char :=
  s.flatMap fun c =>
    if c.toNat < 0x20 || 0x7F ≤ c.toNat then
      (Text.Utf8.encode (String.ofList [c])).flatMap percentByte
    else [c]

/-- The host of any other URL: an address, or a text that is kept. -/
def opaqueHost? (s : List Char) : Option String :=
  if s.head? = some '[' then bracketedHost? s
  else if s.any (fun c => c = '\x00' || "\t\n\r #/:<>?@[\\]^|".toList.contains c) then none
  else some (String.ofList (percentEncode s))

/-- Whether the text after a host is no port or a valid one. -/
private def portFits (s : List Char) : Bool :=
  match s with
  | ':' :: rest =>
      let digits := rest.takeWhile Char.isDigit
      let fits := digits.foldl (fun (acc : Option Nat) c =>
        (acc.map fun n => n * 10 + (c.toNat - '0'.toNat)).filter (· ≤ 65535)) (some 0)
      fits.isSome &&
        match rest.drop digits.length with
        | [] => true
        | c :: _ => c = '/' || c = '\\' || c = '?' || c = '#'
  | _ => true

/-- Whether a part of a user name or password is there, so that a host has to follow. -/
private def namesUser (user : List Char) : Bool :=
  user ≠ [] && user ≠ [':']

inductive HostReading where
  | invalid
  | absent
  | host (text : String)
  deriving DecidableEq, Repr

private def authorityHost (type : SchemeType) (s : List Char) : HostReading :=
  let user := splitUser? type s
  let rest := match user with
    | some (_, r) => r
    | none => s
  let emptyAuthority := match user, rest.head? with
    | some ([], _), some c => endsAuthority type c
    | _, _ => false
  let hostText := rest.take (hostLength type false rest)
  let after := rest.drop hostText.length
  let required := (user.map fun (u, _) => namesUser u).getD false
  if emptyAuthority || (type = .web && hostText.isEmpty) then .invalid
  else
    match (if type = .other then opaqueHost? hostText else domainHost? hostText) with
    | none => .invalid
    | some host =>
        if host.isEmpty then
          if after.head? = some ':' || required then .invalid else .absent
        else if portFits after then .host host
        else .invalid

private def isDriveLetter : List Char → Bool
  | [c, d] => c.isAlpha && (d = ':' || d = '|')
  | _ => false

private def isSingleDot (segment : List Char) : Bool :=
  [".", "%2e", "%2E"].contains (String.ofList segment)

private def isDoubleDot (segment : List Char) : Bool :=
  ["..", ".%2e", "%2e.", "%2e%2e"].contains (String.ofList (segment.map Char.toLower))

/-- Whether the path of a file URL starts with a drive letter once its dots are gone; the number
of segments so far is given. -/
private def startsWithDrive : Nat → List (List Char) → Bool
  | _, [] => false
  | depth, segment :: rest =>
      if isSingleDot segment then startsWithDrive depth rest
      else if isDoubleDot segment then startsWithDrive (depth - 1) rest
      else if depth = 0 && isDriveLetter segment then true
      else startsWithDrive (depth + 1) rest

private def pathSegments (s : List Char) : List (List Char) :=
  (s.takeWhile fun c => c ≠ '?' && c ≠ '#').map (fun c => if c = '\\' then '/' else c) |>.splitOn '/'

/-- The host of a file URL, after its scheme. A local host and a drive letter are no hosts. -/
private def fileHost (s : List Char) : HostReading :=
  match s with
  | a :: b :: rest =>
      if (a = '/' || a = '\\') && (b = '/' || b = '\\') then
        let hostText := rest.takeWhile (!endsAuthority .file ·)
        if isDriveLetter hostText || hostText.isEmpty then .absent
        else
          match domainHost? hostText with
          | none => .invalid
          | some host =>
              let path := match rest.drop hostText.length with
                | c :: after => if c = '/' || c = '\\' then after else []
                | [] => []
              if host = "localhost" || startsWithDrive 0 (pathSegments path) then .absent
              else .host host
      else .absent
  | _ => .absent

/-- The host of a URL. Controls and blanks around it do not count. -/
def hostReading (url : List Char) : HostReading :=
  match splitScheme? (Text.dropAround (·.toNat ≤ 0x20) url) with
  | none => .invalid
  | some (scheme, rest) =>
      match SchemeType.ofName scheme with
      | .file => fileHost rest
      | .web => authorityHost .web (rest.dropWhile fun c => c = '/' || c = '\\')
      | .other =>
          match rest with
          | '/' :: '/' :: authority => authorityHost .other authority
          | _ => .absent

def host? (url : List Char) : Option String :=
  match hostReading url with
  | .host text => some text
  | _ => none

end SecretFlow.Url

namespace SecretFlow

private def blankWords (s : List Char) : List (List Char) :=
  (s.splitOnP Text.isBlank).filter (· ≠ [])

/-- The host that a command sends to: that of the first of its words that is a URL with a host. -/
def networkDestination? (statement : String) : Option String :=
  ((blankWords statement.toList).map (Text.dropAround Text.isQuote)).findSome? fun word =>
    if Text.occurs [':', '/', '/'] word then Url.host? word else none

end SecretFlow
