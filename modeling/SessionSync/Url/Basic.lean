import SessionSync.Text.Utf8
import SessionSync.Url.Address
import SessionSync.Url.Domain

/-!
# Web addresses

Which texts are URLs of the schemes `http` and `https`. `webScheme?` takes a text apart as a browser
does: characters at the ends that cannot be seen are dropped, tabs and line ends are dropped
wherever they stand, any number of slashes of either kind may follow the scheme, and only the host
and the port can be at fault; what follows them is not looked at.
-/

namespace SessionSync.Url

/-! ## Hosts -/

/-- Resolves the escapes `%XX` in a text; a `%` that starts none stands for itself. -/
def percentDecode : List Char → List UInt8
  | [] => []
  | '%' :: a :: b :: rest =>
    if isHexDigit a && isHexDigit b then
      UInt8.ofNat (hexDigitValue a * 16 + hexDigitValue b) :: percentDecode rest
    else 0x25 :: percentDecode (a :: b :: rest)
  | c :: rest => Text.Utf8.encode [c] ++ percentDecode rest

/-- Whether a text, with its escapes, is a host other than an IPv6 address. -/
def isDomainOrIpv4 (s : List Char) : Bool :=
  match (Text.Utf8.decode? (percentDecode s)).bind domain? with
  | none => false
  | some domain => !domain.isEmpty && (!endsInNumber domain || isIpv4 domain)

/-- Whether a text is a host. -/
def isHost : List Char → Bool
  | '[' :: rest => rest.getLast? = some ']' && isIpv6 rest.dropLast
  | s => isDomainOrIpv4 s

/-- Whether a text is a port, which may be left out after the colon. -/
def isPort (s : List Char) : Bool :=
  s.all Char.isDigit && numberIn 10 s ≤ 65535

/-! ## The parts of a URL -/

/-- The text without what a browser drops. -/
def visible (s : List Char) : List Char :=
  let dropped (c : Char) : Bool := c.toNat ≤ 0x20
  (((s.dropWhile dropped).reverse.dropWhile dropped).reverse).filter fun c =>
    c ≠ '\t' && c ≠ '\n' && c ≠ '\r'

/-- The scheme of a URL, in lower case, and what follows its colon. -/
def scheme? : List Char → Option (List Char × List Char)
  | [] => none
  | c :: rest =>
    let isSchemeChar (c : Char) : Bool := c.isAlphanum || c = '+' || c = '-' || c = '.'
    if c.isAlpha then
      match rest.dropWhile isSchemeChar with
      | ':' :: rest' => some ((c :: rest.takeWhile isSchemeChar).map Char.toLower, rest')
      | _ => none
    else none

/-- Whether a character ends the part of a URL that names user, host and port. -/
def endsAuthority (c : Char) : Bool :=
  c = '/' || c = '\\' || c = '?' || c = '#'

/-- What follows the last `@` of a text, or all of it. -/
def afterUser (s : List Char) : List Char :=
  (Text.pieces '@' s).getLastD []

/-- Cuts a text before the first colon that does not stand in brackets. -/
def cutPort (inBrackets : Bool) : List Char → List Char × List Char
  | [] => ([], [])
  | c :: rest =>
    if c = ':' && !inBrackets then ([], c :: rest)
    else
      let inside := if c = '[' then true else if c = ']' then false else inBrackets
      let (host, port) := cutPort inside rest
      (c :: host, port)

/-- Whether a text names a host, perhaps with a user in front and a port behind. -/
def isAuthority (s : List Char) : Bool :=
  let (host, port) := cutPort false (afterUser s)
  isHost host && isPort (port.drop 1)

/-- The scheme of a text that is a URL of the scheme `http` or `https`. URLs of other schemes are
not told from texts that are none. -/
def webScheme? (s : String) : Option String :=
  match scheme? (visible s.toList) with
  | some (scheme, rest) =>
    let named := rest.dropWhile fun c => c = '/' || c = '\\'
    if (scheme = "http".toList || scheme = "https".toList) &&
        isAuthority (named.takeWhile fun c => !endsAuthority c) then
      some (String.ofList scheme)
    else none
  | none => none

end SessionSync.Url
