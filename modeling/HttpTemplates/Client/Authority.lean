import HttpTemplates.Text.Digit
import HttpTemplates.Text.Quoted

/-!
# Authorities of URLs

The part of a URL that names the host. `Authority.check` refuses brackets around anything but an
address, and characters that some compatibility form turns into a delimiter of URLs.
-/

namespace HttpTemplates

/-- Why the authority of a URL is refused. -/
inductive AuthorityError where
  /-- Its brackets do not enclose a host. -/
  | brackets
  /-- The address between its brackets has a version, but is not written like one. -/
  | versionedAddress
  /-- What stands between its brackets is no address. -/
  | notAddress (host : Text)
  /-- The address between its brackets needs none. -/
  | needlessBrackets
  /-- A character of it resembles a delimiter. -/
  | delimiter (authority : Text)
  deriving DecidableEq

/-- The wording of an error in an authority. -/
def AuthorityError.message : AuthorityError → Text
  | .brackets => "Invalid IPv6 URL"
  | .versionedAddress => "IPvFuture address is invalid"
  | .notAddress host => Text.quoted host ++ " does not appear to be an IPv4 or IPv6 address"
  | .needlessBrackets => "An IPv4 address cannot be in brackets"
  | .delimiter authority =>
    ("netloc '" : Text) ++ authority ++ "' contains invalid characters under NFKC normalization"

namespace Authority

/-! ## Addresses -/

/-- Whether a text is a number below 256 without needless zeros. -/
def isOctet (t : Text) : Bool :=
  t ≠ [] && t.length ≤ 3 && t.all Char.isDigit && (t = ['0'] || t.head? != some '0')
    && Text.numberIn 10 t ≤ 255

/-- Whether a text is an IPv4 address: four octets with points between them. -/
def isIpv4 (t : Text) : Bool :=
  (Text.pieces '.' t).length = 4 && (Text.pieces '.' t).all isOctet

/-- Whether a text is a group of an IPv6 address: up to four hexadecimal digits. -/
def isGroup (t : Text) : Bool :=
  t ≠ [] && t.length ≤ 4 && t.all Text.isHexDigit

/-- The groups in a part of an IPv6 address. -/
def groups (t : Text) : List Text :=
  if t = [] then [] else Text.pieces ':' t

/-- The number of groups that the end of an IPv6 address stands for. An IPv4 address may take the
place of the last two. -/
def groupCount? : List Text → Option Nat
  | [] => some 0
  | [t] => if isGroup t then some 1 else if isIpv4 t then some 2 else none
  | t :: rest => if isGroup t then (groupCount? rest).map (· + 1) else none

/-- Whether a text is an IPv6 address without zone: eight groups, or fewer with two colons in place
of the others. -/
def isIpv6 (t : Text) : Bool :=
  match Text.indexOf? "::" t with
  | none => groupCount? (groups t) = some 8
  | some i =>
    let front := groups (t.take i)
    let back := groupCount? (groups (t.drop (i + 2)))
    front.all isGroup && (back.map fun n => decide (front.length + n ≤ 7)).getD false

/-- Whether a text is an IPv6 address. A zone may follow it behind a percent sign. -/
def isZonedIpv6 (t : Text) : Bool :=
  match Text.cut '%' t with
  | (address, none) => isIpv6 address
  | (address, some zone) => zone ≠ [] && !zone.contains '%' && isIpv6 address

/-- Whether a text is an address of a version yet to come: the letter `v`, the version in
hexadecimal digits, a point, and something behind it. -/
def isVersioned (t : Text) : Bool :=
  let rest := (t.drop 1).dropWhile Text.isHexDigit
  t.head? == some 'v' && rest.length < t.length - 1 && rest.head? == some '.' && 2 ≤ rest.length

/-! ## The check -/

/-- Checks a host between brackets. -/
def checkHost (host : Text) : Except AuthorityError Unit :=
  if host.head? == some 'v' then
    if isVersioned host then .ok () else .error .versionedAddress
  else if isIpv4 host then .error .needlessBrackets
  else if isZonedIpv6 host then .ok ()
  else .error (.notAddress host)

/-- The part of an authority behind the last at sign, which names the host and the port. -/
def hostAndPort (authority : Text) : Text :=
  (authority.reverse.takeWhile (· ≠ '@')).reverse

/-- Checks an authority with brackets: they may stand around the host alone. -/
def checkBrackets (authority : Text) : Except AuthorityError Unit :=
  match Text.cut '[' (hostAndPort authority) with
  | (front, some rest) =>
    let (host, port) := Text.cut ']' rest
    let port := port.getD []
    if front ≠ [] || (port ≠ [] && port.head? != some ':') then .error .brackets
    else checkHost host
  | (hostPort, none) => checkHost (Text.cut ':' hostPort).1

/-- The characters outside ASCII whose compatibility form holds a slash, a question mark, a number
sign, an at sign or a colon. -/
def delimiterForms : List Nat := [
  0x2047, 0x2048, 0x2049, 0x2100, 0x2101, 0x2105, 0x2106, 0x2A74, 0xFE13, 0xFE16, 0xFE55, 0xFE56,
  0xFE5F, 0xFE6B, 0xFF03, 0xFF0F, 0xFF1A, 0xFF1F, 0xFF20]

/-- Checks an authority. -/
def check (authority : Text) : Except AuthorityError Unit := do
  let opens := authority.contains '['
  let closes := authority.contains ']'
  if opens != closes then throw .brackets
  if opens then checkBrackets authority
  if authority.any fun c => delimiterForms.contains c.toNat then throw (.delimiter authority)

/-! ## URLs -/

/-- Whether a character may stand in a scheme. -/
def isSchemeChar (c : Char) : Bool :=
  c.isAlphanum || c = '+' || c = '-' || c = '.'

/-- What follows the scheme of a URL, if there is one. -/
def withoutScheme (url : Text) : Text :=
  match url, Text.cut ':' url with
  | c :: _, (scheme, some rest) => if c.isAlpha && scheme.all isSchemeChar then rest else url
  | _, _ => url

/-- The authority of a URL: what stands between two slashes and the next slash, question mark or
number sign. Control characters and spaces in front of the URL count for nothing, and nor do
tabulators and line breaks anywhere in it. -/
def ofUrl (url : Text) : Text :=
  let url := (url.dropWhile (·.toNat ≤ 0x20)).filter fun c => c ≠ '\t' && c ≠ '\r' && c ≠ '\n'
  match withoutScheme url with
  | '/' :: '/' :: rest => rest.takeWhile fun c => c ≠ '/' && c ≠ '?' && c ≠ '#'
  | _ => []

example : isZonedIpv6 "::ffff:192.0.2.1%eth0".toList && !isZonedIpv6 ":1::2".toList := by decide

example : ofUrl "http://u@[::1]:80/p".toList = "u@[::1]:80".toList := by decide

end Authority

end HttpTemplates
