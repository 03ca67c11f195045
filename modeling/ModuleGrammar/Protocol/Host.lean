/-
# Hosts in brackets

The authority of a URI names a host, possibly behind a user and in front of a
port. A host in square brackets has to be a network address: of version six, or
of a later version, which starts with the letter `v`.
-/
import ModuleGrammar.Text.Hexadecimal
import ModuleGrammar.Text.Quoted

namespace ModuleGrammar.Protocol

namespace Address

/-- A decimal number up to 255 without leading zeros. -/
def isOctet (text : Text) : Bool :=
  !text.isEmpty && text.length ≤ 3 && text.all Char.isDigit &&
    (text == ['0'] || text.head? != some '0') &&
    text.foldl (fun total c => 10 * total + (hexDigit? c).getD 0) 0 ≤ 255

/-- An address of version four: four octets with points between them. -/
def isVersionFour (text : Text) : Bool :=
  let octets := text.cut '.'
  octets.length = 4 && octets.all isOctet

/-- A group of an address of version six: up to four hexadecimal digits. -/
def isGroup (text : Text) : Bool :=
  !text.isEmpty && text.length ≤ 4 && text.all fun c => (hexDigit? c).isSome

/-- The groups of an address in which the last two may be written as an address
of version four. -/
def groups? (text : Text) : Option (List Text) :=
  let parts := text.cut ':'
  match parts.getLast? with
  | none => none
  | some last =>
    if parts.length < 3 then none
    else if last.contains '.' then
      if isVersionFour last then some (parts.dropLast ++ [['0'], ['0']]) else none
    else some parts

/-- The groups on one side of a gap. A gap at the end of an address leaves one
empty part there. -/
def besideGap (parts : List Text) : List Text :=
  if parts = [[]] then [] else parts

/-- Eight groups, of which a gap between two colons may stand for one or more. -/
def areGroups (parts : List Text) : Bool :=
  match parts.tail.dropLast.findIdx? List.isEmpty with
  | none => parts.length = 8 && parts.all isGroup
  | some index =>
    let before := besideGap (parts.take (index + 1))
    let after := besideGap (parts.drop (index + 2))
    before.length + after.length ≤ 7 && before.all isGroup && after.all isGroup

/-- An address of version six, possibly with a zone behind a percent sign. -/
def isVersionSix (text : Text) : Bool :=
  match text.divide? '%' with
  | none => (groups? text).any areGroups
  | some (address, zone) =>
    !zone.isEmpty && !zone.contains '%' && (groups? address).any areGroups

/-- An address of a later version, behind its first letter: the version in
hexadecimal digits, a point, and anything. -/
def isLaterVersion (text : Text) : Bool :=
  let isHex := fun c => (hexDigit? c).isSome
  match text.takeWhile isHex, text.dropWhile isHex with
  | _ :: _, '.' :: _ :: _ => true
  | _, _ => false

end Address

/-- Why an authority is refused. -/
inductive HostFault
  /-- The brackets do not enclose the host. -/
  | brackets
  /-- The host in brackets is no address. -/
  | notAddress (host : Text)
  /-- The host in brackets is an address of version four. -/
  | versionFour
  /-- The host in brackets is no address of a later version. -/
  | laterVersion
  /-- A character of the authority looks like one that ends or divides it. -/
  | lookalike (authority : Text)
  deriving DecidableEq, Repr

/-- The words for a fault. -/
def HostFault.message : HostFault → Text
  | .brackets => "Invalid IPv6 URL".toList
  | .notAddress host =>
    host.quote ++ " does not appear to be an IPv4 or IPv6 address".toList
  | .versionFour => "An IPv4 address cannot be in brackets".toList
  | .laterVersion => "IPvFuture address is invalid".toList
  | .lookalike authority =>
    "netloc '".toList ++ authority ++
      "' contains invalid characters under NFKC normalization".toList

namespace Host

/-- Check a host in brackets. -/
def check : Text → Except HostFault Unit
  | 'v' :: rest => if Address.isLaterVersion rest then .ok () else .error .laterVersion
  | host =>
    if Address.isVersionFour host then .error .versionFour
    else if Address.isVersionSix host then .ok ()
    else .error (.notAddress host)

/-- The host in an authority with brackets, which stands behind the user. In front
of the brackets there may be nothing else, and behind them only a port. -/
def inBrackets (authority : Text) : Except HostFault Text :=
  let place : Text := (authority.reverse.takeWhile (· != '@')).reverse
  match place.divide? '[' with
  | none => .ok (place.takeWhile (· != ':'))
  | some (_ :: _, _) => .error .brackets
  | some ([], bracketed) =>
    match bracketed.divide? ']' with
    | none => .ok bracketed
    | some (host, []) => .ok host
    | some (host, c :: _) => if c = ':' then .ok host else .error .brackets

/-- The characters that compatibility normalization turns into a text with one of
the characters `/`, `?`, `#`, `@` and `:`. -/
def lookalikes : List Nat :=
  [0x2047, 0x2048, 0x2049, 0x2100, 0x2101, 0x2105, 0x2106, 0x2A74, 0xFE13, 0xFE16,
   0xFE55, 0xFE56, 0xFE5F, 0xFE6B, 0xFF03, 0xFF0F, 0xFF1A, 0xFF1F, 0xFF20]

/-- Check that no character of an authority looks like one that ends or divides
it. -/
def checkLookalikes (authority : Text) : Except HostFault Unit :=
  if authority.any fun c => lookalikes.contains c.toNat then .error (.lookalike authority)
  else .ok ()

/-- Check an authority. -/
def checkAuthority (authority : Text) : Except HostFault Unit :=
  if authority.contains '[' != authority.contains ']' then .error .brackets
  else if authority.contains '[' then
    match (inBrackets authority).bind check with
    | .error fault => .error fault
    | .ok () => checkLookalikes authority
  else checkLookalikes authority

end Host

end ModuleGrammar.Protocol
