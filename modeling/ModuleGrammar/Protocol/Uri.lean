/-
# Identifiers of documents

A document is named by a URI, of which the scheme, the authority and the path
count here. Controls and blanks in front of a URI and line breaks and tabs in it
do not belong to it. The file of a URI is found as the library that speaks the
protocol does.
-/
import ModuleGrammar.Text.Percent
import ModuleGrammar.File.Path
import ModuleGrammar.Protocol.Host

namespace ModuleGrammar.Protocol

/-- The parts of a URI that lead to a file. The scheme is empty if there is
none. -/
structure Uri where
  scheme : Text
  authority : Text
  path : Text
  deriving DecidableEq, Repr

namespace Uri

/-- The characters of a scheme. -/
def isSchemeChar (c : Char) : Bool :=
  c.isAlphanum || c == '+' || c == '-' || c == '.'

/-- Drop the characters that do not belong to a URI. -/
def strip (text : Text) : Text :=
  (text.dropWhile (·.toNat ≤ 0x20)).filter fun c => c != '\t' && c != '\n' && c != '\r'

/-- Divide a URI into its scheme and the rest. -/
def divideScheme (text : Text) : Text × Text :=
  match text.divide? ':' with
  | none => ([], text)
  | some (scheme, rest) =>
    if scheme.head?.any Char.isAlpha && scheme.all isSchemeChar then
      (scheme.map Char.toLower, rest)
    else ([], text)

/-- Divide the rest behind the scheme into authority and path. -/
def divideAuthority : Text → Text × Text
  | '/' :: '/' :: rest =>
    let ends := fun c => c == '/' || c == '?' || c == '#'
    (rest.takeWhile (!ends ·), rest.dropWhile (!ends ·))
  | text => ([], text)

/-- The schemes whose paths may end with parameters. -/
def schemesWithParameters : List Text :=
  [[], "ftp".toList, "hdl".toList, "prospero".toList, "http".toList, "imap".toList,
    "https".toList, "shttp".toList, "rtsp".toList, "rtspu".toList, "sip".toList,
    "sips".toList, "mms".toList, "sftp".toList, "tel".toList]

/-- Drop the parameters of a path, which follow a semicolon behind its last
slash. -/
def dropParameters (path : Text) : Text :=
  let last := (path.reverse.takeWhile (· != '/')).reverse
  path.take (path.length - last.length) ++ last.takeWhile (· != ';')

/-- Read a URI. -/
def ofText (text : Text) : Except HostFault Uri :=
  let (scheme, rest) := divideScheme (strip text)
  let (authority, rest) := divideAuthority rest
  let path := rest.takeWhile fun c => c != '?' && c != '#'
  match Host.checkAuthority authority with
  | .error fault => .error fault
  | .ok () =>
    let path := if schemesWithParameters.contains scheme then dropParameters path else path
    .ok ⟨scheme, authority, path⟩

/-- A drive letter stands in lower case and without a slash. -/
def withoutDriveSlash : Text → Text
  | '/' :: drive :: ':' :: rest =>
    if drive.isAlpha then drive.toLower :: ':' :: rest else '/' :: drive :: ':' :: rest
  | path => path

/-- The path of the file that a URI leads to. A file on another machine has the
authority in front of it. -/
def filePath (uri : Uri) : Path :=
  let authority := Percent.decode uri.authority
  let path := Percent.decode uri.path
  if uri.scheme = "file".toList then
    if authority.isEmpty || path.isEmpty then Path.ofText (withoutDriveSlash path)
    else Path.ofText ('/' :: '/' :: authority ++ path)
  else Path.ofText path

end Uri

end ModuleGrammar.Protocol
