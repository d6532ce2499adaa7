import ApiBindings.Text.Letter
import ApiBindings.Text.Punycode

/-!
# Web addresses

Whether a source is a web address is decided by its scheme. An address is requested in a normal
form: scheme and host in lower case, no default port, no dots among the segments of the path,
and characters that may not stand in an address written as escaped bytes.
-/
namespace ApiBindings

structure Url where
  scheme : String
  user : String
  host : String
  port : Option Nat
  path : String
  query : Option String
  fragment : Option String
  deriving Repr, DecidableEq

namespace Url

def isSchemeChar (c : Char) : Bool := c.isAlphanum || c == '+' || c == '-' || c == '.'

/-- The scheme before a colon, and what follows it. -/
def splitScheme? (text : List Char) : Option (List Char × List Char) :=
  let scheme := text.takeWhile isSchemeChar
  match text.drop scheme.length with
  | ':' :: rest => if scheme.head?.any Char.isAlpha then some (scheme, rest) else none
  | _ => none

def isNetworkEnd (c : Char) : Bool := c == '/' || c == '?' || c == '#'

/-- What stands between two slashes and the path, and what follows it. -/
def splitNetwork? : List Char → Option (List Char × List Char)
  | '/' :: '/' :: rest => some (rest.span fun c => !isNetworkEnd c)
  | _ => none

/-! ## Hosts in brackets -/

def isHex (c : Char) : Bool := c.isDigit || ('a' ≤ c && c ≤ 'f') || ('A' ≤ c && c ≤ 'F')

/-- Up to four hexadecimal digits. -/
def isGroup (text : List Char) : Bool := !text.isEmpty && text.length ≤ 4 && text.all isHex

/-- A number up to 255 without a needless zero. -/
def isOctet (text : List Char) : Bool :=
  !text.isEmpty && text.length ≤ 3 && text.all Char.isDigit
    && (text.length == 1 || text.head? != some '0')
    && text.foldl (fun value c => 10 * value + (c.toNat - '0'.toNat)) 0 ≤ 255

def isAddress4 (text : List Char) : Bool :=
  let parts := Text.cut '.' text
  parts.length == 4 && parts.all isOctet

/-- The number of groups a part of an address has: a final one may be written with points. -/
def groupCount? (text : List Char) : Option Nat :=
  if text = [] then some 0
  else
    let parts := Text.cut ':' text
    let final := parts.getLastD []
    if parts.all isGroup then some parts.length
    else if parts.dropLast.all isGroup && isAddress4 final then some (parts.length + 1)
    else none

/-- The texts before and after the first double colon. -/
def splitGap? : List Char → Option (List Char × List Char)
  | ':' :: ':' :: rest => some ([], rest)
  | c :: rest => (splitGap? rest).map fun (before, after) => (c :: before, after)
  | [] => none

/-- An address of eight groups, of which some may be left out once; a zone may follow. -/
def isAddress6 (text : List Char) : Bool :=
  let address := text.takeWhile (· != '%')
  let zone := text.drop address.length
  (zone.isEmpty || (zone.length > 1 && !zone.tail.contains '%')) &&
    match splitGap? address with
    | none => groupCount? address == some 8
    | some (before, after) =>
      match groupCount? before, groupCount? after with
      | some one, some other => one + other ≤ 7 && !Text.occursIn "::".toList after
      | _, _ => false

/-- A future address: a version and something behind a point. -/
def isFutureAddress (text : List Char) : Bool :=
  match text with
  | 'v' :: rest =>
    let version := rest.takeWhile isHex
    !version.isEmpty && (rest.drop version.length).head? == some '.'
      && rest.length > version.length + 1
  | _ => false

/-- Whether the brackets of a network part, if it has any, hold an address. -/
def bracketsFit (network : List Char) : Bool :=
  if network.contains '[' then
    network.contains ']' &&
      let inside := ((network.dropWhile (· != '[')).drop 1).takeWhile (· != ']')
      if inside.head? = some 'v' then isFutureAddress inside else isAddress6 inside
  else !network.contains ']'

/-! ## Addresses -/

/-- Characters before the scheme that are passed over. -/
def isLeading (c : Char) : Bool := c.toNat ≤ 32

def isRemoved (c : Char) : Bool := c == '\t' || c == '\n' || c == '\r'

/-- Whether a source is an address of the web. -/
def isWeb (source : String) : Bool :=
  let text := (source.toList.dropWhile isLeading).filter fun c => !isRemoved c
  match splitScheme? text with
  | none => false
  | some (scheme, rest) =>
    let scheme := String.ofList (scheme.map Char.toLower)
    (scheme == "http" || scheme == "https") &&
      match splitNetwork? rest with
      | some (network, _) => bracketsFit network
      | none => true

def escapedByte (byte : UInt8) : List Char :=
  let digits := (Nat.toDigits 16 byte.toNat).map Char.toUpper
  '%' :: List.replicate (2 - digits.length) '0' ++ digits

/-- Writes characters outside of a class as escaped bytes; bytes that are escaped already stay. -/
def escape (isSafe : Char → Bool) : List Char → List Char
  | [] => []
  | '%' :: a :: b :: rest =>
    if isHex a && isHex b then '%' :: a :: b :: escape isSafe rest
    else (if isSafe '%' then ['%'] else escapedByte 37) ++ escape isSafe (a :: b :: rest)
  | c :: rest =>
    (if isSafe c then [c] else c.toString.toUTF8.toList.flatMap escapedByte) ++ escape isSafe rest

/-- Printable ASCII without some characters. -/
def printableBut (others : String) (c : Char) : Bool :=
  33 ≤ c.toNat && c.toNat < 127 && !others.toList.contains c

def isFragmentChar : Char → Bool := printableBut "\"<>\x60"
def isQueryChar : Char → Bool := printableBut "\"#<>"
def isPathChar : Char → Bool := printableBut "\"#<>?\x60\x7b\x7d"
def isUserChar : Char → Bool := printableBut "\"#<>?\x60\x7b\x7d/;=@[\\]^|"
def isHostChar (c : Char) : Bool :=
  c.isAlphanum || "-._~!$&'()*+,;=\"\x60\x7b\x7d%|\\".toList.contains c

/-- Path segments without those that are a dot; two dots take the segment before away. -/
def withoutDots (segments : List (List Char)) : List (List Char) :=
  segments.foldl (fun done segment =>
    if segment = ['.'] then done
    else if segment = ['.', '.'] then
      if done = [] ∨ done = [[]] then done else done.dropLast
    else done ++ [segment]) []

def normalPath (path : List Char) : List Char :=
  Text.join ['/'] (withoutDots (Text.cut '/' path))

/-- The port that is left out; the scheme is taken as it is written. -/
def defaultPort? (scheme : String) : Option Nat :=
  if scheme = "http" then some 80 else if scheme = "https" then some 443 else none

/-- A port that is given and not the default one; anything but a number is no port. -/
def port? (scheme : String) (text : List Char) : Option (Option Nat) :=
  if text = [] then some none
  else if text.all Char.isDigit then
    let port := text.foldl (fun value c => 10 * value + (c.toNat - '0'.toNat)) 0
    some (if some port = defaultPort? scheme then none else some port)
  else none

/-- Whether a host consists of runs of digits with one character between each two; `runs` is the
number of runs that follow, and `started` says whether the present one has a digit. -/
def isNumeric : Nat → Bool → List Char → Bool
  | runs, started, [] => started && runs == 0
  | runs, started, c :: rest =>
    (c.isDigit && isNumeric runs true rest)
      || (started && runs > 0 && isNumeric (runs - 1) false rest)

/-- Characters that separate the labels of a host. -/
def isLabelEnd (c : Char) : Bool := c == '.' || c == '\u3002' || c == '\uff0e' || c == '\uff61'

/-- The labels of a host; an empty one may stand at the end only. -/
def labels? (host : List Char) : Option (List (List Char)) :=
  let labels := Text.cut '.' (host.map fun c => if isLabelEnd c then '.' else c)
  if labels.dropLast.any List.isEmpty then none else some labels

/-- A label in ASCII. -/
def asciiLabel (label : List Char) : List Char :=
  if label.all Text.isAscii then label else "xn--".toList ++ Text.Punycode.encode label

/-- The host in its normal form; an address has to be one. -/
def normalHost? (host : List Char) : Option (List Char) :=
  if isNumeric 3 false host then if isAddress4 host then some host else none
  else match host with
    | '[' :: rest =>
      if rest.getLast? = some ']' && isAddress6 rest.dropLast then some host else none
    | _ =>
      if host.all Text.isAscii then some (escape isHostChar (Text.lower host))
      else (labels? (Text.lower host)).map fun labels => Text.join ['.'] (labels.map asciiLabel)

/-- Host and port: a colon inside brackets belongs to the host. -/
def splitPort (text : List Char) : List Char × List Char :=
  let host := match text with
    | '[' :: _ => text.take (text.length - (text.reverse.takeWhile (· != ']')).length)
    | _ => text.takeWhile (· != ':')
  match text.drop host.length with
  | ':' :: port => (host, port)
  | port => (host, port)

/-- User and host with port; the last at sign stands between them. -/
def splitUser (network : List Char) : List Char × List Char :=
  match Text.lastIndexOf? ['@'] network with
  | some index => (network.take index, network.drop (index + 1))
  | none => ([], network)

def splitAt (mark : Char) (text : List Char) : List Char × Option (List Char) :=
  let before := text.takeWhile (· != mark)
  (before, if text.contains mark then some (text.drop (before.length + 1)) else none)

/-- Scheme, network part and the rest; a missing part is empty. -/
def splitStart (text : List Char) : List Char × List Char × List Char :=
  let (scheme, rest) := (splitScheme? text).getD ([], text)
  let (network, rest) := (splitNetwork? rest).getD ([], rest)
  (scheme, network, rest)

/-- The normal form of an address, if it is one. -/
def read? (text : String) : Option Url := do
  if text.toList.any (fun c => c.toNat < 32 || c.toNat = 127) then none
  else
    let (scheme, network, rest) := splitStart text.toList
    let (rest, fragment) := splitAt '#' rest
    let (path, query) := splitAt '?' rest
    let (user, place) := splitUser network
    let (host, port) := splitPort place
    let path := if scheme.isEmpty && network.isEmpty then path else normalPath path
    return {
      scheme := String.ofList (scheme.map Char.toLower)
      user := String.ofList (escape isUserChar user)
      host := String.ofList (← normalHost? host)
      port := ← port? (String.ofList scheme) port
      path := String.ofList (escape isPathChar path)
      query := query.map fun query => String.ofList (escape isQueryChar query)
      fragment := fragment.map fun fragment => String.ofList (escape isFragmentChar fragment) }

/-- An address without a host leads nowhere. -/
def hasHost (url : Url) : Bool := url.host != ""

def marked (mark : String) (part : Option String) : String := (part.map (mark ++ ·)).getD ""

/-- Of an address without a host, only path and query are left. -/
def display (url : Url) : String :=
  if url.hasHost then
    url.scheme ++ "://" ++ (if url.user = "" then "" else url.user ++ "@") ++ url.host
      ++ marked ":" (url.port.map toString) ++ url.path ++ marked "?" url.query
      ++ marked "#" url.fragment
  else
    "/" ++ String.ofList (url.path.toList.dropWhile (· == '/')) ++ marked "?" url.query

end Url

end ApiBindings
