/-
BrowserScript.Address — the parts of a web address.

* `Address.parse` splits off the scheme and the authority and refuses authorities with broken brackets
  or with characters that other programs read as separators.
* `Address.host?` is the host: the authority without user information and port.
* `domainOf` is the host in lower case without one leading `www.`.
-/
import BrowserScript.Failure
import BrowserScript.Text.LowerCase
import BrowserScript.Number.Reading

namespace BrowserScript

/-- The scheme and the authority of an address; both may be empty. -/
structure Address where
  scheme : String
  authority : String
  deriving Repr, DecidableEq

namespace Address

/-! ## Numeric hosts -/

/-- A part of a dotted address: a number up to 255 without leading zeros. -/
def isOctet (cs : List Char) : Bool :=
  !cs.isEmpty && cs.all Char.isDigit && cs.length ≤ 3 && (cs == ['0'] || cs.head? != some '0') &&
    Number.asciiNat cs ≤ 255

/-- Four numbers with dots between them. -/
def isDotted (cs : List Char) : Bool :=
  let parts := Text.splitOn '.' cs
  parts.length == 4 && parts.all isOctet

/-- One to four hexadecimal digits. -/
def isHextet (cs : List Char) : Bool :=
  !cs.isEmpty && cs.length ≤ 4 && cs.all (fun c => (Text.hexValue c).isSome)

/-- The places of empty parts other than the first and the last. -/
def innerGaps (parts : List (List Char)) : List Nat :=
  (parts.zipIdx.filter (fun x => x.1.isEmpty && 0 < x.2 && x.2 + 1 < parts.length)).map (·.2)

/-- Eight groups of hexadecimal digits between colons; one run of groups may be left out, and the last
two may be written as a dotted address. -/
def isColoned (cs : List Char) : Bool :=
  let parts := Text.splitOn ':' cs
  if parts.length < 3 then false
  else
    let last := parts.getLast?.getD []
    let dotted := last.contains '.'
    if dotted && !isDotted last then false
    else
      let parts := if dotted then parts.dropLast ++ [['0'], ['0']] else parts
      if 9 < parts.length then false
      else match innerGaps parts with
        | [] => parts.length == 8 && parts.all isHextet
        | [i] =>
          let high := parts.take i
          let low := parts.drop (i + 1)
          let highOk := high == [[]] || high.all isHextet
          let lowOk := low == [[]] || low.all isHextet
          let count (side : List (List Char)) : Nat := if side == [[]] then 0 else side.length
          highOk && lowOk && count high + count low < 8
        | _ => false

/-- A coloned address with a zone or without. -/
def isColonedWithZone (cs : List Char) : Bool :=
  match Text.splitAt? '%' cs with
  | none => isColoned cs
  | some (host, zone) => isColoned host && !zone.isEmpty && !zone.contains '%'

/-- The form that is kept for later kinds of addresses: a version, a dot and more. -/
def isVersioned (cs : List Char) : Bool :=
  match cs with
  | 'v' :: rest =>
    match Text.splitAt? '.' rest with
    | some (version, more) =>
      !version.isEmpty && version.all (fun c => (Text.hexValue c).isSome) && !more.isEmpty &&
        !more.contains '\n'
    | none => false
  | _ => false

/-- Refuses what stands between brackets unless it is an address. -/
def checkBracketed (cs : List Char) : Except Fault Unit :=
  if cs.head? == some 'v' then
    if isVersioned cs then .ok () else .error (.badUrl "IPvFuture address is invalid")
  else if isDotted cs then .error (.badUrl "An IPv4 address cannot be in brackets")
  else if isColonedWithZone cs then .ok ()
  else
    .error (.badUrl
      (Text.quoted (String.ofList cs) ++ " does not appear to be an IPv4 or IPv6 address"))

/-! ## Parts -/

/-- Characters outside ASCII that other programs may read as separators of an address. -/
def hiddenSeparators : List Char :=
  ['\u2047', '\u2048', '\u2049', '\u2100', '\u2101', '\u2105', '\u2106', '\u2a74', '\ufe13', '\ufe16',
    '\ufe55', '\ufe56', '\ufe5f', '\ufe6b', '\uff03', '\uff0f', '\uff1a', '\uff1f', '\uff20']

/-- A character of a scheme. -/
def isSchemeChar (c : Char) : Bool := c.isAlphanum || c == '+' || c == '-' || c == '.'

/-- The scheme of an address, in lower case, and what follows its colon. -/
def splitScheme (cs : List Char) : String × List Char :=
  match Text.splitAt? ':' cs with
  | some (c :: scheme, rest) =>
    if c.isAlpha && scheme.all isSchemeChar then
      (String.ofList ((c :: scheme).map Char.toLower), rest)
    else ("", cs)
  | _ => ("", cs)

/-- The authority after two slashes. -/
def takeAuthority (cs : List Char) : List Char :=
  match cs with
  | '/' :: '/' :: rest => rest.takeWhile (fun c => !(c == '/' || c == '?' || c == '#'))
  | _ => []

/-- A text after the last occurrence of a character, or all of it. -/
def afterLast (mark : Char) (cs : List Char) : List Char :=
  (cs.reverse.takeWhile (· != mark)).reverse

/-- The host in an authority: what follows the user information, without brackets and port. -/
def hostChars (authority : List Char) : List Char :=
  let host := afterLast '@' authority
  match Text.splitAt? '[' host with
  | some (_, rest) => rest.takeWhile (· != ']')
  | none => host.takeWhile (· != ':')

/-- Whether nothing stands before the brackets of a host, and nothing but a port behind them. -/
def bracketsAlone (authority : List Char) : Bool :=
  match Text.splitAt? '[' (afterLast '@' authority) with
  | some (before, rest) =>
    let behind := (rest.dropWhile (· != ']')).drop 1
    before.isEmpty && (behind.isEmpty || behind.head? == some ':')
  | none => true

/-- Refuses an authority with brackets unless its host is an address that belongs between brackets;
one bracket without the other is refused too. -/
def checkBrackets (authority : List Char) : Except Fault Unit :=
  let opens := authority.contains '['
  if opens != authority.contains ']' || !bracketsAlone authority then
    .error (.badUrl "Invalid IPv6 URL")
  else if opens then checkBracketed (hostChars authority)
  else .ok ()

/-- The parts of an address. Controls and blanks before it and tabs and line ends in it do not
count. -/
def parse (url : String) : Except Fault Address :=
  let cs := (url.toList.dropWhile (fun c => c.toNat ≤ 0x20)).filter
    (fun c => !(c == '\t' || c == '\r' || c == '\n'))
  let (scheme, rest) := splitScheme cs
  let authority := takeAuthority rest
  match checkBrackets authority with
  | .error e => .error e
  | .ok () =>
    if authority.any hiddenSeparators.contains then
      .error (.badUrl ("netloc '" ++ String.ofList authority ++
        "' contains invalid characters under NFKC normalization"))
    else .ok ⟨scheme, String.ofList authority⟩

/-- The host of an address, in lower case up to a zone. -/
def host? (a : Address) : Option String :=
  let cs := hostChars a.authority.toList
  if cs.isEmpty then none
  else match Text.splitAt? '%' cs with
    | none => some (String.ofList (Text.lowerChars cs))
    | some (name, zone) => some (String.ofList (Text.lowerChars name ++ '%' :: zone))

end Address

/-- A host without one leading `www.`. -/
def dropWww (host : String) : String :=
  if Text.startsWith host "www." then Text.dropFirst host 4 else host

/-- The host of an address in lower case without one leading `www.`; an address without scheme begins
with its host. -/
def domainOf (url : String) : Except Fault String :=
  if Text.contains url "://" then
    (Address.parse url).map (fun a => dropWww (Text.lower (a.host?.getD "")))
  else
    let host := (url.toList.takeWhile (· != '/')).takeWhile (· != ':')
    .ok (dropWww (Text.lower (String.ofList host)))

end BrowserScript
