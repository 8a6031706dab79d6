import OpenLangGraph.Foundation.IpAddress

/-!
# URLs

`urllib.parse.urlparse` as far as the authority part of a URL is concerned: the scheme, the
network location and the `hostname` and `port` accessors. The path, query and fragment are split
off and dropped.

Both the splitting and the `port` accessor can raise `ValueError`; they return `Except String`,
with the message of the exception. The `hostname` accessor cannot.

## Main definitions

* `Url.urlparse`, `Url.Parsed`
* `Url.Parsed.hostname`, `Url.Parsed.port` — the accessors
-/

open PyString

namespace Url

/-- What is kept of `urllib.parse.ParseResult`. -/
structure Parsed where
  scheme : Str
  netloc : Str
deriving DecidableEq

/-- `_WHATWG_C0_CONTROL_OR_SPACE` -/
def isC0ControlOrSpace (c : Char) : Bool := c.toNat ≤ 0x20

/-- `_UNSAFE_URL_BYTES_TO_REMOVE` -/
def isUnsafeUrlByte (c : Char) : Bool := c = '\t' || c = '\r' || c = '\n'

/-- `scheme_chars` -/
def isSchemeChar (c : Char) : Bool := c.isAlphanum || c = '+' || c = '-' || c = '.'

/-- The scheme and what follows its colon, if the text before the first colon is a scheme. -/
def splitScheme (url : Str) : Str × Str :=
  match partition ':' url with
  | (before, true, after) =>
    if (before.head?.any Char.isAlpha) && before.all isSchemeChar then
      (before.map Char.toLower, after)
    else ([], url)
  | (_, false, _) => ([], url)

/-- `_splitnetloc`: up to the first delimiter of the path, the query or the fragment. -/
def splitNetloc (url : Str) : Str := url.takeWhile fun c => c ≠ '/' && c ≠ '?' && c ≠ '#'

def invalidIPv6 : String := "Invalid IPv6 URL"

/-- `_check_bracketed_host` -/
def checkBracketedHost (hostname : Str) : Except String Unit :=
  if hostname.head? = some 'v' then
    match partition '.' (hostname.drop 1) with
    | (version, true, address) =>
      if version ≠ [] ∧ version.all (fun c => (IpAddress.hexDigit c).isSome) ∧ address ≠ [] then
        .ok ()
      else .error "IPvFuture address is invalid"
    | (_, false, _) => .error "IPvFuture address is invalid"
  else
    match IpAddress.ofString hostname with
    | some (.v6 _ _) => .ok ()
    | some (.v4 _) => .error "An IPv4 address cannot be in brackets"
    | none =>
      .error ("'" ++ String.ofList hostname ++ "' does not appear to be an IPv4 or IPv6 address")

/-- `_check_bracketed_netloc` -/
def checkBracketedNetloc (netloc : Str) : Except String Unit :=
  let hostnameAndPort := (rpartition '@' netloc).2.2
  match partition '[' hostnameAndPort with
  | (beforeBracket, true, bracketed) =>
    if beforeBracket ≠ [] then .error invalidIPv6
    else
      let (hostname, _, port) := partition ']' bracketed
      if port ≠ [] ∧ port.head? ≠ some ':' then .error invalidIPv6
      else checkBracketedHost hostname
  | (_, false, _) => checkBracketedHost (partition ':' hostnameAndPort).1

/-- `_checknetloc`: no delimiter may appear only under NFKC normalisation. -/
def checkNetloc (U : UnicodeDb) (netloc : Str) : Except String Unit :=
  if netloc.all fun c => decide (c.toNat < 128) then .ok ()
  else
    let n := netloc.filter fun c => c ≠ '@' && c ≠ ':' && c ≠ '#' && c ≠ '?'
    let normalized := U.nfkc n
    if n = normalized then .ok ()
    else if normalized.any fun c => c = '/' || c = '?' || c = '#' || c = '@' || c = ':' then
      .error ("netloc '" ++ String.ofList netloc ++
        "' contains invalid characters under NFKC normalization")
    else .ok ()

/-- `urllib.parse.urlparse(url)` -/
def urlparse (U : UnicodeDb) (url : Str) : Except String Parsed :=
  let url := (lstrip isC0ControlOrSpace url).filter fun c => !isUnsafeUrlByte c
  let (scheme, rest) := splitScheme url
  let netloc := if rest.take 2 = ['/', '/'] then splitNetloc (rest.drop 2) else []
  do
    if netloc.contains '[' != netloc.contains ']' then throw invalidIPv6
    if netloc.contains '[' && netloc.contains ']' then checkBracketedNetloc netloc
    checkNetloc U netloc
    return { scheme, netloc }

/-- `_hostinfo`: the host and, if there is one, the text of the port. -/
def Parsed.hostinfo (p : Parsed) : Str × Option Str :=
  let hostinfo := (rpartition '@' p.netloc).2.2
  let (hostname, port) :=
    match partition '[' hostinfo with
    | (_, true, bracketed) =>
      let (hostname, _, port) := partition ']' bracketed
      (hostname, (partition ':' port).2.2)
    | (_, false, _) => ((partition ':' hostinfo).1, (partition ':' hostinfo).2.2)
  (hostname, if port = [] then none else some port)

/-- `parsed.hostname`: lower-cased, except for the zone of a scoped IPv6 address. -/
def Parsed.hostname (U : UnicodeDb) (p : Parsed) : Option Str :=
  let hostname := p.hostinfo.1
  if hostname = [] then none
  else
    let (host, percent, zone) := partition '%' hostname
    some (U.lower host ++ (if percent then ['%'] else []) ++ zone)

/-- `parsed.port` -/
def Parsed.port (p : Parsed) : Except String (Option ℕ) :=
  match p.hostinfo.2 with
  | none => .ok none
  | some port =>
    if port.all Char.isDigit then
      if Nat.ofDigitChars 10 port 0 ≤ 65535 then .ok (some (Nat.ofDigitChars 10 port 0))
      else .error "Port out of range 0-65535"
    else .error ("Port could not be cast to integer value as '" ++ String.ofList port ++ "'")

example : (urlparse .ascii "https://user@[::1]:8443/a?b".toList).toOption.map
    (fun p => (p.scheme, p.hostname .ascii, p.port.toOption)) =
    some ("https".toList, some "::1".toList, some (some 8443)) := by decide

end Url
