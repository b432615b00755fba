import DocumentIngest.Text.Cutting

/-!
# Web addresses

An address is read into its parts, with the host in lower case, the port left
out where it is the usual one of the scheme, and the dots of the path resolved.
What an address cannot hold as it stands is written as percent signs with two
digits, byte by byte.
-/

namespace DocumentIngest

/-- The part of an address behind its host. -/
inductive UrlPath where
  /-- Text that is not divided, as in a mail address. -/
  | undivided (text : String)
  /-- The texts behind the slashes. -/
  | segments (texts : List String)
deriving DecidableEq, Repr, Inhabited

/-- A web address. -/
structure Url where
  scheme : String
  /-- The user and the password, with their separators. -/
  credentials : String := ""
  host : Option String := none
  /-- The port, if it is not the usual one. -/
  port : Option Nat := none
  path : UrlPath := .segments []
  query : Option String := none
  fragment : Option String := none
deriving DecidableEq, Repr, Inhabited

/-- Why a text is not a web address. -/
inductive UrlFault where
  | noScheme
  | emptyHost
  | badHost
  | badAddress
  | badPort
deriving DecidableEq, Repr

namespace UrlFault

def message : UrlFault → String
  | noScheme => "relative URL without a base"
  | emptyHost => "empty host"
  | badHost => "invalid international domain name"
  | badAddress => "invalid IPv4 address"
  | badPort => "invalid port number"

end UrlFault

namespace Url

/-- A digit of a byte written behind a percent sign. -/
def upperHexDigit (value : Nat) : Char :=
  if value < 10 then Char.ofNat ('0'.toNat + value) else Char.ofNat ('A'.toNat + value - 10)

/-- A byte as a percent sign and two digits. -/
def percentByte (byte : UInt8) : List Char :=
  ['%', upperHexDigit (byte.toNat / 16), upperHexDigit (byte.toNat % 16)]

/-- Writes the bytes of characters that cannot stand for themselves; `reserved`
names such characters beside controls and those beyond ASCII. -/
def percentEncode (reserved text : List Char) : List Char :=
  text.flatMap fun character =>
    if character.toNat < 32 || 126 < character.toNat || reserved.contains character then
      (String.singleton character).toUTF8.toList.flatMap percentByte
    else [character]

/-- What stands for itself nowhere in a path. -/
def reservedInPath : List Char :=
  [' ', '"', '#', '<', '>', '?', '\x60', '\x7b', '\x7d']

/-- What stands for itself nowhere in one segment of a path. -/
def reservedInSegment (isSpecial : Bool) : List Char :=
  ['/', '%'] ++ (if isSpecial then ['\\'] else []) ++ reservedInPath

/-- What stands for itself nowhere in a user or a password. -/
def reservedInCredentials : List Char :=
  ['/', ':', ';', '=', '@', '[', '\\', ']', '^', '|'] ++ reservedInPath

def reservedInQuery (isSpecial : Bool) : List Char :=
  [' ', '"', '#', '<', '>'] ++ (if isSpecial then ['\x27'] else [])

def reservedInFragment : List Char :=
  [' ', '"', '<', '>', '\x60']

/-- The usual ports of the schemes whose addresses always have a host. -/
def usualPorts : List (String × Nat) :=
  [("http", 80), ("https", 443), ("ws", 80), ("wss", 443), ("ftp", 21)]

/-- Whether the addresses of a scheme always have a host. -/
def isSpecial (scheme : String) : Bool :=
  (usualPorts.lookup scheme).isSome

/-- Whether a character does not count in an address at all. -/
def isDropped (character : Char) : Bool :=
  character == '\t' || character == '\n' || character == '\r'

/-- The characters of an address that count. -/
def significant (text : String) : List Char :=
  let isOuter (character : Char) : Bool := character.toNat ≤ 32
  let trimmed := ((text.toList.dropWhile isOuter).reverse.dropWhile isOuter).reverse
  trimmed.filter fun character => !isDropped character

/-- Whether a character may stand in a scheme behind its first letter. -/
def isSchemeChar (character : Char) : Bool :=
  character.isAlphanum || character == '+' || character == '-' || character == '.'

/-- The scheme, in lower case, and what stands behind its colon. -/
def cutScheme (text : List Char) : Option (String × List Char) :=
  match text with
  | [] => none
  | first :: _ =>
      if first.isAlpha then
        match text.dropWhile isSchemeChar with
        | ':' :: rest =>
            some (String.ofList ((text.takeWhile isSchemeChar).map Char.toLower), rest)
        | _ => none
      else none

/-- Cuts a text before the first of some characters. -/
def cutBefore (ends text : List Char) : List Char × List Char :=
  let goesOn (character : Char) : Bool := !ends.contains character
  (text.takeWhile goesOn, text.dropWhile goesOn)

/-- Cuts a text at the last at-sign, if it has one. -/
def cutCredentials (text : List Char) : Option (List Char) × List Char :=
  match Text.cutAt '@' text.reverse with
  | (_, none) => (none, text)
  | (host, some credentials) => (some credentials.reverse, host.reverse)

/-- A user and a password as an address writes them. -/
def renderCredentials (text : List Char) : String :=
  let (user, password) := Text.cutAt ':' text
  let user := percentEncode reservedInCredentials user
  let password := percentEncode reservedInCredentials (password.getD [])
  if user.isEmpty && password.isEmpty then ""
  else String.ofList (user ++ (if password.isEmpty then [] else ':' :: password) ++ ['@'])

/-- Cuts a host from its port; the colons inside brackets belong to the host. -/
def cutPort (text : List Char) : List Char × Option (List Char) :=
  match text with
  | '[' :: _ =>
      let (inside, rest) := cutBefore [']'] text
      match rest with
      | close :: ':' :: port => (inside ++ [close], some port)
      | rest => (inside ++ rest, none)
  | _ => Text.cutAt ':' text

/-- The number of decimal digits. -/
def digitsValue (digits : List Char) : Nat :=
  digits.foldl (fun value digit => value * 10 + (digit.toNat - '0'.toNat)) 0

/-- The port that a text names; the usual one of the scheme is none. -/
def readPort (scheme : String) (text : Option (List Char)) : Except UrlFault (Option Nat) :=
  match text with
  | none => .ok none
  | some [] => .ok none
  | some digits =>
      if digits.all Char.isDigit && decide (digitsValue digits < 2 ^ 16) then
        let port := digitsValue digits
        .ok (if usualPorts.lookup scheme = some port then none else some port)
      else .error .badPort

/-- The value of a hexadecimal digit. -/
def hexDigitValue? (character : Char) : Option Nat :=
  if character.isDigit then some (character.toNat - '0'.toNat)
  else if 'a' ≤ character ∧ character ≤ 'f' then some (character.toNat - 'a'.toNat + 10)
  else if 'A' ≤ character ∧ character ≤ 'F' then some (character.toNat - 'A'.toNat + 10)
  else none

/-- A part of a numeric host: a number in base eight behind a zero, in base 16
behind `0x`, else in base ten. -/
def hostNumber? (text : List Char) : Option Nat :=
  let inBase (base : Nat) (digits : List Char) : Option Nat :=
    digits.foldlM
      (fun value digit =>
        (hexDigitValue? digit).bind fun next =>
          if next < base then some (value * base + next) else none)
      0
  match text with
  | [] => none
  | '0' :: 'x' :: digits => inBase 16 digits
  | '0' :: digits => inBase 8 digits
  | digits => inBase 10 digits

/-- Whether the last label of a host makes the host a number. -/
def endsInNumber (labels : List (List Char)) : Bool :=
  match labels.getLast? with
  | none => false
  | some label =>
      (!label.isEmpty && label.all Char.isDigit) ||
        (['0', 'x'].isPrefixOf label && (hostNumber? label).isSome)

/-- The four bytes of a numeric host; the last part fills all bytes that are
left. -/
def hostBytes? (parts : List Nat) : Option (List Nat) :=
  match parts.reverse with
  | [] => none
  | last :: leading =>
      let left := 4 - leading.length
      if 3 < leading.length || leading.any (fun part => decide (255 < part)) ||
          decide (256 ^ left ≤ last) then none
      else
        some (leading.reverse ++
          (List.range left).map fun index => last / 256 ^ (left - 1 - index) % 256)

/-- Whether a character cannot stand in a host name. -/
def isForbiddenInHost (character : Char) : Bool :=
  character.toNat ≤ 32 || character.toNat = 127 ||
    ['%', '#', '/', ':', '<', '>', '?', '@', '[', '\\', ']', '^', '|'].contains character

/-- The host of an address whose scheme asks for one. -/
def readHost (text : List Char) : Except UrlFault String :=
  match text with
  | [] => .error .emptyHost
  | '[' :: _ => .ok (String.ofList (text.map Char.toLower))
  | _ =>
      let name := text.map Char.toLower
      if name.any isForbiddenInHost then .error .badHost
      else
        let labels := Text.splitOn '.' name
        let labels :=
          if labels.getLast? = some [] && decide (1 < labels.length) then labels.dropLast
          else labels
        if endsInNumber labels then
          match (labels.mapM hostNumber?).bind hostBytes? with
          | some bytes => .ok (".".intercalate (bytes.map toString))
          | none => .error .badAddress
        else .ok (String.ofList name)

/-- Whether a segment stands for its parent. -/
def isParent (segment : List Char) : Bool :=
  ["..", ".%2e", "%2e.", "%2e%2e"].contains (String.ofList (segment.map Char.toLower))

/-- Whether a segment stands for the segment before it. -/
def isHere (segment : List Char) : Bool :=
  [".", "%2e"].contains (String.ofList (segment.map Char.toLower))

/-- Resolves the dots among segments; `done` holds the segments so far. -/
def resolveDots (done : List (List Char)) : List (List Char) → List (List Char)
  | [] => done
  | segment :: rest =>
      let last (segments : List (List Char)) : List (List Char) :=
        if rest.isEmpty then segments ++ [[]] else segments
      if isParent segment then resolveDots (last done.dropLast) rest
      else if isHere segment then resolveDots (last done) rest
      else resolveDots (done ++ [segment]) rest

/-- The segments of a path; `text` starts with its slash, if it has one. -/
def readSegments (special : Bool) (text : List Char) : List String :=
  let text := if special then text.map fun c => if c = '\\' then '/' else c else text
  let segments :=
    match text with
    | [] => if special then [[]] else []
    | '/' :: rest => Text.splitOn '/' rest
    | rest => Text.splitOn '/' rest
  (resolveDots [] segments).map fun segment =>
    String.ofList (percentEncode reservedInPath segment)

/-- Cuts the query and the fragment from the end of an address. -/
def cutTail (special : Bool) (text : List Char) :
    List Char × Option String × Option String :=
  let (text, fragment) := Text.cutAt '#' text
  let (text, query) := Text.cutAt '?' text
  (text, query.map fun query => String.ofList (percentEncode (reservedInQuery special) query),
    fragment.map fun fragment => String.ofList (percentEncode reservedInFragment fragment))

/-- An address from its authority and what follows it. -/
def ofAuthority (scheme : String) (special : Bool) (authority path : List Char)
    (query fragment : Option String) : Except UrlFault Url := do
  let (credentials, hostAndPort) := cutCredentials authority
  let (hostText, portText) := cutPort hostAndPort
  let host ← if special then readHost hostText else .ok (String.ofList hostText)
  let port ← readPort scheme portText
  .ok ⟨scheme, (credentials.map renderCredentials).getD "", some host, port,
    .segments (readSegments special path), query, fragment⟩

/-- Reads a web address. -/
def parse (text : String) : Except UrlFault Url :=
  match cutScheme (significant text) with
  | none => .error .noScheme
  | some (scheme, rest) =>
      let special := isSpecial scheme
      let (rest, query, fragment) := cutTail special rest
      if special then
        let isSlash (character : Char) : Bool := character == '/' || character == '\\'
        let (authority, path) := cutBefore ['/', '\\'] (rest.dropWhile isSlash)
        ofAuthority scheme true authority path query fragment
      else
        match rest with
        | '/' :: '/' :: rest =>
            let (authority, path) := cutBefore ['/'] rest
            ofAuthority scheme false authority path query fragment
        | '/' :: _ =>
            .ok ⟨scheme, "", if scheme = "file" then some "" else none, none,
              .segments (readSegments false rest), query, fragment⟩
        | _ =>
            .ok ⟨scheme, "", none, none, .undivided (String.ofList (percentEncode [] rest)),
              query, fragment⟩

/-- The path as an address writes it. -/
def renderPath (url : Url) : String :=
  match url.path with
  | .undivided text => text
  | .segments texts => String.join (texts.map fun text => "/" ++ text)

/-- The path and the query. -/
def target (url : Url) : String :=
  url.renderPath ++ (url.query.elim "" fun query => "?" ++ query)

/-- An address as text. -/
def render (url : Url) : String :=
  url.scheme ++ ":" ++
    (url.host.elim "" fun host =>
      "//" ++ url.credentials ++ host ++ (url.port.elim "" fun port => ":" ++ toString port)) ++
    url.target ++ (url.fragment.elim "" fun fragment => "#" ++ fragment)

/-- One more segment at the end of a path.  Dots do not count, and a path that is
just a slash takes the segment in the place of its empty one. -/
def pushSegment (special : Bool) (texts : List String) (segment : String) : List String :=
  if segment = "." || segment = ".." then texts
  else
    let encoded := String.ofList
      (percentEncode (reservedInSegment special)
        (segment.toList.filter fun character => !isDropped character))
    if texts = [""] then [encoded] else texts ++ [encoded]

/-- An address with more segments behind its path, whose last slash does not
count.  Addresses without segments cannot be extended. -/
def extend? (url : Url) (segments : List String) : Option Url :=
  match url.path with
  | .undivided _ => none
  | .segments texts =>
      let texts :=
        if decide (1 < texts.length) && texts.getLast? == some "" then texts.dropLast else texts
      some { url with
        path := .segments (segments.foldl (pushSegment (isSpecial url.scheme)) texts) }

end Url

end DocumentIngest
