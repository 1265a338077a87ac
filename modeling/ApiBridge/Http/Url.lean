import ApiBridge.Decimal.Numeral
import ApiBridge.Http.Host
import ApiBridge.Http.Path

namespace ApiBridge.Http

structure Url where
  scheme : String
  username : String
  password : Option String
  /-- The host, which is empty where only its slashes are written. -/
  host : Option String
  port : Option Nat
  path : String
  query : Option String
  fragment : Option String
  deriving DecidableEq, Repr

namespace Url

def defaultPorts : List (String × Nat) :=
  [("http", 80), ("https", 443), ("ws", 80), ("wss", 443), ("ftp", 21)]

def isSpecial (scheme : String) : Bool := (defaultPorts.lookup scheme).isSome || scheme == "file"

/-- The text of a URL. A path without a host in front of it never looks like one. -/
def render (url : Url) : String :=
  let userInfo :=
    if url.username.isEmpty && url.password.isNone then ""
    else url.username ++ (url.password.elim "" fun password => ":" ++ password) ++ "@"
  let authority := match url.host with
    | some host =>
        "//" ++ userInfo ++ host ++ url.port.elim "" fun port => ":" ++ toString port
    | none => if "//".toList.isPrefixOf url.path.toList then "/." else ""
  url.scheme ++ ":" ++ authority ++ url.path ++
    (url.query.elim "" fun query => "?" ++ query) ++
    url.fragment.elim "" fun fragment => "#" ++ fragment

def isSchemeChar (c : Char) : Bool := c.isAlphanum || c == '+' || c == '-' || c == '.'

def scheme? (text : List Char) : Option (String × List Char) :=
  let name := text.takeWhile isSchemeChar
  match name, text.dropWhile isSchemeChar with
  | first :: _, ':' :: rest =>
      if first.isAlpha then some (String.ofList (name.map Char.toLower), rest) else none
  | _, _ => none

def splitTail (text : List Char) : List Char × Option (List Char) × Option (List Char) :=
  let beforeFragment := text.takeWhile (· != '#')
  let fragment := (text.dropWhile (· != '#')).tail?
  (beforeFragment.takeWhile (· != '?'), (beforeFragment.dropWhile (· != '?')).tail?, fragment)

def isSlash (special : Bool) (c : Char) : Bool := c == '/' || (special && c == '\\')

def normalPath (special : Bool) (text : List Char) : String :=
  match text with
  | [] => if special then "/" else ""
  | c :: rest =>
      Path.text (Path.segments (isSlash special) (if isSlash special c then rest else text))

/-- Reads a port and gives what follows it; the port of the scheme itself counts as none. -/
def port? (scheme : String) (text : List Char) : Except UrlError (Option Nat × List Char) :=
  let digits := text.takeWhile Char.isDigit
  let rest := text.dropWhile Char.isDigit
  let value := Numeral.digitsValue digits
  if 65535 < value || !rest.head?.all (isSlash true) then .error .invalidPort
  else if digits.isEmpty || defaultPorts.lookup scheme == some value then .ok (none, rest)
  else .ok (some value, rest)

def splitLast (mark : Char) (text : List Char) : Option (List Char × List Char) :=
  match text.reverse.dropWhile (· != mark) with
  | [] => none
  | _ :: front => some (front.reverse, (text.reverse.takeWhile (· != mark)).reverse)

/-- The length of the host at the front of a text, up to a colon outside brackets. -/
def hostLength (inside : Bool) : List Char → Nat
  | [] => 0
  | c :: rest =>
      if c = ':' ∧ !inside then 0
      else hostLength (if c = '[' then true else if c = ']' then false else inside) rest + 1

structure Authority where
  username : String
  password : Option String
  host : String
  port : Option Nat

/-- Reads an authority, which ends where the URL does if it is `last`, and gives what follows its
port. -/
def authority (scheme : String) (special last : Bool) (text : List Char) :
    Except UrlError (Authority × List Char) := do
  let (userInfo, hostPort) := (splitLast '@' text).getD ([], text)
  let encoded (part : List Char) : String := String.ofList (Percent.encode Percent.inUserInfo part)
  let username := encoded (userInfo.takeWhile (· != ':'))
  let password := match (userInfo.dropWhile (· != ':')).tail with
    | [] => none
    | rest => some (encoded rest)
  let length := hostLength false hostPort
  let hostText := hostPort.take length
  let rest := hostPort.drop length
  -- An at sign alone needs a host behind it, unless nothing at all is there.
  let isLoneSign := text == ['@'] && !last
  let isOwned := !username.isEmpty || password.isSome
  if hostText.isEmpty && (special || isLoneSign || isOwned || !rest.isEmpty) then throw .emptyHost
  let host ← if special then Host.parse hostText else Host.parseOpaque hostText
  let (port, rest) ← match rest with
    | _ :: digits => port? scheme digits
    | [] => pure (none, [])
  pure ({ username, password, host, port }, rest)

/-- Leaves out what a URL may hold without meaning: controls and blanks at its ends, and line breaks
and tabs anywhere. -/
def clean (text : String) : List Char :=
  let isEdge (c : Char) : Bool := c.toNat ≤ 0x20
  let trimmed := ((text.toList.dropWhile isEdge).reverse.dropWhile isEdge).reverse
  trimmed.filter fun c => c != '\t' && c != '\n' && c != '\r'

/-- The host of a file and its path. A host that names a drive belongs to the path, and a path that
begins with a drive has no host. -/
def fileParts (text : List Char) : Except UrlError (String × String) := do
  let (hostText, path) := match text with
    | a :: b :: rest =>
        let hostText := rest.takeWhile fun c => !isSlash true c
        if !(isSlash true a && isSlash true b) then ([], text)
        else if Path.isDrive hostText then ([], rest)
        else (hostText, rest.drop hostText.length)
    | _ => ([], text)
  let host ← if hostText.isEmpty then pure "" else Host.parse hostText
  let path := match path with
    | c :: rest => if isSlash true c then rest else path
    | [] => []
  match Path.segments (isSlash true) path with
  | [letter, mark] :: rest =>
      if Path.areDrive letter mark then pure ("", Path.text ([letter, ':'] :: rest))
      else pure (localHost host, Path.text ([letter, mark] :: rest))
  | segments => pure (localHost host, withoutGap segments)
where
  localHost (host : String) : String := if host = "localhost" then "" else host
  withoutGap (segments : List (List Char)) : String :=
    match segments.dropWhile List.isEmpty with
    | [] => "/"
    | named => Path.text named

def parse (text : String) : Except UrlError Url := do
  let some (scheme, rest) := scheme? (clean text) | throw .relativeWithoutBase
  let special := isSpecial scheme
  let (front, query, fragment) := splitTail rest
  let queryTest := if special then Percent.inSpecialQuery else Percent.inQuery
  let url : Url := {
    scheme, username := "", password := none, host := none, port := none, path := ""
    query := query.map fun query => String.ofList (Percent.encode queryTest query)
    fragment := fragment.map fun fragment =>
      String.ofList (Percent.encode Percent.inFragment fragment) }
  let withAuthority (text : List Char) : Except UrlError Url := do
    let path := text.dropWhile fun c => !isSlash special c
    let last := path.isEmpty && query.isNone && fragment.isNone
    let (authority, rest) ←
      Url.authority scheme special last (text.takeWhile fun c => !isSlash special c)
    pure { url with
      username := authority.username
      password := authority.password
      host := some authority.host
      port := authority.port
      path := normalPath special (rest ++ path) }
  if scheme = "file" then
    let (host, path) ← fileParts front
    pure { url with host := some host, path }
  else if special then withAuthority (front.dropWhile (isSlash true))
  else
    match front with
    | '/' :: '/' :: rest => withAuthority rest
    | '/' :: _ => pure { url with path := normalPath false front }
    | _ => pure { url with path := String.ofList (Percent.encode Percent.isControl front) }

def hasHost (url : Url) : Bool := url.host.any fun host => !host.isEmpty

/-- Who asks, as names and passwords are meant. A name that is no text is nobody's, and a password
that is no text counts as none. -/
def user? (url : Url) : Option (String × Option String) := do
  let decoded (text : String) : Option String := Utf8.decode? (Percent.decode text.toList)
  let username ← decoded url.username
  let password := url.password.bind decoded
  if username.isEmpty && password.isNone then none else some (username, password)

def withoutUser (url : Url) : Url :=
  if url.user?.isSome then { url with username := "", password := none } else url

def addQuery (url : Url) (pairs : List (String × String)) : Url :=
  if pairs.isEmpty then url
  else
    let added := String.ofList (Percent.form pairs)
    { url with query := some (match url.query with
        | some query => if query.isEmpty then added else query ++ "&" ++ added
        | none => added) }

def maxSent : Nat := 65534

def isSendable (url : Url) : Bool :=
  (url.scheme == "http" || url.scheme == "https") && url.render.utf8ByteSize ≤ maxSent &&
    !(url.host.getD "").toList.any fun c => "\"%\x60\x7b\x7d".toList.contains c

end Url

end ApiBridge.Http
