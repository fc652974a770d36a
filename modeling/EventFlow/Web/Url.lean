import EventFlow.Web.Host

/-!
# URLs

Reading a URL brings it into its one form: scheme and domain in lower case,
default ports left out, dot segments resolved, and every part percent-encoded.
Path segments and query entries can be added to a URL.
-/

namespace EventFlow.Web

/-- What stands between the scheme and the path of a URL: a user, a host, and the
number of the service on it. -/
structure Authority where
  user : String := ""
  password : Option String := none
  host : Host
  portNumber : Option Nat := none

/-- The path of a URL: segments, or plain text where there is no hierarchy. -/
inductive UrlPath where
  | segments (list : List String)
  | plain (text : String)

/-- A URL, each part in its encoded form. -/
structure Url where
  scheme : String
  authority : Option Authority
  path : UrlPath
  query : Option String := none
  fragment : Option String := none

namespace Url

/-! ## Schemes -/

/-- The special schemes with their default ports. -/
def specialPorts : List (String × Option Nat) := [
  ("http", some 80), ("https", some 443), ("ws", some 80), ("wss", some 443),
  ("ftp", some 21), ("file", none)]

/-- Whether a scheme is special: it has a host, and backslashes are slashes. -/
def isSpecial (scheme : String) : Bool :=
  Dict.contains specialPorts scheme

/-- The entry of a scheme among the default ports. -/
def defaultPort? (scheme : String) : Option Nat :=
  (Dict.get? specialPorts scheme).join

/-- Whether a character may stand in a scheme behind the first letter. -/
def isSchemeChar (c : Char) : Bool :=
  c.isAlphanum || c = '+' || c = '-' || c = '.'

/-- The scheme of a text, and what follows the colon behind it. -/
def splitScheme? (text : List Char) : Option (String × List Char) :=
  match text with
  | [] => none
  | first :: _ =>
    if !first.isAlpha then none
    else
      match text.span isSchemeChar with
      | (scheme, ':' :: rest) => some (String.ofList (scheme.map Char.toLower), rest)
      | _ => none

/-- Whether a character separates segments. -/
def isSlash (special : Bool) (c : Char) : Bool :=
  c = '/' || (special && c = '\\')

/-! ## Authorities -/

/-- Whether a character ends the authority. -/
def endsAuthority (special : Bool) (c : Char) : Bool :=
  isSlash special c || c = '?' || c = '#'

/-- The parts before and behind the last `@`, if there is one. -/
def splitLastAt (text : List Char) : Option (List Char × List Char) :=
  match text.reverse.span (· ≠ '@') with
  | (_, []) => none
  | (tail, _ :: head) => some (head.reverse, tail.reverse)

/-- The user and the password of a text. An empty password is none. -/
def userInfo (text : List Char) : String × Option String :=
  match text.span (· ≠ ':') with
  | (user, _ :: password) =>
    (Percent.encode Percent.userInfo user,
      if password.isEmpty then none else some (Percent.encode Percent.userInfo password))
  | (user, []) => (Percent.encode Percent.userInfo user, none)

/-- Split a host from the number behind it. Colons between brackets belong to the
host. -/
def splitPort (inside : Bool) : List Char → List Char × Option (List Char)
  | [] => ([], none)
  | c :: rest =>
    if c = ':' ∧ !inside then ([], some rest)
    else
      let (host, digits) := splitPort (if c = '[' then true else if c = ']' then false else inside) rest
      (c :: host, digits)

/-- Ports are numbers below 2^16; an empty text stands for none. -/
def portNumber? (digits : List Char) : Except UrlError (Option Nat) :=
  if !digits.all Char.isDigit then .error .invalidPort
  else if digits.isEmpty then .ok none
  else
    match Host.number 10 digits with
    | some value => if value < 65536 then .ok (some value) else .error .invalidPort
    | none => .error .invalidPort

/-- The user and the password in front of the last `@` of a text, and what stands
behind it. A lone `@` has to have something behind it or nothing at all. -/
def readUser (text : List Char) (followed : Bool) :
    Except UrlError (String × Option String × List Char) :=
  match splitLastAt text with
  | none => .ok ("", none, text)
  | some ([], rest) =>
    if rest.isEmpty ∧ followed then .error .emptyHost else .ok ("", none, rest)
  | some (info, rest) =>
    let (user, password) := userInfo info
    .ok (user, password, rest)

/-- The host of a text in front of a path. Without a host there is no number of a
service. -/
def readHost (special : Bool) (hostText : List Char) (hasNumber : Bool) : Except UrlError Host :=
  if special then
    if hostText.isEmpty then .error .emptyHost else Host.ofSpecial hostText
  else if hostText.isEmpty ∧ hasNumber then .error .emptyHost
  else Host.ofOther hostText

/-- The authority at the front of a text, and the path behind it. Whether anything
follows the path matters to a lone `@`. -/
def readAuthority (scheme : String) (text : List Char) (followed : Bool) :
    Except UrlError (Authority × List Char) := do
  let special := isSpecial scheme
  let (head, tail) := text.span fun c => !endsAuthority special c
  let (user, password, rest) ← readUser head (followed || !tail.isEmpty)
  let (hostText, numberText) := splitPort false rest
  let host ← readHost special hostText numberText.isSome
  let (digits, behind) := (numberText.getD []).span (· ≠ '\\')
  let found ← portNumber? digits
  if hostText.isEmpty ∧ (user ≠ "" ∨ password.isSome) then .error .emptyHost
  else
    let portNumber := if found = defaultPort? scheme then none else found
    .ok ({ user, password, host, portNumber }, behind ++ tail)

/-! ## Paths -/

/-- Whether a segment stands for its own place. -/
def isSingleDot (segment : String) : Bool :=
  segment = "." || segment = "%2e" || segment = "%2E"

/-- Whether a segment stands for the place above. -/
def isDoubleDot (segment : String) : Bool :=
  ["..", "%2e.", "%2E.", ".%2e", ".%2E", "%2e%2e", "%2e%2E", "%2E%2e", "%2E%2E"].contains segment

/-- Split segments at slashes. -/
def splitSegments (special : Bool) (current : List Char) : List Char → List (List Char)
  | [] => [current.reverse]
  | c :: rest =>
    if isSlash special c then current.reverse :: splitSegments special [] rest
    else splitSegments special (c :: current) rest

/-- Whether a text is a drive letter, as the paths of files may begin with. -/
def isDrive (text : String) : Bool :=
  match text.toList with
  | [letter, mark] => letter.isAlpha && (mark = ':' || mark = '|')
  | _ => false

/-- Drop the last segment. A drive letter stays. -/
def shorten (done : List String) : List String :=
  if (done.getLast?.map isDrive).getD false then done else done.dropLast

/-- A drive letter is written with a colon. -/
def plainDrive (isFile : Bool) (done : List String) (segment : String) : String :=
  if isFile && done.isEmpty && isDrive segment then String.ofList (segment.toList.take 1 ++ [':'])
  else segment

/-- Resolve dot segments. A dot segment at the end leaves an empty segment. -/
def resolve (isFile : Bool) (done : List String) : List String → List String
  | [] => done
  | [last] =>
    if isDoubleDot last then shorten done ++ [""]
    else if isSingleDot last then done ++ [""]
    else done ++ [plainDrive isFile done last]
  | segment :: rest =>
    if isDoubleDot segment then resolve isFile (shorten done) rest
    else if isSingleDot segment then resolve isFile done rest
    else resolve isFile (done ++ [plainDrive isFile done segment]) rest

/-- The segments of a path behind its first slash. -/
def segmentsOf (scheme : String) (text : List Char) : List String :=
  let parts := splitSegments (isSpecial scheme) [] text
  resolve (scheme = "file") [] (parts.map (Percent.encode Percent.path))

/-- Empty segments in front of a file path are dropped, unless nothing else is
there. -/
def withoutLeadingEmpty : List String → List String
  | "" :: next :: rest => withoutLeadingEmpty (next :: rest)
  | segments => segments

/-- The segments of a path behind an authority. -/
def segmentsBehindHost (scheme : String) (text : List Char) : List String :=
  match text with
  | [] => if isSpecial scheme then [""] else []
  | c :: rest => segmentsOf scheme (if isSlash (isSpecial scheme) c then rest else text)

/-- Whether a path begins with a drive letter. -/
def startsWithDrive (segments : List String) : Bool :=
  (segments.head?.map isDrive).getD false

/-! ## Reading -/

/-- The fragment of a text, and what stands before it. -/
def splitFragment (text : List Char) : List Char × Option String :=
  match text.span (· ≠ '#') with
  | (head, _ :: tail) => (head, some (Percent.encode Percent.fragment tail))
  | (head, []) => (head, none)

/-- The query of a text, and what stands before it. -/
def splitQuery (special : Bool) (text : List Char) : List Char × Option String :=
  match text.span (· ≠ '?') with
  | (head, _ :: tail) =>
    let encoded := if special then Percent.specialQuery else Percent.query
    (head, some (Percent.encode encoded tail))
  | (head, []) => (head, none)

/-- The host of a file, given what follows the two slashes, and its path. A
drive letter is no host, and the local host is none. -/
def fileHost (text : List Char) : Except UrlError (Host × List Char) :=
  let (hostText, rest) := text.span fun c => !isSlash true c
  if isDrive (String.ofList hostText) then .ok (.name "", text)
  else if hostText.isEmpty then .ok (.name "", rest)
  else
    match Host.ofSpecial hostText with
    | .error cause => .error cause
    | .ok host => .ok (if host.text = "localhost" then .name "" else host, rest)

/-- The host and the path of a file, given what follows the scheme. -/
def ofFile (text : List Char) : Except UrlError (Host × List Char) :=
  match text with
  | a :: b :: rest =>
    if isSlash true a && isSlash true b then fileHost rest else .ok (.name "", text)
  | _ => .ok (.name "", text)

/-- A URL from its scheme and what follows it, without query and fragment; whether
there are any is told apart. The path of a file that begins with a drive letter
has no host. -/
def ofScheme (scheme : String) (text : List Char) (followed : Bool) :
    Except UrlError (Option Authority × UrlPath) :=
  if scheme = "file" then do
    let (host, path) ← ofFile text
    let segments := segmentsBehindHost scheme path
    let host := if startsWithDrive segments then Host.name "" else host
    .ok (some { host }, .segments (withoutLeadingEmpty segments))
  else if isSpecial scheme then do
    let (authority, path) ← readAuthority scheme (text.dropWhile (isSlash true)) followed
    .ok (some authority, .segments (segmentsBehindHost scheme path))
  else
    match text with
    | '/' :: '/' :: rest => do
      let (authority, path) ← readAuthority scheme rest followed
      .ok (some authority, .segments (segmentsBehindHost scheme path))
    | '/' :: rest => .ok (none, .segments (segmentsOf scheme rest))
    | _ => .ok (none, .plain (Percent.encode Percent.controls text))

/-- Whether a character in front or at the end of a text is ignored. -/
def isMargin (c : Char) : Bool :=
  c.toNat ≤ 32

/-- Whether a character is ignored everywhere. -/
def isIgnored (c : Char) : Bool :=
  c = '\t' || c = '\n' || c = '\r'

/-- The characters of a text that count. -/
def relevant (text : String) : List Char :=
  let front := text.toList.dropWhile isMargin
  (front.reverse.dropWhile isMargin).reverse.filter fun c => !isIgnored c

/-- Read an absolute URL. -/
def parse (text : String) : Except UrlError Url :=
  match splitScheme? (relevant text) with
  | none => .error .noBase
  | some (scheme, rest) => do
    let (rest, fragment) := splitFragment rest
    let (rest, query) := splitQuery (isSpecial scheme) rest
    let (authority, path) ← ofScheme scheme rest (query.isSome || fragment.isSome)
    .ok { scheme, authority, path, query, fragment }

/-! ## Writing -/

/-- The text of the number behind a host. -/
def portText : Option Nat → String
  | none => ""
  | some value => ":" ++ toString value

/-- The text of a user and a password. -/
def userText (authority : Authority) : String :=
  match authority.user, authority.password with
  | "", none => ""
  | user, none => user ++ "@"
  | user, some password => user ++ ":" ++ password ++ "@"

/-- The text of an authority. -/
def authorityText (authority : Authority) : String :=
  "//" ++ userText authority ++ authority.host.text ++ portText authority.portNumber

/-- The text of a path of segments. -/
def segmentsText (segments : List String) : String :=
  String.join (segments.map fun segment => "/" ++ segment)

/-- The text of a path. Without an authority two slashes must not come first. -/
def pathText (hasAuthority : Bool) : UrlPath → String
  | .plain text => text
  | .segments segments =>
    match hasAuthority, segments with
    | false, "" :: _ :: _ => "/." ++ segmentsText segments
    | _, _ => segmentsText segments

/-- A part with its mark, if it is there. -/
def marked (mark : String) : Option String → String
  | none => ""
  | some part => mark ++ part

/-- The path with query, as a request names its target. -/
def target (url : Url) : String :=
  pathText url.authority.isSome url.path ++ marked "?" url.query

/-- The text of a URL. -/
def text (url : Url) : String :=
  url.scheme ++ ":" ++ (url.authority.map authorityText).getD "" ++ url.target
    ++ marked "#" url.fragment

/-! ## Additions -/

/-- Whether a URL is one that requests can be sent to. -/
def isHttp (url : Url) : Bool :=
  url.scheme = "http" || url.scheme = "https"

/-- Drop an empty last segment. -/
def withoutEmptyLast (segments : List String) : List String :=
  match segments with
  | [] => []
  | [only] => [only]
  | _ => if segments.getLast? = some "" then segments.dropLast else segments

/-- Add one segment. Dot segments add nothing. Tabs and line ends are ignored;
a dot segment that comes to light then is resolved. A lone empty segment makes
room for the first addition. -/
def pushSegment (segments : List String) (name : String) : List String :=
  if name = "." ∨ name = ".." then segments
  else
    let added := Percent.encode Percent.segment (name.toList.filter fun c => !isIgnored c)
    let front := if segments = [""] then [] else segments
    if isDoubleDot added then shorten front ++ [""]
    else if isSingleDot added then front ++ [""]
    else front ++ [added]

/-- Add segments to the path of a URL, in place of an empty last one. -/
def extend (url : Url) (names : List String) : Url :=
  match url.path with
  | .plain _ => url
  | .segments segments =>
    { url with path := .segments (names.foldl pushSegment (withoutEmptyLast segments)) }

/-- Add an entry to the query of a URL. -/
def addQuery (url : Url) (entry : String) : Url :=
  match url.query with
  | none => { url with query := some entry }
  | some "" => { url with query := some entry }
  | some query => { url with query := some (query ++ "&" ++ entry) }

/-- The URL without user and password. It stays as it is if the user is no text,
or if there is neither a user nor a password that is a text. -/
def withoutUser (url : Url) : Url :=
  match url.authority with
  | none => url
  | some authority =>
    let plain := fun (part : String) => Text.text? (Percent.decode part.toList)
    match plain authority.user with
    | none => url
    | some user =>
      if user.isEmpty && (authority.password.bind plain).isNone then url
      else { url with authority := some { authority with user := "", password := none } }

end Url

end EventFlow.Web
