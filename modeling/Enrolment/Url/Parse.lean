import Enrolment.Text.Split
import Enrolment.Url.Host

/-!
URLs, read as browsers read them. Blanks and control characters at the ends are dropped, tabs and
line breaks everywhere. In the schemes that name hosts a backslash counts as a slash.
-/

namespace Enrolment

structure Url where
  scheme : String
  user : String := ""
  password : String := ""
  host : Option Url.Host
  /-- The port, if it is given and not the one that the scheme stands for. -/
  port : Option Nat := none
  path : String
  query : Option String := none
  fragment : Option String := none
  deriving DecidableEq, Repr

namespace Url

def cleaned (cs : List Char) : List Char :=
  let outer (c : Char) : Bool := c ≤ ' '
  let inner (c : Char) : Bool := c = '\t' || c = '\n' || c = '\r'
  ((cs.dropWhile outer).reverse.dropWhile outer).reverse.filter (!inner ·)

def isSchemeChar (c : Char) : Bool :=
  c.isAlphanum || c = '+' || c = '-' || c = '.'

/-- The scheme in lower case, and what stands behind its colon. -/
def scheme? (cs : List Char) : Option (List Char × List Char) :=
  match Text.cutAt ':' cs with
  | (c :: name, some rest) =>
      if c.isAlpha && name.all isSchemeChar then some ((c :: name).map Char.toLower, rest) else none
  | _ => none

/-- The port that a scheme stands for; the schemes that have one name hosts. -/
def standardPort? (scheme : String) : Option Nat :=
  if scheme = "http" || scheme = "ws" then some 80
  else if scheme = "https" || scheme = "wss" then some 443
  else if scheme = "ftp" then some 21
  else none

def isSlash (special : Bool) (c : Char) : Bool :=
  c = '/' || (special && c = '\\')

def cutAtSlash (special : Bool) (cs : List Char) : List Char × List Char :=
  cs.span (!isSlash special ·)

/-- What stands in front of a path. -/
structure Authority where
  user : List Char := []
  password : List Char := []
  host : Option Host := none
  port : Option Nat := none
  /-- What is left over behind a port: a backslash ends it, even where it counts as no slash. -/
  leftover : List Char := []

def credentials (cs : List Char) : List Char × List Char :=
  let (user, password) := Text.cutAt ':' cs
  (escape isUserEscaped user, escape isUserEscaped (password.getD []))

/-- A text cut at the colon in front of a port; colons between brackets belong to the host. -/
def cutAtPort (bracketed : Bool) : List Char → List Char × Option (List Char)
  | [] => ([], none)
  | c :: cs =>
      if c = ':' && !bracketed then
        ([], some cs)
      else
        let inside := c = '[' || (bracketed && c ≠ ']')
        let (host, port) := cutAtPort inside cs
        (c :: host, port)

def readPort (scheme : String) (cs : List Char) : Except UrlError (Option Nat × List Char) :=
  let (digits, leftover) := cs.span Char.isDigit
  match leftover, Text.numberIn? 10 digits with
  | [], some n | '\\' :: _, some n =>
      if 65535 < n then .error .badPort
      else .ok (if digits = [] || standardPort? scheme = some n then none else some n, leftover)
  | _, _ => .error .badPort

/-- The authority of a URL. `followed` tells whether anything stands behind it. -/
def authority (scheme : String) (followed : Bool) (cs : List Char) : Except UrlError Authority := do
  let special := (standardPort? scheme).isSome
  let (before, place) := Text.cutAtLast '@' cs
  if before = some [] && place = [] && followed then
    throw .emptyHost
  let (user, password) := credentials (before.getD [])
  let (hostText, portText) := cutAtPort false place
  let host ← if special then some <$> Host.parse hostText else Host.parseOpaque hostText
  if host = none && portText.isSome then
    throw .emptyHost
  let (port, leftover) ← match portText with
    | some text => readPort scheme text
    | none => pure (none, [])
  if host = none && (user ≠ [] || password ≠ []) then
    throw .emptyHost
  return ⟨user, password, host, port, leftover⟩

def isUp (segment : List Char) : Bool :=
  ["..", ".%2e", "%2e.", "%2e%2e"].contains (String.ofList (segment.map Char.toLower))

def isHere (segment : List Char) : Bool :=
  [".", "%2e"].contains (String.ofList (segment.map Char.toLower))

/-- The segments of a path with its steps carried out, in front of which some are done already. A
step at the end leaves a slash there. -/
def walk (done : List (List Char)) : List (List Char) → List (List Char)
  | [] => done
  | segment :: rest =>
      if isUp segment then
        walk (done.dropLast ++ if rest = [] then [[]] else []) rest
      else if isHere segment then
        walk (done ++ if rest = [] then [[]] else []) rest
      else
        walk (done ++ [segment]) rest

def segments (special : Bool) (cs : List Char) : List (List Char) :=
  Text.splitOn '/' (if special then cs.map fun c => if c = '\\' then '/' else c else cs)

def pathText (special : Bool) (cs : List Char) : List Char :=
  (walk [] (segments special (escape isPathEscaped cs))).flatMap ('/' :: ·)

/-- The path behind an authority. In the schemes that name hosts there always is one. -/
def pathAfter (special : Bool) : List Char → List Char
  | [] => if special then ['/'] else []
  | c :: cs => if isSlash special c then pathText special cs else pathText special (c :: cs)

/-- A letter and a colon or bar: the start of a path on a drive, not a host. -/
def isDrive : List Char → Bool
  | [letter, mark] => letter.isAlpha && (mark = ':' || mark = '|')
  | _ => false

def filePlace (cs : List Char) : Except UrlError (Option Host × List Char) := do
  match cs with
  | a :: b :: rest =>
      if isSlash true a && isSlash true b then
        let (name, path) := cutAtSlash true rest
        if isDrive name then
          return (none, pathText true rest)
        else if name = [] then
          return (none, pathAfter true path)
        else
          let host ← Host.parse name
          return (if host = .domain "localhost" then none else some host, pathAfter true path)
      else
        return (none, pathAfter true cs)
  | _ => return (none, pathAfter true cs)

def parse (text : String) : Except UrlError Url := do
  let (front, fragment) := Text.cutAt '#' (cleaned text.toList)
  let (body, query) := Text.cutAt '?' front
  let some (name, rest) := scheme? body | throw .relative
  let scheme := String.ofList name
  let special := (standardPort? scheme).isSome
  let query := query.map fun cs => String.ofList (escape (isQueryEscaped special) cs)
  let fragment := fragment.map fun cs => String.ofList (escape isFragmentEscaped cs)
  let placed (place path : List Char) : Except UrlError Url := do
    let followed := path ≠ [] || query.isSome || fragment.isSome
    let found ← authority scheme followed place
    let path := pathAfter special (found.leftover ++ path)
    return { scheme, user := String.ofList found.user, password := String.ofList found.password,
             host := found.host, port := found.port, path := String.ofList path, query, fragment }
  if scheme = "file" then
    let (host, path) ← filePlace rest
    return { scheme, host, path := String.ofList path, query, fragment }
  else if special then
    let (place, path) := cutAtSlash true (rest.dropWhile (isSlash true))
    placed place path
  else
    match rest with
    | '/' :: '/' :: rest =>
        let (place, path) := cutAtSlash false rest
        placed place path
    | '/' :: rest =>
        return { scheme, host := none, path := String.ofList (pathText false rest), query,
                 fragment }
    | rest =>
        return { scheme, host := none, path := String.ofList (escape isControl rest), query,
                 fragment }

end Url
end Enrolment
