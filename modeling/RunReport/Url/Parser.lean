import RunReport.Url.Basic
import RunReport.Url.Host

/-!
# Reading URLs

A text as a URL that stands by itself.

Blanks around a URL and line breaks in it do not count. What follows the scheme depends on it. A
common scheme always has a host and a path from its root, and takes backslashes for slashes. A file
may have a host. For any other scheme two slashes start a host, one slash starts a path, and
otherwise the rest has no structure at all. Paths are resolved while they are read: a segment of
one dot goes nowhere, one of two dots goes back.

## Main definitions

* `Scheme.Kind`: The three kinds of schemes.
* `Url.parse`: The URL that a text writes.
-/

namespace RunReport

/-- How a scheme is treated: the common ones with hosts, files, and all others. -/
inductive Scheme.Kind
  | common
  | file
  | other
  deriving DecidableEq

namespace Scheme

/-- The common schemes and their usual ports. -/
def usualPorts : List (String × Nat) :=
  [("http", 80), ("https", 443), ("ws", 80), ("wss", 443), ("ftp", 21)]

/-- The kind of a scheme. -/
def kind (scheme : String) : Kind :=
  if scheme = "file" then .file
  else if usualPorts.any (·.1 = scheme) then .common
  else .other

/-- The usual port of a scheme. -/
def usualPort? (scheme : String) : Option Nat :=
  (usualPorts.find? (·.1 = scheme)).map (·.2)

end Scheme

namespace Url

open Scheme (Kind)

/-! ### Preparation -/

/-- A text without the control characters and blanks at its ends and without line breaks and
    tabs. -/
def prepared (cs : List Char) : List Char :=
  let isEdge (c : Char) : Bool := c.toNat ≤ 0x20
  let cs := ((cs.dropWhile isEdge).reverse.dropWhile isEdge).reverse
  cs.filter fun c => c ≠ '\t' && c ≠ '\n' && c ≠ '\r'

/-- Whether a character may stand in a scheme after its first letter. -/
def isSchemeChar (c : Char) : Bool :=
  c.isAlphanum || c = '+' || c = '-' || c = '.'

/-- The scheme in lower case, and the text after its colon. -/
def splitScheme (cs : List Char) : Option (String × List Char) :=
  let scheme := cs.takeWhile isSchemeChar
  match scheme, cs.drop scheme.length with
  | c :: _, ':' :: rest =>
    if c.isAlpha then some (String.ofList (scheme.map Char.toLower), rest) else none
  | _, _ => none

/-- Whether a character is a slash, or counts as one. -/
def isSlash (kind : Kind) (c : Char) : Bool :=
  c = '/' || (c = '\\' && kind ≠ .other)

/-- Whether a character ends an authority. -/
def endsAuthority (kind : Kind) (c : Char) : Bool :=
  isSlash kind c || c = '?' || c = '#'

/-! ### Paths -/

/-- Whether a segment is one dot, in one of its spellings. -/
def isDot (segment : List Char) : Bool :=
  segment.map Char.toLower ∈ [['.'], ['%', '2', 'e']]

/-- Whether a segment is two dots, in one of their spellings. -/
def isDoubleDot (segment : List Char) : Bool :=
  segment.map Char.toLower ∈
    [['.', '.'], ['.', '%', '2', 'e'], ['%', '2', 'e', '.'], ['%', '2', 'e', '%', '2', 'e']]

/-- Whether a segment is a letter for a drive, with a colon or a bar. -/
def isDrive (segment : List Char) : Bool :=
  match segment with
  | [c, d] => c.isAlpha && (d = ':' || d = '|')
  | _ => false

/-- Segments without the last one. The drive of a file stays. -/
def shortened (kind : Kind) (path : List (List Char)) : List (List Char) :=
  match path with
  | [drive] => if kind = .file && isDrive drive then path else []
  | _ => path.dropLast

/-- A path with one more segment as it was written; `isLast` if no slash follows it. -/
def pushSegment (kind : Kind) (path : List (List Char)) (segment : List Char) (isLast : Bool) :
    List (List Char) :=
  if isDoubleDot segment then
    let path := shortened kind path
    if isLast then path ++ [[]] else path
  else if isDot segment then (if isLast then path ++ [[]] else path)
  else
    match segment with
    | c :: _ =>
      if kind = .file && path.isEmpty && isDrive segment then [[c, ':']]
      else path ++ [Percent.encode Percent.inPath segment]
    | [] => path ++ [[]]

/-- Adds segments one after the other. -/
def pushSegments (kind : Kind) (path : List (List Char)) : List (List Char) → List (List Char)
  | [] => path
  | [s] => pushSegment kind path s true
  | s :: rest => pushSegments kind (pushSegment kind path s false) rest

/-- A text cut at every slash. -/
def slashed (kind : Kind) (cs : List Char) : List (List Char) :=
  segments '/' (cs.map fun c => if isSlash kind c then '/' else c)

/-- The path that a text writes after its first slash. The path of a file does not start with an
    empty segment. -/
def pathText (kind : Kind) (cs : List Char) : List Char :=
  let path := pushSegments kind [] (slashed kind cs)
  let path := if kind = .file then path.dropWhile List.isEmpty else path
  '/' :: joined '/' path

/-- The path after an authority. Only for other schemes it may be missing. -/
def rootedPath (kind : Kind) (cs : List Char) : List Char :=
  match cs with
  | [] => if kind = .other then [] else pathText kind []
  | c :: rest => if isSlash kind c then pathText kind rest else pathText kind cs

/-- Whether the first segment of a path is a drive. -/
def startsWithDrive (path : List Char) : Bool :=
  isDrive ((path.drop 1).take 2) && (path.length = 3 || path[3]? = some '/')

/-! ### Query and fragment -/

/-- A path or what stands before it, then the query and the fragment, if there are any. -/
def splitTail (cs : List Char) : List Char × Option (List Char) × Option (List Char) :=
  let front := cs.takeWhile (· ≠ '#')
  let fragment := match cs.drop front.length with
    | '#' :: f => some f
    | _ => none
  let path := front.takeWhile (· ≠ '?')
  let query := match front.drop path.length with
    | '?' :: q => some q
    | _ => none
  (path, query, fragment)

/-- The signs that need a percent sign in the query of a scheme. -/
def needsInQuery (kind : Kind) : Char → Bool :=
  if kind = .other then Percent.inQuery else Percent.inCommonQuery

/-- A URL from its parts, with the query and fragment as they were written. -/
def assembled (kind : Kind) (scheme : String) (authority : Option Authority) (path : List Char)
    (query fragment : Option (List Char)) : Url :=
  { scheme
    authority
    path := String.ofList path
    query := query.map fun q => String.ofList (Percent.encode (needsInQuery kind) q)
    fragment := fragment.map fun f => String.ofList (Percent.encode Percent.inFragment f) }

/-! ### Authorities -/

/-- User name and password, which may have colons itself. -/
def readCredentials (cs : List Char) : String × String :=
  let user := cs.takeWhile (· ≠ ':')
  let text (part : List Char) := String.ofList (Percent.encode Percent.inUser part)
  (text user, text (cs.drop (user.length + 1)))

/-- The host and what follows it from its colon on; a colon in brackets does not count. -/
def splitHost (inBrackets : Bool) : List Char → List Char × List Char
  | [] => ([], [])
  | c :: cs =>
    if c = ':' && !inBrackets then ([], c :: cs)
    else
      let inBrackets := if c = '[' then true else if c = ']' then false else inBrackets
      let (host, port) := splitHost inBrackets cs
      (c :: host, port)

/-- The port after a host, unless it is the usual one or empty. -/
def readPort (scheme : String) : List Char → Except UrlFault (Option Nat)
  | ':' :: digits =>
    if digits.isEmpty then .ok none
    else
      match (Numeral.valueOf? digits).filter (· < 65536) with
      | none => .error .badPort
      | some n => .ok (if Scheme.usualPort? scheme = some n then none else some n)
  | _ => .ok none

/-- The host of a URL with an authority. -/
def hostOf [HostLibrary] (kind : Kind) (cs : List Char) : Except UrlFault (List Char) :=
  if kind = .common then Host.read cs else Host.readOpaque cs

/-- An authority from the text before its last at sign, if there is one, and the text behind. -/
def authorityOf [HostLibrary] (kind : Kind) (scheme : String) (before : Option (List Char))
    (rest : List Char) (isFollowed : Bool) : Except UrlFault Authority := do
  let (user, password) := readCredentials (before.getD [])
  let (hostText, portText) := splitHost false rest
  if before = some [] && rest.isEmpty && isFollowed then .error .emptyHost
  else if kind = .common && hostText.isEmpty then .error .emptyHost
  else
    let host ← hostOf kind hostText
    let port ← if host.isEmpty && !portText.isEmpty then .error .emptyHost
      else readPort scheme portText
    if host.isEmpty && (user ≠ "" || password ≠ "") then .error .emptyHost
    else .ok { user, password, host := String.ofList host, port }

/-- An authority: the text between two slashes and the path. -/
def readAuthority [HostLibrary] (kind : Kind) (scheme : String) (cs : List Char)
    (isFollowed : Bool) : Except UrlFault Authority :=
  match splitLast '@' cs with
  | some (before, rest) => authorityOf kind scheme (some before) rest isFollowed
  | none => authorityOf kind scheme none cs isFollowed

/-- A URL after the two slashes that start an authority. -/
def afterSlashes [HostLibrary] (kind : Kind) (scheme : String) (cs : List Char) :
    Except UrlFault Url := do
  let text := cs.takeWhile fun c => !endsAuthority kind c
  let rest := cs.drop text.length
  let a ← readAuthority kind scheme text (!rest.isEmpty)
  let (path, query, fragment) := splitTail rest
  .ok (assembled kind scheme (some a) (rootedPath kind path) query fragment)

/-! ### Files -/

/-- The host of a file after two slashes, and the path: a drive is no host. -/
def fileHost [HostLibrary] (cs : List Char) : Except UrlFault (List Char × List Char) := do
  let host := cs.takeWhile fun c => !isSlash .file c
  if isDrive host then .ok ([], cs)
  else if host.isEmpty then .ok ([], cs.drop host.length)
  else
    let name ← Host.read host
    .ok (if name = "localhost".toList then [] else name, cs.drop host.length)

/-- The host of a file, if two slashes come first, and the path. -/
def fileParts [HostLibrary] (cs : List Char) : Except UrlFault (List Char × List Char) :=
  match cs with
  | a :: b :: rest => if isSlash .file a && isSlash .file b then fileHost rest else .ok ([], cs)
  | _ => .ok ([], cs)

/-- A file after its scheme. A host does not go with a drive. -/
def readFile [HostLibrary] (cs : List Char) : Except UrlFault Url := do
  let (front, query, fragment) := splitTail cs
  let (host, path) ← fileParts front
  let path := rootedPath .file path
  let host := if startsWithDrive path then [] else host
  .ok (assembled .file "file" (some { host := String.ofList host }) path query fragment)

/-! ### All URLs -/

/-- The path of a URL without an authority. It has no structure unless it starts with a slash. -/
def barePath (cs : List Char) : List Char :=
  match cs with
  | '/' :: rest => pathText .other rest
  | cs => Percent.encode Percent.nowhere cs

/-- A URL of another scheme after its scheme. -/
def readOther [HostLibrary] (scheme : String) (cs : List Char) : Except UrlFault Url :=
  match cs with
  | '/' :: '/' :: rest => afterSlashes .other scheme rest
  | cs =>
    let (front, query, fragment) := splitTail cs
    .ok (assembled .other scheme none (barePath front) query fragment)

/-- The URL that a text writes. -/
def parse [HostLibrary] (s : String) : Except UrlFault Url :=
  match splitScheme (prepared s.toList) with
  | none => .error .relative
  | some (scheme, rest) =>
    match Scheme.kind scheme with
    | .common => afterSlashes .common scheme (rest.dropWhile (isSlash .common))
    | .file => readFile rest
    | .other => readOther scheme rest

end Url

end RunReport
