import RunReport.Text.FormEncoding
import RunReport.Text.Numeral

/-!
# URLs

The parts of a URL, and pairs of names and values in its query.

All parts are kept as they are written, so the text of a URL is its parts with the signs between
them. A link from a page changes the query only: it may take the place of the query there was, or
go on after it.

## Main definitions

* `Url`: The parts of a URL.
* `Url.text`: A URL as text.
* `Url.withPairs`, `Url.appendPairs`: A URL with other or further pairs in its query.

## Theorems

* `withPairs_withPairs`: Only the last pairs count.
-/

namespace RunReport

/-- Who is at which host: user name, password, host and port. -/
structure Authority where
  user : String := ""
  password : String := ""
  host : String
  port : Option Nat := none
  deriving DecidableEq

namespace Authority

/-- The user name and the password, with the sign behind them. -/
def credentials (a : Authority) : String :=
  let password := if a.password = "" then "" else ":" ++ a.password
  if a.user ++ password = "" then "" else a.user ++ password ++ "@"

/-- An authority as text. -/
def text (a : Authority) : String :=
  let port := match a.port with
    | some n => ":" ++ Numeral.text n
    | none => ""
  a.credentials ++ a.host ++ port

end Authority

/-- The parts of a URL. -/
structure Url where
  scheme : String
  authority : Option Authority := none
  path : String
  query : Option String := none
  fragment : Option String := none
  deriving DecidableEq

namespace Url

/-- What stands between the scheme and the path. A path that would read as an authority gets a dot
    in front. -/
def front (u : Url) : String :=
  match u.authority with
  | some a => "//" ++ a.text
  | none => if u.path.startsWith "//" then "/." else ""

/-- A URL without its fragment. -/
def textWithoutFragment (u : Url) : String :=
  let query := match u.query with
    | some q => "?" ++ q
    | none => ""
  u.scheme ++ ":" ++ u.front ++ u.path ++ query

/-- A URL as text. -/
def text (u : Url) : String :=
  match u.fragment with
  | some f => u.textWithoutFragment ++ "#" ++ f
  | none => u.textWithoutFragment

/-- A name and a value in a query. -/
def pairText (pair : String × String) : String :=
  FormEncoding.encode pair.1 ++ "=" ++ FormEncoding.encode pair.2

/-- Names and values in a query. -/
def pairsText (pairs : List (String × String)) : String :=
  "&".intercalate (pairs.map pairText)

/-- A URL whose query consists of some pairs. -/
def withPairs (u : Url) (pairs : List (String × String)) : Url :=
  { u with query := some (pairsText pairs) }

/-- A URL with further pairs in its query. -/
def appendPairs (u : Url) (pairs : List (String × String)) : Url :=
  match u.query with
  | none => u.withPairs pairs
  | some "" => u.withPairs pairs
  | some q => { u with query := some (q ++ "&" ++ pairsText pairs) }

/-- Only the last pairs count. -/
theorem withPairs_withPairs (u : Url) (a b : List (String × String)) :
    (u.withPairs a).withPairs b = u.withPairs b :=
  rfl

end Url

end RunReport
