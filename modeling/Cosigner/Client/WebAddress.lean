import Cosigner.Text.Utf8

/-!
# Web Addresses

Documents of clients are fetched over HTTP, so their addresses are taken apart
the way browsers do it. White space around an address is ignored, a backslash
counts as a slash, steps such as `..` are taken at once, and characters that may
not stand in an address are written as percent signs with two hexadecimal
digits. What follows a `#` is not sent.

Only absolute addresses with one of the two web schemes are of use here; any
other text is no address.

## Main definitions

* `WebAddress`: An address, taken apart.
* `WebAddress.parse?`: Takes an address apart.
* `WebAddress.withParameter`: Adds a parameter to the query.
* `WebAddress.target`: What a request asks the server for.
-/

namespace Cosigner

/-- An absolute address on the web. -/
structure WebAddress where
  /-- The scheme, in lower case. -/
  scheme : String
  /-- The server: its host and, after a colon, the number of a channel. -/
  server : String
  /-- The steps of the path. -/
  steps : List String
  /-- The query, if there is one. -/
  query : Option String
  deriving DecidableEq

namespace WebAddress

/-- A hexadecimal digit, in upper case. -/
def hexDigit (n : Nat) : Char :=
  (Nat.digitChar n).toUpper

/-- A byte as a percent sign with two digits. -/
def percent (b : UInt8) : List Char :=
  ['%', hexDigit (b.toNat / 16), hexDigit (b.toNat % 16)]

/-- Writes every character that is kept as it is, and every other one byte for
    byte. -/
def percentEncode (keep : Char → Bool) (cs : List Char) : List Char :=
  cs.flatMap fun c =>
    if keep c then [c] else (String.utf8EncodeChar c).flatMap percent

/-- Whether a character is printable ASCII without the space. -/
def isVisible (c : Char) : Bool :=
  33 ≤ c.toNat && c.toNat ≤ 126

/-- Whether a character may stand in a path. -/
def keptInPath (c : Char) : Bool :=
  isVisible c && !(['"', '#', '<', '>', '?', '\x60', '\x7b', '\x7d'].contains c)

/-- Whether a character may stand in a query. -/
def keptInQuery (c : Char) : Bool :=
  isVisible c && !(['"', '#', '<', '>', '\x27'].contains c)

/-- Whether a character may stand in the value of a parameter. -/
def keptInParameter (c : Char) : Bool :=
  c.isAlphanum || ['*', '-', '.', '_'].contains c

/-- The value of a parameter, with plus signs for spaces. -/
def parameterValue (text : String) : List Char :=
  text.toList.flatMap fun c =>
    if c = ' ' then ['+'] else percentEncode keptInParameter [c]

/-- The text between separators. -/
def splitAt (separator : Char → Bool) : List Char → List (List Char)
  | [] => [[]]
  | c :: rest =>
    if separator c then [] :: splitAt separator rest
    else
      match splitAt separator rest with
      | first :: others => (c :: first) :: others
      | [] => [[c]]

/-- Whether a character separates the steps of a path. -/
def isSlash (c : Char) : Bool :=
  c = '/' || c = '\\'

/-- A step with its percent-encoded dots as dots. -/
def plainDots : List Char → List Char
  | '%' :: '2' :: 'e' :: rest => '.' :: plainDots rest
  | '%' :: '2' :: 'E' :: rest => '.' :: plainDots rest
  | c :: rest => c :: plainDots rest
  | [] => []

/-- The path after more steps: a dot stays, two dots go back. A path that ends in
    either ends in a slash. -/
def walk (path : List String) : List (List Char) → List String
  | [] => path
  | step :: rest =>
    let dots := plainDots step
    let path :=
      if dots = ['.', '.'] then path.dropLast
      else if dots = ['.'] then path
      else path ++ [String.ofList (percentEncode keptInPath step)]
    if rest.isEmpty ∧ (dots = ['.', '.'] ∨ dots = ['.']) then path ++ [""]
    else walk path rest

/-- Whether a character ends the server's part of an address. -/
def endsServer (c : Char) : Bool :=
  isSlash c || c = '?' || c = '#'

/-- Whether the name of a server is one. -/
def isHost (host : List Char) : Bool :=
  !host.isEmpty && host.all fun c =>
    32 < c.toNat && !(['#', '%', '/', ':', '<', '>', '?', '@', '[', '\\', ']', '^', '|',
      '\x7f'].contains c)

/-- Whether digits are the number of a channel. No digits stand for the usual
    one. -/
def isChannel (channel : List Char) : Bool :=
  channel.all Char.isDigit && channel.foldl (fun n c => 10 * n + (c.toNat - 48)) 0 < 65536

/-- The server's part of an address, without the name of a user. -/
def server? (text : List Char) : Option String :=
  let place := (splitAt (· = '@') text).getLastD []
  let host := place.takeWhile (· ≠ ':')
  let channel := (place.dropWhile (· ≠ ':')).drop 1
  if isHost host && isChannel channel then
    some (String.ofList (host.map Char.toLower ++ (if channel.isEmpty then [] else ':' :: channel)))
  else none

/-- Takes apart what follows the scheme. -/
def ofRest? (scheme : String) (text : List Char) : Option WebAddress := do
  let text := text.dropWhile isSlash
  let server ← server? (text.takeWhile (!endsServer ·))
  let text := text.dropWhile (!endsServer ·)
  let path := text.takeWhile fun c => c ≠ '?' && c ≠ '#'
  let query := match text.dropWhile fun c => c ≠ '?' && c ≠ '#' with
    | '?' :: rest =>
      some (String.ofList (percentEncode keptInQuery (rest.takeWhile (· ≠ '#'))))
    | _ => none
  return ⟨scheme, server, walk [] (splitAt isSlash (path.drop 1)), query⟩

/-- An address without white space around it and without line ends and tabs. -/
def trim (text : String) : List Char :=
  let isBlank (c : Char) : Bool := c.toNat ≤ 32
  let front := text.toList.dropWhile isBlank
  (front.reverse.dropWhile isBlank).reverse.filter fun c => c ≠ '\t' && c ≠ '\n' && c ≠ '\r'

/-- Takes an address apart. -/
def parse? (text : String) : Option WebAddress :=
  let text := trim text
  let scheme := String.ofList ((text.takeWhile (· ≠ ':')).map Char.toLower)
  match text.dropWhile (· ≠ ':') with
  | ':' :: rest => if scheme = "http" || scheme = "https" then ofRest? scheme rest else none
  | _ => none

/-- An address with one more parameter in its query. -/
def withParameter (a : WebAddress) (name value : String) : WebAddress :=
  let parameter := name ++ "=" ++ String.ofList (parameterValue value)
  let query := match a.query with
    | none => parameter
    | some q => if q.isEmpty then parameter else q ++ "&" ++ parameter
  { a with query := some query }

/-- What a request asks the server for: the path and the query. -/
def target (a : WebAddress) : String :=
  let path := "/" ++ String.intercalate "/" a.steps
  match a.query with
  | none => path
  | some q => path ++ "?" ++ q

end WebAddress

end Cosigner
