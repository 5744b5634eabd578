import StubCompiler.Url.Host

/-!
# Addresses of services

An address is an absolute `http` or `https` URL.  Of such a URL the library needs the user, if one is
named, the host, the port and the request target, that is, the path and the query in the form in which
they are sent: with dot segments resolved and with characters that a target cannot hold written as
percent escapes.
-/

namespace StubCompiler

structure Credentials where
  user : Text
  password : Option Text
deriving DecidableEq, Repr

structure Url where
  credentials : Option Credentials
  host : ServiceHost
  port : Option Nat
  /-- The path and the query, as they are sent. -/
  target : Text
deriving DecidableEq, Repr

/-- The credentials that a text stands for: a user and, after a colon, a password.  Nobody is named
if both are empty or if the user is no text. -/
def Credentials.read? (t : Text) : Option Credentials := do
  let (user, password) := (Text.cutAt? ':' t).getD (t, [])
  let user ← Percent.decode? user
  let password := if password = [] then none else Percent.decode? password
  if user = [] && password.isNone then none else some ⟨user, password⟩

namespace Url

/-! ### Targets -/

def pathReserved : Text := "\"<>\x60#?\x7b\x7d"

def queryReserved : Text := "\"<>#\x27"

def isDot (segment : Text) : Bool :=
  let segment := segment.map Char.toLower
  segment = "." || segment = "%2e"

def isDotDot (segment : Text) : Bool :=
  let segment := segment.map Char.toLower
  segment = ".." || segment = ".%2e" || segment = "%2e." || segment = "%2e%2e"

/-- The segment is a letter and a colon or a bar, as drives are named. -/
def isDrive (segment : Text) : Bool :=
  match segment with
  | [letter, mark] => letter.isAlpha && (mark = ':' || mark = '|')
  | _ => false

/-- The segments of the directory above; there is none above a drive. -/
def above (done : List Text) : List Text :=
  if done.getLast?.any isDrive then done else done.dropLast

/-- Segments without the dot segments among them; `done` are the segments so far, and a dot segment at
the end leaves an empty one. -/
def resolveDots (done : List Text) : List Text → List Text
  | [] => done
  | [segment] =>
    if isDotDot segment then above done ++ [[]]
    else if isDot segment then done ++ [[]]
    else done ++ [segment]
  | segment :: segments =>
    if isDotDot segment then resolveDots (above done) segments
    else if isDot segment then resolveDots done segments
    else resolveDots (done ++ [segment]) segments

/-- The target for the text after the authority: the path, from the slash on, and the query. -/
def targetOf (path : Text) (query : Option Text) : Text :=
  let segments := (path.map fun c => if c = '\\' then '/' else c).splitOn '/'
  let segments := resolveDots [] (if path = [] then [[]] else segments.tail)
  let path : Text := segments.flatMap fun segment => '/' :: Percent.escape pathReserved segment
  match query with
  | none => path
  | some query => path ++ "?" ++ Percent.escape queryReserved query

/-! ### The whole address -/

def port? : Text → Option (Option Nat)
  | [] => some none
  | ':' :: digits =>
    match Text.numeral? 10 digits with
    | some number =>
      if digits = [] then some none else if number < 65536 then some (some number) else none
    | none => none
  | _ => none

def read? (t : Text) : Option Url := do
  let isControl (c : Char) : Bool := c.toNat ≤ 0x20
  let t : Text := Text.dropEnd isControl (t.dropWhile isControl)
  let t := t.filter fun c => !(c = '\t' || c = '\n' || c = '\r')
  let (scheme, rest) ← Text.cutAt? ':' t
  let scheme := scheme.map Char.toLower
  if scheme ≠ "http" && scheme ≠ "https" then none
  let rest := rest.dropWhile fun c => c = '/' || c = '\\'
  let rest := rest.takeWhile (· != '#')
  let (authority, rest) := rest.span fun c => !(c = '/' || c = '\\' || c = '?')
  let (user, name) := (Text.cutLast? "@" authority).getD ([], authority)
  let (host, afterHost) ← ServiceHost.cut? name
  let port ← port? afterHost
  let (path, query) := match Text.cutAt? '?' rest with
    | some (path, query) => (path, some query)
    | none => (rest, none)
  return ⟨Credentials.read? user, host, port, targetOf path query⟩

end Url

end StubCompiler
