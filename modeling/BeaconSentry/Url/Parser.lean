import BeaconSentry.Url.Basic
import BeaconSentry.Url.Host

/-!
This module contains the reading of URLs, on their own or relative to another URL.
-/

namespace BeaconSentry
namespace Url

/-- The port that web schemes use unless another is given; other schemes have none. -/
def defaultPort (scheme : String) : Option Nat :=
  match scheme with
  | "http" | "ws" => some 80
  | "https" | "wss" => some 443
  | "ftp" => some 21
  | _ => none

/-- Whether a scheme follows the rules of the web: it has a host, and backslashes count as slashes. -/
def isWeb (scheme : String) : Bool := (defaultPort scheme).isSome || scheme == "file"

def isSlash (web : Bool) (c : Char) : Bool := c == '/' || (web && c == '\\')

def endsPath (c : Char) : Bool := c == '?' || c == '#'

def cleaned (s : String) : List Char :=
  let isEdge (c : Char) : Bool := c.toNat ≤ 0x20
  let trimmed := ((s.toList.dropWhile isEdge).reverse.dropWhile isEdge).reverse
  trimmed.filter fun c => c != '\t' && c != '\n' && c != '\r'

def scheme? (cs : List Char) : Option (String × List Char) :=
  let isSchemeChar (c : Char) : Bool := c.isAlphanum || "+-.".toList.contains c
  match cs.takeWhile isSchemeChar, cs.dropWhile isSchemeChar with
  | c :: name, ':' :: rest =>
    if c.isAlpha then some (String.ofList ((c :: name).map Char.toLower), rest) else none
  | _, _ => none

def tail (web : Bool) (cs : List Char) : Option String × Option String :=
  let (query, rest) :=
    match cs with
    | '?' :: rest =>
      (some (Percent.encode (if web then Percent.webQuery else Percent.query)
        (rest.takeWhile (· != '#'))), rest.dropWhile (· != '#'))
    | cs => (none, cs)
  match rest with
  | '#' :: rest => (query, some (Percent.encode Percent.fragment rest))
  | _ => (query, none)

/-- A segment in small letters in which escaped dots are dots. -/
def undotted : List Char → List Char
  | '%' :: '2' :: e :: rest =>
    if e == 'e' || e == 'E' then '.' :: undotted rest else '%' :: '2' :: undotted (e :: rest)
  | c :: rest => c :: undotted rest
  | [] => []
termination_by cs => cs.length

/--
Append pieces of a path to segments, latest first: one dot stays at a segment, two dots go back by one, and
such a piece at the end leaves an empty segment.
-/
def walk (done : List String) : List (List Char) → List String
  | [] => done
  | piece :: rest =>
    let plain := undotted piece
    if plain == ['.', '.'] then walk (if rest.isEmpty then "" :: done.drop 1 else done.drop 1) rest
    else if plain == ['.'] then walk (if rest.isEmpty then "" :: done else done) rest
    else walk (Percent.encode Percent.path piece :: done) rest

def append (web : Bool) (segments : List String) (path : List Char) : UrlPath :=
  .segments (walk segments.reverse (Host.splitWhere (isSlash web) path)).reverse

def rooted (web : Bool) (cs : List Char) : UrlPath :=
  match cs with
  | c :: rest => if isSlash web c then append web [] rest else append web [] cs
  | [] => .segments (if web then [""] else [])

def finish (scheme : String) (authority : Option Authority) (path : List Char → UrlPath)
    (cs : List Char) : Url :=
  let (query, fragment) := tail (isWeb scheme) (cs.dropWhile (!endsPath ·))
  { scheme, authority, path := path (cs.takeWhile (!endsPath ·)), query, fragment }

/-- A port: nothing for no digits or the usual port of the scheme. -/
def port? (scheme : String) (cs : List Char) : Option (Option Nat) :=
  if cs.isEmpty then some none
  else do
    let n ← Host.inBase? 10 cs
    if 65535 < n then none
    else some (if defaultPort scheme == some n then none else some n)

def splitPort (inside : Bool) : List Char → List Char × Option (List Char)
  | [] => ([], none)
  | c :: rest =>
    if c == ':' && !inside then ([], some rest)
    else
      let (host, port) := splitPort (if c == '[' then true else if c == ']' then false else inside) rest
      (c :: host, port)

def splitUser (cs : List Char) : Option (List Char) × List Char :=
  if cs.contains '@' then
    let backwards := cs.reverse
    (some (backwards.dropWhile (· != '@')).tail.reverse, (backwards.takeWhile (· != '@')).reverse)
  else
    (none, cs)

def authority? (scheme : String) (cs : List Char) : Option Authority := do
  let (user, rest) := splitUser cs
  let (host, port) := splitPort false rest
  let name ← if isWeb scheme then Host.web? host else Host.other? host
  if name.isEmpty && (port.isSome || user.any (· != [])) then none
  else if host.isEmpty && user.isSome then none
  else
    let user := user.getD []
    pure {
      user := Percent.encode Percent.userInfo (user.takeWhile (· != ':'))
      password := Percent.encode Percent.userInfo (user.dropWhile (· != ':')).tail
      host := name
      port := ← port? scheme (port.getD []) }

def afterSlashes? (scheme : String) (cs : List Char) : Option Url := do
  let web := isWeb scheme
  let endsAuthority (c : Char) : Bool := isSlash web c || endsPath c
  let authority ← authority? scheme (cs.takeWhile (!endsAuthority ·))
  pure (finish scheme (some authority) (rooted web) (cs.dropWhile (!endsAuthority ·)))

/-- Read what follows the scheme of a file URL. The own host of the machine is not written. -/
def file? (cs : List Char) : Option Url :=
  let slashes := cs.takeWhile (isSlash true)
  let nowhere : Authority := ⟨"", "", "", none⟩
  if slashes.length == 2 then do
    let rest := cs.drop 2
    let endsHost (c : Char) : Bool := isSlash true c || endsPath c
    let name := rest.takeWhile (!endsHost ·)
    let host ← if name.isEmpty then some "" else Host.web? name
    let authority := { nowhere with host := if host == "localhost" then "" else host }
    pure (finish "file" (some authority) (rooted true) (rest.dropWhile (!endsHost ·)))
  else
    some (finish "file" (some nowhere) (rooted true) (cs.drop (slashes.length - 1)))

def afterScheme? (scheme : String) (cs : List Char) : Option Url :=
  if scheme == "file" then file? cs
  else if isWeb scheme then afterSlashes? scheme (cs.dropWhile (isSlash true))
  else
    match cs with
    | '/' :: '/' :: rest => afterSlashes? scheme rest
    | '/' :: _ => some (finish scheme none (rooted false) cs)
    | cs => some (finish scheme none (fun path => .plain (Percent.encode "" path)) cs)

def parse? (s : String) : Option Url := do
  let (scheme, rest) ← scheme? (cleaned s)
  afterScheme? scheme rest

def relative? (base : Url) (cs : List Char) : Option Url :=
  let web := isWeb base.scheme
  let (query, fragment) := tail web (cs.dropWhile (!endsPath ·))
  match cs, base.path with
  | '#' :: _, _ => some { base with fragment }
  | _, .plain _ => none
  | [], _ => some { base with fragment := none }
  | '?' :: _, _ => some { base with query, fragment }
  | c :: rest, .segments names =>
    if isSlash web c then
      match rest with
      | d :: after =>
        if isSlash web d then afterSlashes? base.scheme (if web then after.dropWhile (isSlash web) else after)
        else some (finish base.scheme base.authority (rooted web) cs)
      | [] => some (finish base.scheme base.authority (rooted web) cs)
    else
      some (finish base.scheme base.authority (append web names.dropLast) cs)

def resolve? (base : Url) (reference : String) : Option Url :=
  let cs := cleaned reference
  match scheme? cs with
  | none => relative? base cs
  | some (scheme, rest) =>
    if scheme == base.scheme && isWeb scheme && !(rest.take 2).all (isSlash true) then relative? base rest
    else afterScheme? scheme rest

def join? (base : Url) (path : String) : Option Url :=
  let base :=
    match base.path with
    | .segments names =>
      if names.getLast? == some "" then base else { base with path := .segments (names ++ [""]) }
    | .plain _ => base
  resolve? base (String.ofList (path.toList.dropWhile (· == '/')))

end Url
end BeaconSentry
