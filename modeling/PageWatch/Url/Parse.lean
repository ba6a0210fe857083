import PageWatch.Url.Host
import PageWatch.Url.Path

/-!
# URLs

Of a URL the scheme, the host with its number, and the path are kept. Blanks and
controls at the ends, and tabs and line ends anywhere, do not belong to it.
-/

set_option autoImplicit false

namespace PageWatch

open Text

structure Url where
  scheme : List Char
  host : Option Url.Host
  portNumber : Option Nat
  path : List Char
  isOpaque : Bool
  deriving Repr, DecidableEq

namespace Url

def isTrimmed (c : Char) : Bool := c.toNat ≤ 0x20

def isIgnored (c : Char) : Bool := c == '\t' || c == '\n' || c == '\r'

def significant (cs : List Char) : List Char :=
  let cs := cs.dropWhile isTrimmed
  let cs := (cs.reverse.dropWhile isTrimmed).reverse
  cs.filter (!isIgnored ·)

def isSchemeCharacter (c : Char) : Bool :=
  isLetter c || isDigit c || c == '+' || c == '-' || c == '.'

def splitScheme? (cs : List Char) : Option (List Char × List Char) :=
  if cs.head?.any isLetter then
    match cs.dropWhile isSchemeCharacter with
    | ':' :: rest => some ((cs.takeWhile isSchemeCharacter).map lower, rest)
    | _ => none
  else none

def kindOf (scheme : List Char) : Kind :=
  if scheme = "file".toList then .file
  else if ["http", "https", "ws", "wss", "ftp"].any (·.toList = scheme) then .web
  else .other

def defaultPort? (scheme : List Char) : Option Nat :=
  if scheme = "http".toList ∨ scheme = "ws".toList then some 80
  else if scheme = "https".toList ∨ scheme = "wss".toList then some 443
  else if scheme = "ftp".toList then some 21
  else none

/-- The text up to the slash, question mark or hash that ends an authority. -/
def authority (k : Kind) (cs : List Char) : List Char :=
  cs.takeWhile fun c => !(k.isSlash c || endsPath c)

/-- The text after the last `@` of the authority, and whether a user stands before it. -/
def withoutUser (k : Kind) (cs : List Char) : Except UrlError (Bool × List Char) :=
  let whole := authority k cs
  if whole.contains '@' then
    let tail := (whole.reverse.takeWhile (· ≠ '@')).length
    let user := whole.take (whole.length - tail - 1)
    let rest := cs.drop (whole.length - tail)
    if user.isEmpty && tail == 0 && !rest.isEmpty then .error .emptyHost
    else .ok (!user.isEmpty && user != [':'], rest)
  else .ok (false, cs)

/-- The host ends at a colon outside brackets, or with the authority. -/
def hostLength (k : Kind) (inBrackets : Bool) : List Char → Nat
  | [] => 0
  | c :: r =>
    if (c == ':' && !inBrackets) || k.isSlash c || endsPath c then 0
    else 1 + hostLength k (c == '[' || (inBrackets && c != ']')) r

def hostOf (k : Kind) (cs : List Char) : Except UrlError Host :=
  if k == .other then opaqueHost cs
  else if cs.isEmpty then .error .emptyHost
  else domainHost cs

def portFrom (n : Nat) (any : Bool) : List Char → Except UrlError (Option Nat × List Char)
  | [] => .ok (if any then some n else none, [])
  | c :: r =>
    if isDigit c then
      let n := 10 * n + digitValue c
      if 65535 < n then .error .badPort else portFrom n true r
    else if c == '/' || c == '\\' || endsPath c then .ok (if any then some n else none, c :: r)
    else .error .badPort

def isEmptyName : Host → Bool
  | .name [] => true
  | _ => false

def afterSlashes (scheme cs : List Char) : Except UrlError Url := do
  let k := kindOf scheme
  let (hasUser, rest) ← withoutUser k cs
  let n := hostLength k false rest
  let host ← hostOf k (rest.take n)
  let rest := rest.drop n
  if isEmptyName host && (rest.head? = some ':' || hasUser) then throw .emptyHost
  let (number, rest) ← match rest with
    | ':' :: r => portFrom 0 false r
    | _ => .ok (none, rest)
  return {
    scheme
    host := if isEmptyName host then none else some host
    portNumber := if number = defaultPort? scheme then none else number
    path := pathAfterHost k rest
    isOpaque := false }

def afterFileSlashes? (cs : List Char) : Option (List Char) :=
  match cs with
  | a :: b :: r => if Kind.file.isSlash a && Kind.file.isSlash b then some r else none
  | _ => none

/-- A file of this machine has no host. -/
def fileHost (cs : List Char) : Except UrlError (Option Host) := do
  let name := authority .file cs
  if name.isEmpty || isDriveLetter name then return none
  let host ← domainHost name
  return if host = .name "localhost".toList then none else some host

def fileUrl (cs : List Char) : Except UrlError Url := do
  match afterFileSlashes? cs with
  | none => return ⟨"file".toList, none, none, pathAfterHost .file cs, false⟩
  | some rest =>
    let host ← fileHost rest
    let rest := if host.isSome then rest.drop (authority .file rest).length else rest
    let path := pathAfterHost .file rest
    let onDrive := isDriveLetter ((path.drop 1).takeWhile (· ≠ '/'))
    return ⟨"file".toList, if onDrive then none else host, none, path, false⟩

def ofScheme (scheme rest : List Char) : Except UrlError Url :=
  match kindOf scheme with
  | .file => fileUrl rest
  | .web => afterSlashes scheme (rest.dropWhile Kind.web.isSlash)
  | .other =>
    match rest with
    | '/' :: '/' :: r => afterSlashes scheme r
    | '/' :: _ => .ok ⟨scheme, none, none, pathAfterHost .other rest, false⟩
    | _ => .ok ⟨scheme, none, none, rest.takeWhile (!endsPath ·), true⟩

def parse (text : String) : Except UrlError Url :=
  match splitScheme? (significant text.toList) with
  | some (scheme, rest) => ofScheme scheme rest
  | none => .error .noBase

/-- What follows the two or more slashes that begin a link to another host. -/
def afterLinkSlashes? (cs : List Char) : Option (List Char) :=
  match cs with
  | '/' :: '/' :: r => some r
  | a :: b :: r =>
    if Kind.web.isSlash a && Kind.web.isSlash b then some (r.dropWhile Kind.web.isSlash) else none
  | _ => none

/-- Whether a link without a scheme can be put onto a URL. Only a link to another host can fail
by itself. -/
def checkRelative (base : Url) (link : String) : Except UrlError Unit :=
  let cs := significant link.toList
  if cs.head? = some '#' then .ok ()
  else if base.isOpaque then .error .opaqueBase
  else match kindOf base.scheme with
    | .file => match afterFileSlashes? cs with
      | some rest => (fileHost rest).map fun _ => ()
      | none => .ok ()
    | _ => match afterLinkSlashes? cs with
      | some rest => (afterSlashes base.scheme rest).map fun _ => ()
      | none => .ok ()

end Url

end PageWatch
