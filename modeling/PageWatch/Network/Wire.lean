import PageWatch.Data.Json
import PageWatch.Network.Exchange

/-!
# Messages on the wire

A message is a head of lines, an empty line, and a body. Each exchange has a
connection of its own, so a body ends with the connection unless the head gives
its length or announces chunks, each of which begins with its own length.
-/

set_option autoImplicit false

namespace PageWatch

open Text

structure Destination where
  host : Url.Host
  number : Option Nat
  target : List Char
  deriving Repr, DecidableEq

namespace Destination

def query (url : String) : List Char :=
  let cs := (Url.significant url.toList).takeWhile (· ≠ '#')
  match cs.dropWhile (· ≠ '?') with
  | [] => []
  | mark :: r => mark :: Url.percentEncode [' ', '"', '<', '>', '\''] r

/-- Only plain connections are spoken. -/
def ofUrl? (url : String) : Option Destination :=
  match Url.parse url with
  | .error _ => none
  | .ok u =>
    if u.scheme = "http".toList then
      u.host.map fun host => ⟨host, u.portNumber, u.path ++ query url⟩
    else none

def hostText (d : Destination) : List Char :=
  match d.number with
  | some n => d.host.text ++ ':' :: decimal n
  | none => d.host.text

def machine (d : Destination) : String :=
  String.ofList (d.host.text.filter fun c => c != '[' && c != ']')

end Destination

namespace Request

def content (r : Request) : Option (List UInt8) := r.body.map fun d => Url.bytes (Json.write d)

def headLine (name : String) (value : List Char) : List Char :=
  name.toList ++ ':' :: ' ' :: value ++ ['\r', '\n']

def methodName : Method → String
  | .get => "GET"
  | .post => "POST"

def contentHead : Option (List UInt8) → List Char
  | some content =>
    headLine "content-type" "application/json".toList ++
      headLine "content-length" (decimal content.length)
  | none => []

def head (r : Request) (d : Destination) : List Char :=
  (methodName r.method).toList ++ ' ' :: d.target ++ " HTTP/1.1\r\n".toList ++
    headLine "host" d.hostText ++
    ((r.userAgent.map fun agent => headLine "user-agent" agent.toList).getD []) ++
    headLine "accept" "*/*".toList ++ headLine "connection" "close".toList ++
    contentHead r.content ++ ['\r', '\n']

def bytes (r : Request) (d : Destination) : List UInt8 :=
  Url.bytes (r.head d) ++ r.content.getD []

end Request

namespace Reply

/-- The bytes of a line as characters, without the carriage return at its end. The line is given
in reverse. -/
def lineText (reversed : List UInt8) : List Char :=
  let line := match reversed with
    | 13 :: r => r
    | line => line
  line.reverse.map fun b => Char.ofNat b.toNat

/-- The lines before the first empty one, and all that follows it. Both the line being read and
the lines before it are kept in reverse. -/
def readHead (line : List UInt8) (done : List (List Char)) :
    List UInt8 → Option (List (List Char) × List UInt8)
  | [] => none
  | b :: r =>
    if b = 10 then
      let text := lineText line
      if text.isEmpty then some (done.reverse, r) else readHead [] (text :: done) r
    else readHead (b :: line) done r

def readStatus? (line : List Char) : Option Nat :=
  match line.splitOn ' ' with
  | version :: code :: _ =>
    if "HTTP/1.".toList.isPrefixOf version ∧ code.length = 3 ∧ code.all isDigit then
      some (decimalNumber code)
    else none
  | _ => none

def readField? (line : List Char) : Option (String × String) :=
  match line.span (· ≠ ':') with
  | (name, _ :: value) => some (String.ofList (name.map lower), trimmed (String.ofList value))
  | _ => none

abbrev Fields := List (String × String)

def field? (fields : Fields) (name : String) : Option String :=
  (fields.find? (·.1 == name)).map (·.2)

def readLength? (bs : List UInt8) : Option (Nat × List UInt8) :=
  let (line, rest) := bs.span (· ≠ 10)
  let digits := (line.map fun b => Char.ofNat b.toNat).takeWhile isHexDigit
  if digits.isEmpty then none else some (hexNumber digits, rest.drop 1)

def readChunks : Nat → List UInt8 → Option (List UInt8)
  | 0, _ => none
  | fuel + 1, bs =>
    match readLength? bs with
    | none => none
    | some (0, _) => some []
    | some (n, rest) =>
      if rest.length < n then none
      else (readChunks fuel ((rest.drop n).dropWhile (· ≠ 10) |>.drop 1)).map (rest.take n ++ ·)

def readBody? (fields : Fields) (rest : List UInt8) : Option (List UInt8) :=
  if (field? fields "transfer-encoding").any (lowered · == "chunked") then
    readChunks (rest.length + 1) rest
  else
    match field? fields "content-length" with
    | none => some rest
    | some length =>
      let n := decimalNumber length.toList
      if !length.isEmpty ∧ length.toList.all isDigit ∧ n ≤ rest.length then some (rest.take n)
      else none

def ofBytes? (bs : List UInt8) : Option Reply := do
  let (lines, rest) ← readHead [] [] bs
  let status ← lines.head?.bind readStatus?
  let fields : Fields := (lines.drop 1).filterMap readField?
  let body ← readBody? fields rest
  return { status, contentType := field? fields "content-type", body }

end Reply

end PageWatch
