import PageWatch.Url.Percent

/-!
# Paths

A path is a list of segments. A segment of one dot is dropped, and one of two
dots takes the segment before it away.
-/

set_option autoImplicit false

namespace PageWatch.Url

open Text

inductive Kind where
  | web
  | file
  | other
  deriving Repr, DecidableEq

def Kind.isSlash (k : Kind) (c : Char) : Bool := c == '/' || (c == '\\' && k != .other)

def endsPath (c : Char) : Bool := c == '?' || c == '#'

def encodedInPath : List Char :=
  [' ', '"', '#', '<', '>', '?', '^', '\x60', '\x7b', '\x7d']

/-- Dots may be written as `%2e`. -/
def dots (cs : List Char) : List Char := replaceDots 0 cs
where
  replaceDots : Nat → List Char → List Char
    | _, [] => []
    | passed + 1, _ :: r => replaceDots passed r
    | 0, c :: r =>
      if c = '%' ∧ (r.take 2 = ['2', 'e'] ∨ r.take 2 = ['2', 'E']) then '.' :: replaceDots 2 r
      else c :: replaceDots 0 r

def isDriveLetter (cs : List Char) : Bool :=
  match cs with
  | [a, b] => isLetter a && (b == ':' || b == '|')
  | _ => false

/-- Takes the last segment away; a drive of a file path stays. -/
def shorten (k : Kind) : List (List Char) → List (List Char)
  | [] => []
  | last :: rest => if k == .file && isDriveLetter last then last :: rest else rest

/-- `done` holds the segments so far in reverse. -/
def addSegment (k : Kind) (done : List (List Char)) (segment : List Char) (isLast : Bool) :
    List (List Char) :=
  let close (segments : List (List Char)) := if isLast then [] :: segments else segments
  match dots segment with
  | ['.', '.'] => close (shorten k done)
  | ['.'] => close done
  | _ => percentEncode encodedInPath segment :: done

def addSegments (k : Kind) (done : List (List Char)) : List (List Char) → List (List Char)
  | [] => done
  | [segment] => addSegment k done segment true
  | segment :: rest => addSegments k (addSegment k done segment false) rest

def pathAfterHost (k : Kind) (cs : List Char) : List Char :=
  let cs := cs.takeWhile (!endsPath ·)
  if cs.isEmpty && k == .other then []
  else
    let cs := match cs with
      | c :: r => if k.isSlash c then r else c :: r
      | [] => []
    let path := (addSegments k [] (cs.splitOnP k.isSlash)).reverse.flatMap ('/' :: ·)
    if k == .file then '/' :: path.dropWhile (· == '/') else path

end PageWatch.Url
