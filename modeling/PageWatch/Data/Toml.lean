import PageWatch.Data.TomlScalar

/-!
# TOML texts

A text is a sequence of headers and pairs. Headers open tables, and keys of
several names reach into tables below the one that is open. A table is defined
once: by its header, by pairs that reach into it, or in place.
-/

set_option autoImplicit false

namespace PageWatch.Toml

/-- How a table came to be. -/
inductive Origin where
  | header
  | passedByHeader
  | passedByKey
  deriving Repr, DecidableEq

inductive Node where
  | value (d : Datum)
  | table (origin : Origin) (entries : List (String × Node))
  | series (tables : List (List (String × Node)))

abbrev Entries := List (String × Node)

mutual

def Node.toDatum : Node → Datum
  | .value d => d
  | .table _ entries => .table (toPairs entries)
  | .series tables => .list (toTables tables)

def toPairs : Entries → List (String × Datum)
  | [] => []
  | (k, n) :: rest => (k, n.toDatum) :: toPairs rest

def toTables : List Entries → List Datum
  | [] => []
  | t :: rest => .table (toPairs t) :: toTables rest

end

namespace Entries

def get? (entries : Entries) (key : String) : Option Node :=
  (entries.find? (·.1 == key)).map (·.2)

def put (entries : Entries) (key : String) (n : Node) : Entries :=
  entries.map fun (k, m) => if k = key then (k, n) else (k, m)

def erase (entries : Entries) (key : String) : Entries := entries.filter (·.1 != key)

/-- Changes the table at a path, which `change` may refuse. Tables on the way that are missing are
made; a key may not reach into a table that has a header. -/
def changeAt {α : Type} (byKey : Bool) (change : Origin → Entries → Option (Entries × α)) :
    List String → Origin → Entries → Option (Entries × α)
  | [], origin, entries => change origin entries
  | key :: path, _, entries =>
    match entries.get? key with
    | none =>
      let origin := if byKey then Origin.passedByKey else .passedByHeader
      (changeAt byKey change path origin []).map fun (inner, a) =>
        (entries ++ [(key, .table origin inner)], a)
    | some (.value _) => none
    | some (.table origin inner) =>
      if byKey && origin == .header then none
      else (changeAt byKey change path origin inner).map fun (inner, a) =>
        (entries.put key (.table origin inner), a)
    | some (.series tables) =>
      match tables.getLast? with
      | none => none
      | some last =>
        (changeAt byKey change path .header last).map fun (inner, a) =>
          (entries.put key (.series (tables.dropLast ++ [inner])), a)

def addPair (names : List String) (d : Datum) (entries : Entries) : Option Entries :=
  match names.getLast? with
  | none => none
  | some key =>
    let path := names.dropLast
    let add (origin : Origin) (inner : Entries) : Option (Entries × Unit) :=
      if (origin == .passedByKey) == path.isEmpty then none
      else if (inner.get? key).isSome then none
      else some (inner ++ [(key, .value d)], ())
    (changeAt true add path .header entries).map (·.1)

end Entries

def skipLines : Nat → List Char → List Char
  | 0, cs => cs
  | fuel + 1, cs =>
    match skip cs with
    | '#' :: r =>
      match lineEnd? (skipComment ('#' :: r)) with
      | some rest => skipLines fuel rest
      | none => '#' :: r
    | cs =>
      match lineEnd? cs with
      | some rest => skipLines fuel rest
      | none => cs

def skipAll (cs : List Char) : List Char := skipLines cs.length cs

abbrev Reader := List Char → Option (Datum × List Char)

def readItems (read : Reader) : Nat → List Char → Option (List Datum × List Char)
  | 0, _ => none
  | fuel + 1, cs =>
    match skipAll cs with
    | ']' :: rest => some ([], rest)
    | cs =>
      match read cs with
      | none => none
      | some (d, rest) =>
        match skipAll rest with
        | ']' :: rest => some ([d], rest)
        | ',' :: rest => (readItems read fuel rest).map fun (items, rest) => (d :: items, rest)
        | _ => none

def readPair (read : Reader) (cs : List Char) :
    Option (List String × Datum × List Char) := do
  let (names, rest) ← readKey cs
  let (d, rest) ← read (skip (← readMark '=' rest))
  return (names, d, rest)

def readPairs (read : Reader) : Nat → Entries → List Char → Option (Entries × List Char)
  | 0, _, _ => none
  | fuel + 1, entries, cs => do
    let (names, d, rest) ← readPair read cs
    let entries ← entries.addPair names d
    match skip rest with
    | '\x7d' :: rest => return (entries, rest)
    | ',' :: rest => readPairs read fuel entries rest
    | _ => none

/-- A value with at most `depth` lists and tables around any of its parts. -/
def readValue : Nat → Reader
  | 0, cs => readScalar cs
  | depth + 1, cs =>
    match cs with
    | '[' :: r => (readItems (readValue depth) cs.length r).map fun (ds, rest) => (.list ds, rest)
    | '\x7b' :: r =>
      match skip r with
      | '\x7d' :: rest => some (.table [], rest)
      | r =>
        (readPairs (readValue depth) cs.length [] r).map fun (entries, rest) =>
          (.table (toPairs entries), rest)
    | _ => readScalar cs

def depthLimit : Nat := 79

structure Draft where
  root : Entries := []
  path : List String := []
  inSeries : Bool := false
  current : Entries := []

namespace Draft

def close (s : Draft) : Option Entries :=
  match s.path.getLast? with
  | none => some s.current
  | some key =>
    let place (_ : Origin) (entries : Entries) : Option (Entries × Unit) :=
      if s.inSeries then
        match entries.get? key with
        | some (.series tables) => some (entries.put key (.series (tables ++ [s.current])), ())
        | _ => none
      else some (entries ++ [(key, .table .header s.current)], ())
    (Entries.changeAt false place s.path.dropLast .header s.root).map (·.1)

/-- Opens a table; its path may have been passed by headers before. -/
def openTable (path : List String) (s : Draft) : Option Draft := do
  let root ← s.close
  let key ← path.getLast?
  let take (_ : Origin) (entries : Entries) : Option (Entries × Entries) :=
    match entries.get? key with
    | none => some (entries, [])
    | some (.table .passedByHeader inner) => some (entries.erase key, inner)
    | some _ => none
  let (root, current) ← Entries.changeAt false take path.dropLast .header root
  return { root, path, inSeries := false, current }

def openNext (path : List String) (s : Draft) : Option Draft := do
  let root ← s.close
  let key ← path.getLast?
  let prepare (_ : Origin) (entries : Entries) : Option (Entries × Unit) :=
    match entries.get? key with
    | none => some (entries ++ [(key, .series [])], ())
    | some (.series _) => some (entries, ())
    | some _ => none
  let (root, _) ← Entries.changeAt false prepare path.dropLast .header root
  return { root, path, inSeries := true, current := [] }

end Draft

def readHeader (closing : List Char) (cs : List Char) : Option (List String × List Char) := do
  let (names, rest) ← readKey cs
  if closing.isPrefixOf rest then
    return (names, ← nextLine? (rest.drop closing.length))
  else none

def readLine (s : Draft) : List Char → Option (Draft × List Char)
  | '#' :: r => (nextLine? ('#' :: r)).map fun rest => (s, rest)
  | '[' :: '[' :: r => do
    let (names, rest) ← readHeader [']', ']'] r
    return (← s.openNext names, rest)
  | '[' :: r => do
    let (names, rest) ← readHeader [']'] r
    return (← s.openTable names, rest)
  | cs =>
    match lineEnd? cs with
    | some rest => some (s, rest)
    | none => do
      let (names, d, rest) ← readPair (readValue depthLimit) cs
      return ({ s with current := ← s.current.addPair names d }, ← nextLine? rest)

def readLines : Nat → Draft → List Char → Option Draft
  | 0, _, _ => none
  | fuel + 1, s, cs =>
    match skip cs with
    | [] => some s
    | cs =>
      match readLine s cs with
      | some (s, rest) => readLines fuel s rest
      | none => none

def withoutMark : List Char → List Char
  | '\uFEFF' :: r => r
  | cs => cs

def read? (cs : List Char) : Option Datum := do
  let s ← readLines (cs.length + 1) {} (withoutMark cs)
  return .table (toPairs (← s.close))

end PageWatch.Toml
