import PageWatch.Data.Double

/-!
# Structured data

What data files hold, before it is known what it is for. The entries of a table
stand in the order in which they were written.
-/

set_option autoImplicit false

namespace PageWatch

inductive Datum where
  | null
  | boolean (b : Bool)
  | integer (n : Int)
  | float (d : Double)
  | text (s : String)
  | moment
  | list (items : List Datum)
  | table (entries : List (String × Datum))
  deriving Repr

namespace Datum

def isSigned (n : Int) : Bool := -0x8000000000000000 ≤ n && n < 0x8000000000000000

def isUnsigned (n : Int) : Bool := 0 ≤ n && n < 0x10000000000000000

/-- Puts an entry into a list sorted by key; an entry of the same key is replaced. -/
def insertEntry {α : Type} (key : String) (value : α) : List (String × α) → List (String × α)
  | [] => [(key, value)]
  | (k, v) :: rest =>
    if key < k then (key, value) :: (k, v) :: rest
    else if key = k then (key, value) :: rest
    else (k, v) :: insertEntry key value rest

def sortEntries {α : Type} (entries : List (String × α)) : List (String × α) :=
  entries.foldl (fun sorted (k, v) => insertEntry k v sorted) []

mutual

/-- Every table is sorted by key, of equal keys the last entry counting. -/
def sorted : Datum → Datum
  | list items => list (sortedItems items)
  | table entries => table (sortEntries (sortedEntries entries))
  | d => d

def sortedItems : List Datum → List Datum
  | [] => []
  | d :: rest => d.sorted :: sortedItems rest

def sortedEntries : List (String × Datum) → List (String × Datum)
  | [] => []
  | (k, d) :: rest => (k, d.sorted) :: sortedEntries rest

end

def entry? (d : Datum) (key : String) : Option Datum :=
  match d with
  | table entries => (entries.find? (·.1 == key)).map (·.2)
  | _ => none

end Datum

end PageWatch
