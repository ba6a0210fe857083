import PageWatch.Data.Datum
import PageWatch.Text.Quoted

/-!
# Reading values out of structured data

A reader asks for a type. What it does not accept is reported with what was found
and what was wanted.
-/

set_option autoImplicit false

namespace PageWatch

/-- The format that the data were written in decides some details. -/
inductive DataFormat where
  | json
  | toml
  deriving Repr, DecidableEq

inductive DecodeError where
  | wrongType (found wanted : String)
  | wrongValue (found wanted : String)
  | missingField (name : String)
  | unknownVariant (name : String) (allowed : List String)
  | wrongLength (length : Nat) (wanted : String)
  | rejected (reason : String)
  deriving Repr, DecidableEq

def backquoted (s : String) : String := "\x60" ++ s ++ "\x60"

def oneOf : List String → String
  | [] => "there are no variants"
  | [a] => "expected " ++ backquoted a
  | [a, b] => "expected " ++ backquoted a ++ " or " ++ backquoted b
  | names => "expected one of " ++ ", ".intercalate (names.map backquoted)

def DecodeError.message : DecodeError → String
  | wrongType found wanted => "invalid type: " ++ found ++ ", expected " ++ wanted
  | wrongValue found wanted => "invalid value: " ++ found ++ ", expected " ++ wanted
  | missingField name => "missing field " ++ backquoted name
  | unknownVariant name allowed =>
    "unknown variant " ++ backquoted name ++ ", " ++ oneOf allowed
  | wrongLength length wanted => "invalid length " ++ toString length ++ ", expected " ++ wanted
  | rejected reason => reason

abbrev Decoded (α : Type) := Except DecodeError α

namespace Datum

def describe (f : DataFormat) : Datum → String
  | null => "null"
  | boolean b => "boolean " ++ backquoted (if b then "true" else "false")
  | integer n => "integer " ++ backquoted (toString n)
  | float d => "floating point " ++ backquoted (if f = .json then d.scientific else d.text)
  | text s => "string " ++ Text.quoted s
  | list _ => "sequence"
  | moment | table _ => "map"

def wrongType {α : Type} (f : DataFormat) (d : Datum) (wanted : String) : Decoded α :=
  .error (.wrongType (d.describe f) wanted)

def asText (f : DataFormat) (d : Datum) : Decoded String :=
  match d with
  | text s => .ok s
  | d => d.wrongType f "a string"

def asOptionalText (f : DataFormat) (d : Datum) : Decoded (Option String) :=
  match d with
  | null => .ok none
  | d => (d.asText f).map some

def asBoolean (f : DataFormat) (d : Datum) : Decoded Bool :=
  match d with
  | boolean b => .ok b
  | d => d.wrongType f "a boolean"

def asCount (f : DataFormat) (wanted : String) (d : Datum) : Decoded Nat :=
  match d with
  | integer n =>
    if isUnsigned n then .ok n.toNat else .error (.wrongValue (d.describe f) wanted)
  | d => d.wrongType f wanted

def asList (f : DataFormat) (d : Datum) : Decoded (List Datum) :=
  match d with
  | list items => .ok items
  | d => d.wrongType f "a sequence"

def asTexts (f : DataFormat) (d : Datum) : Decoded (List String) := do
  (← d.asList f).mapM (asText f)

def variant (allowed : List String) (name : String) : Decoded Nat :=
  match allowed.findIdx? (· == name) with
  | some i => .ok i
  | none => .error (.unknownVariant name allowed)

def checkNoContent (f : DataFormat) (d : Datum) : Decoded Unit :=
  match f, d with
  | .json, null => .ok ()
  | .json, d => d.wrongType f "unit"
  | .toml, table [] => .ok ()
  | .toml, table _ => .error (.rejected "expected empty table")
  | .toml, _ => .error (.rejected "expected table")

def asVariant (f : DataFormat) (allowed : List String) (d : Datum) : Decoded Nat :=
  match d with
  | text s => variant allowed s
  | table [(name, content)] => do
    let i ← variant allowed name
    checkNoContent f content
    return i
  | table _ =>
    if f = .json then .error (.wrongValue "map" "map with a single key")
    else .error (.rejected "wanted exactly 1 element")
  | d =>
    if f = .json then d.wrongType f "string or map" else .error (.rejected "wanted string or table")

/-- How one field is read into what has been read so far. -/
abbrev Field (α : Type) := String × (α → Datum → Decoded α)

def readEntry {α : Type} (fields : List (Field α)) (a : α) (entry : String × Datum) : Decoded α :=
  match fields.find? (·.1 == entry.1) with
  | some (_, read) => read a entry.2
  | none => .ok a

def readInOrder {α : Type} (a : α) : List (Field α) → List Datum → Decoded α
  | (_, read) :: fields, d :: rest => do readInOrder (← read a d) fields rest
  | _, _ => .ok a

def firstMissing {α : Type} (needed : List (String × (α → Bool))) (a : α) : Option String :=
  (needed.find? fun (_, has) => !has a).map (·.1)

/-- Reads a record from a table, or from a list in the order of the fields. -/
def asRecord {α : Type} (f : DataFormat) (name : String) (fields : List (Field α))
    (needed : List (String × (α → Bool))) (start : α) (d : Datum) : Decoded α :=
  match d with
  | table entries => do
    let a ← entries.foldlM (readEntry fields) start
    match firstMissing needed a with
    | some field => throw (.missingField field)
    | none => return a
  | moment =>
    match firstMissing needed start with
    | some field => .error (.missingField field)
    | none => .ok start
  | list items => do
    let a ← readInOrder start fields items
    if (firstMissing needed a).isSome then
      throw (.wrongLength items.length ("struct " ++ name))
    else if f = .json && fields.length < items.length then
      throw (.wrongLength items.length "fewer elements in array")
    else return a
  | d => d.wrongType f ("struct " ++ name)

end Datum

end PageWatch
