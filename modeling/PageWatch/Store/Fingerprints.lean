import PageWatch.Charset.Unicode
import PageWatch.Data.Json

/-!
# Fingerprints

The fingerprint of a site is the endpoint that was notified last. All of them
together are written as a JSON object, sorted by site.
-/

set_option autoImplicit false

namespace PageWatch

structure Fingerprints where
  entries : List (String × String) := []
  deriving Repr, DecidableEq

namespace Fingerprints

def get? (s : Fingerprints) (site : String) : Option String :=
  (s.entries.find? (·.1 == site)).map (·.2)

def put (s : Fingerprints) (site endpoint : String) : Fingerprints :=
  ⟨Datum.insertEntry site endpoint s.entries⟩

def size (s : Fingerprints) : Nat := s.entries.length

def writeEntry (entry : String × String) : List Char :=
  "  ".toList ++ Json.writeString entry.1 ++ ": ".toList ++ Json.writeString entry.2

def write (s : Fingerprints) : List Char :=
  if s.entries.isEmpty then ['\x7b', '\x7d']
  else
    ['\x7b', '\n'] ++ [',', '\n'].intercalate (s.entries.map writeEntry) ++ ['\n', '\x7d']

def bytes (s : Fingerprints) : List UInt8 := (String.ofList s.write).toUTF8.toList

def isBlankByte (b : UInt8) : Bool :=
  b == 0x20 || b == 0x09 || b == 0x0A || b == 0x0C || b == 0x0D

def ofEntries : List (String × Datum) → Fingerprints → Option Fingerprints
  | [], s => some s
  | (site, .text endpoint) :: rest, s => ofEntries rest (s.put site endpoint)
  | _ :: _, _ => none

def ofDatum? : Datum → Option Fingerprints
  | .table entries => ofEntries entries {}
  | _ => none

/-- Blank content holds no fingerprints; of two entries for a site the later one counts. -/
def ofBytes? (content : List UInt8) : Option Fingerprints :=
  if content.all isBlankByte then some {}
  else
    let out := Charset.utf8Decoder.run content
    if out.hasErrors then none else (Json.read? out.text.toList).bind ofDatum?

end Fingerprints

end PageWatch
