import PageWatch.Failure
import PageWatch.Files.FileSystem
import PageWatch.Log.Event
import PageWatch.Store.Fingerprints

/-!
# Fingerprints in a file

All fingerprints are kept in memory. A change is written to a file beside the
real one, which it then replaces, so that at any moment the real file is complete.
-/

set_option autoImplicit false

namespace PageWatch

structure FileStore where
  path : String
  known : Fingerprints

namespace FileStore

variable {m : Type → Type} [Monad m]

/-- The fingerprints in what was read; a missing file holds none. -/
def ofContent (path : String) (content : Except FileError (List UInt8)) :
    Except Failure FileStore :=
  match content with
  | .ok bytes =>
    match Fingerprints.ofBytes? bytes with
    | some known => .ok ⟨path, known⟩
    | none => .error (.store (.foreignFile path))
  | .error .missing => .ok ⟨path, {}⟩
  | .error e => .error (.file e)

def openSteps (path : String) : List FileStep :=
  match FilePath.parent? path with
  | some folder => [.makeFolders folder]
  | none => []

def openAt (disk : Disk m) (path : String) : m (Except Failure FileStore) := do
  match ← disk.performAll (openSteps path) with
  | .error e => return .error (.file e)
  | .ok () => return ofContent path (← disk.read path)

def bufferPath (path : String) : String := path ++ ".tmp"

/-- The steps by which the file comes to hold `s`. -/
def saveSteps (path : String) (s : Fingerprints) : List FileStep :=
  [.create (bufferPath path), .append (bufferPath path) s.bytes, .rename (bufferPath path) path]

/-- Sets a fingerprint, in memory only if the file could be written. -/
def put (disk : Disk m) (store : FileStore) (site endpoint : String) :
    m (Except Failure FileStore) := do
  let known := store.known.put site endpoint
  match ← disk.performAll (saveSteps store.path known) with
  | .ok () => return .ok { store with known }
  | .error e => return .error (.file e)

end FileStore

end PageWatch
