import PageWatch.Config.Settings
import PageWatch.Store.FileStore

/-!
# Stores of fingerprints
-/

set_option autoImplicit false

namespace PageWatch

inductive Store where
  | memory (known : Fingerprints)
  | file (s : FileStore)

namespace Store

variable {m : Type → Type} [Monad m]

def known : Store → Fingerprints
  | memory known => known
  | file s => s.known

def get? (s : Store) (site : String) : Option String := s.known.get? site

def put (disk : Disk m) (s : Store) (site endpoint : String) : m (Except Failure Store) := do
  match s with
  | memory known => return .ok (memory (known.put site endpoint))
  | file s => return (← s.put disk site endpoint).map file

def openFile (disk : Disk m) (log : LogEvent → m Unit) (path : String) :
    m (Except Failure Store) := do
  match ← FileStore.openAt disk path with
  | .error e => return .error e
  | .ok s =>
    log (.storeOpened path s.known.size)
    return .ok (file s)

def openConfigured (disk : Disk m) (log : LogEvent → m Unit) (settings : StoreSettings) :
    m (Except Failure Store) := do
  match settings.backend with
  | .redis => return .error (.setup .redisBackend)
  | .file =>
    match ← openFile disk log settings.path with
    | .error e => return .error e
    | .ok s =>
      log (.storeReady settings.path)
      return .ok s

end Store

end PageWatch
