import PageWatch.Files.FileError

/-!
# Files and folders

A file system gives the entry at each location. Paths are read from left to right
as the names of folders, and all names but the last must lead to one. Changes are
made in steps that either happen or leave everything as it was.
-/

set_option autoImplicit false

namespace PageWatch

inductive Entry where
  | file (bytes : List UInt8)
  | folder
  deriving Repr, DecidableEq

/-- The names of the folders on the way from the root, and the own name. -/
abbrev Location := List String

structure FileSystem where
  /-- What is at a location other than the root, which is always a folder. -/
  entry? : Location → Option Entry
  home : Location := []

inductive FileStep where
  | makeFolders (path : String)
  | create (path : String)
  | append (path : String) (bytes : List UInt8)
  | rename (source target : String)
  deriving Repr, DecidableEq

namespace FilePath

def pieces (path : String) : List String := (path.toList.splitOn '/').map String.ofList

def names (path : String) : List String := (pieces path).filter (!·.isEmpty)

def isAbsolute (path : String) : Bool := path.toList.head? == some '/'

def endsInFolder (path : String) : Bool :=
  match (pieces path).getLast? with
  | some name => name.isEmpty || name == "." || name == ".."
  | none => false

def parent? (path : String) : Option String :=
  let outer := ((names path).filter (· != ".")).dropLast
  if isAbsolute path then some ("/" ++ "/".intercalate outer)
  else if outer.isEmpty then none
  else some ("/".intercalate outer)

end FilePath

namespace FileSystem

def nameLimit : Nat := 255

def checkFolder (fs : FileSystem) (here : Location) : Except FileError Unit :=
  if here = [] then .ok ()
  else match fs.entry? here with
    | some .folder => .ok ()
    | some (.file _) => .error .notFolder
    | none => .error .missing

def follow (fs : FileSystem) : Location → List String → Except FileError Location
  | here, [] => .ok here
  | here, name :: rest => do
    fs.checkFolder here
    if name = "." then fs.follow here rest
    else if name = ".." then fs.follow here.dropLast rest
    else if nameLimit < name.utf8ByteSize then throw .longName
    else fs.follow (here ++ [name]) rest

def start (fs : FileSystem) (path : String) : Location :=
  if FilePath.isAbsolute path then [] else fs.home

/-- The location that a path leads to, whether or not something is there. -/
def locate (fs : FileSystem) (path : String) : Except FileError Location :=
  if path.isEmpty then .error .missing
  else if path.contains '\x00' then .error .badName
  else fs.follow (fs.start path) (FilePath.names path)

def at? (fs : FileSystem) (here : Location) : Option Entry :=
  if here = [] then some .folder else fs.entry? here

def exists? (fs : FileSystem) (path : String) : Bool :=
  match fs.locate path with
  | .error _ => false
  | .ok here =>
    match fs.at? here with
    | none => false
    | some .folder => true
    | some (.file _) => !FilePath.endsInFolder path

def put (fs : FileSystem) (here : Location) (e : Option Entry) : FileSystem :=
  { fs with entry? := fun l => if l = here then e else fs.entry? l }

def read (fs : FileSystem) (path : String) : Except FileError (List UInt8) := do
  match fs.at? (← fs.locate path) with
  | none => throw .missing
  | some .folder => throw .isFolder
  | some (.file bytes) => if FilePath.endsInFolder path then throw .notFolder else return bytes

def makeFoldersFrom (fs : FileSystem) : Location → List String → Except FileError FileSystem
  | _, [] => .ok fs
  | here, name :: rest =>
    if name = "." then fs.makeFoldersFrom here rest
    else if name = ".." then fs.makeFoldersFrom here.dropLast rest
    else if nameLimit < name.utf8ByteSize then .error .longName
    else
      let next := here ++ [name]
      match fs.at? next with
      | none => (fs.put next (some .folder)).makeFoldersFrom next rest
      | some .folder => fs.makeFoldersFrom next rest
      | some (.file _) => .error (if rest.isEmpty then .occupied else .notFolder)

def makeFolders (fs : FileSystem) (path : String) : Except FileError FileSystem :=
  if path.contains '\x00' then .error .badName
  else fs.makeFoldersFrom (fs.start path) (FilePath.names path)

def create (fs : FileSystem) (path : String) : Except FileError FileSystem := do
  let here ← fs.locate path
  match fs.at? here with
  | some .folder => throw .isFolder
  | some (.file _) =>
    if FilePath.endsInFolder path then throw .notFolder else return fs.put here (some (.file []))
  | none =>
    if FilePath.endsInFolder path then throw .isFolder else return fs.put here (some (.file []))

def append (fs : FileSystem) (path : String) (bytes : List UInt8) :
    Except FileError FileSystem := do
  let here ← fs.locate path
  match fs.at? here with
  | some .folder => throw .isFolder
  | some (.file old) => return fs.put here (some (.file (old ++ bytes)))
  | none => throw .missing

def rename (fs : FileSystem) (source target : String) : Except FileError FileSystem := do
  let here ← fs.locate source
  match fs.at? here with
  | none => throw .missing
  | some .folder => throw .isFolder
  | some (.file bytes) =>
    let there ← fs.locate target
    match fs.at? there with
    | some .folder => throw .isFolder
    | _ =>
      if FilePath.endsInFolder target then throw .notFolder
      else return (fs.put here none).put there (some (.file bytes))

def perform (fs : FileSystem) : FileStep → Except FileError FileSystem
  | .makeFolders path => fs.makeFolders path
  | .create path => fs.create path
  | .append path bytes => fs.append path bytes
  | .rename source target => fs.rename source target

def empty : FileSystem where
  entry? l := if l = ["home"] then some .folder else none
  home := ["home"]

def write (fs : FileSystem) (path : String) (bytes : List UInt8) :
    Except FileError FileSystem := do
  (← fs.create path).append path bytes

def remove (fs : FileSystem) (path : String) : Except FileError FileSystem := do
  let here ← fs.locate path
  match fs.at? here with
  | none => throw .missing
  | some (.file _) =>
    if FilePath.endsInFolder path then throw .notFolder else return fs.put here none
  | some .folder =>
    return { fs with entry? := fun l => if here.isPrefixOf l then none else fs.entry? l }

end FileSystem

/-- Access to files from within a program. -/
structure Disk (m : Type → Type) where
  read : String → m (Except FileError (List UInt8))
  perform : FileStep → m (Except FileError Unit)

def Disk.performAll {m : Type → Type} [Monad m] (disk : Disk m) :
    List FileStep → m (Except FileError Unit)
  | [] => pure (.ok ())
  | step :: rest => do
    match ← disk.perform step with
    | .ok () => disk.performAll rest
    | .error e => return .error e

def FileSystem.disk {σ : Type} (files : σ → FileSystem) (setFiles : FileSystem → σ → σ) :
    Disk (StateM σ) where
  read path := do return (files (← get)).read path
  perform step := do
    match (files (← get)).perform step with
    | .ok fs => modify (setFiles fs); return .ok ()
    | .error e => return .error e

end PageWatch
