import PageWatch.Proofs.Files.Steps
import PageWatch.Proofs.Store.WrittenForm
import PageWatch.Store.FileStore

/-!
# A change that is cut off

A change is written beside the file, and until the file is replaced by what was
written the file is not touched. So wherever a change is cut off, the file holds
the fingerprints from before or those from after.
-/

set_option autoImplicit false

namespace PageWatch.FileStore

open FileSystem

variable {fs fs' next : FileSystem} {store : FileStore} {path : String} {s : Fingerprints}
  {site endpoint : String}

theorem openAt_eq (path : String) (fs : FileSystem) :
    openAt own path fs =
      match own.performAll (openSteps path) fs with
      | (.ok (), fs') => (ofContent path (fs'.read path), fs')
      | (.error e, fs') => (.error (.file e), fs') := by
  unfold openAt
  simp only [bind, StateT.bind]
  rcases own.performAll (openSteps path) fs with ⟨_ | _, fs'⟩ <;> rfl

def Housed (fs : FileSystem) (path : String) : Prop :=
  ∀ folder, FilePath.parent? path = some folder → fs.FolderStands folder

theorem performAll_of_housed (housed : Housed fs path) :
    own.performAll (openSteps path) fs = (.ok (), fs) := by
  unfold openSteps
  cases hp : FilePath.parent? path with
  | none => rfl
  | some folder =>
    have made : fs.perform (.makeFolders folder) = .ok fs := housed folder hp
    simp only [performAll_cons, made, performAll_nil]

theorem openAt_of_housed (housed : Housed fs path) :
    openAt own path fs = (ofContent path (fs.read path), fs) := by
  rw [openAt_eq, performAll_of_housed housed]

theorem housed_of_performAll (h : own.performAll (openSteps path) fs = (.ok (), fs')) :
    Housed fs' path := by
  intro folder hp
  simp only [openSteps, hp, performAll_cons] at h
  cases made : fs.perform (.makeFolders folder) with
  | error e =>
    rw [made] at h
    cases h
  | ok next =>
    rw [made] at h
    cases h
    exact folderStands_of_makeFolders made

theorem ofContent_eq_ok {content : Except FileError (List UInt8)} :
    ofContent path content = .ok store ↔ store.path = path ∧
      ((∃ bytes, content = .ok bytes ∧ Fingerprints.ofBytes? bytes = some store.known) ∨
        content = .error .missing ∧ store.known = {}) := by
  obtain ⟨path', known⟩ := store
  cases content with
  | ok bytes =>
    simp only [ofContent]
    cases h : Fingerprints.ofBytes? bytes with
    | none => simp [h]
    | some read => simp [h, eq_comm]
  | error e => cases e <;> simp [ofContent, eq_comm]

/-- The file holds what the store knows, or there is no file even in a folder made for it, and
nothing is known. A blank file holds nothing. -/
def OnDisk (fs : FileSystem) (store : FileStore) : Prop :=
  (∃ bytes, fs.read store.path = .ok bytes ∧ Fingerprints.ofBytes? bytes = some store.known) ∨
    store.known = {} ∧ ∃ made, own.performAll (openSteps store.path) fs = (.ok (), made) ∧
      made.read store.path = .error .missing

theorem OnDisk.openAt (onDisk : OnDisk fs store) :
    (FileStore.openAt own store.path fs).1 = .ok store := by
  rcases onDisk with ⟨bytes, read, known⟩ | ⟨empty, made, performed, read⟩
  · rw [openAt_of_housed fun folder => folderStands_of_read read]
    exact ofContent_eq_ok.mpr ⟨rfl, .inl ⟨bytes, read, known⟩⟩
  · rw [openAt_eq, performed]
    exact ofContent_eq_ok.mpr ⟨rfl, .inr ⟨read, empty⟩⟩

theorem onDisk_of_housed (housed : Housed fs store.path)
    (h : ofContent store.path (fs.read store.path) = .ok store) : OnDisk fs store := by
  obtain ⟨-, ⟨bytes, read, known⟩ | ⟨read, empty⟩⟩ := ofContent_eq_ok.mp h
  · exact .inl ⟨bytes, read, known⟩
  · exact .inr ⟨empty, fs, performAll_of_housed housed, read⟩

theorem onDisk_of_openAt (h : FileStore.openAt own path fs = (.ok store, fs')) :
    store.path = path ∧ OnDisk fs' store := by
  rw [openAt_eq] at h
  cases made : own.performAll (openSteps path) fs with
  | mk result next =>
    rw [made] at h
    cases result with
    | error e => cases h
    | ok done =>
      obtain ⟨content, rfl⟩ := Prod.mk.inj h
      obtain ⟨rfl, -⟩ := ofContent_eq_ok.mp content
      exact ⟨rfl, onDisk_of_housed (housed_of_performAll made) content⟩

theorem OnDisk.sorted (onDisk : OnDisk fs store) : store.known.Sorted := by
  rcases onDisk with ⟨bytes, -, known⟩ | ⟨empty, -⟩
  · exact Fingerprints.sorted_of_bytes known
  · rw [empty]
    exact Fingerprints.sorted_empty

theorem isName_tmp : FilePath.IsName ".tmp" := ⟨by decide, by decide⟩

theorem utf8ByteSize_tmp : 2 < ".tmp".utf8ByteSize := by decide

def Buffered (fs : FileSystem) (path : String) (bytes : List UInt8) : Prop :=
  ∃ l, fs.locate (bufferPath path) = .ok l ∧ fs.at? l = some (.file bytes)

theorem housed_of_locate {l : Location} (located : fs.locate (bufferPath path) = .ok l) :
    Housed fs path := by
  by_cases empty : path = ""
  · subst empty
    intro folder hp
    cases hp
  · exact (locate_beside empty isName_tmp utf8ByteSize_tmp located).2

theorem spared_create (h : fs.create (bufferPath path) = .ok next) :
    Housed fs path ∧ Spared fs next path ∧ Buffered next path [] := by
  obtain ⟨l, located, free, rfl⟩ := create_eq_ok h
  have spared := spared_put (e := some (.file [])) isName_tmp utf8ByteSize_tmp located free (by simp)
  refine ⟨housed_of_locate located, spared, l, (locate_same spared.same).mpr located, ?_⟩
  rw [at?_put (ne_root_of_not_folder free), if_pos rfl]

theorem spared_append {old bytes : List UInt8} (buffered : Buffered fs path old)
    (h : fs.append (bufferPath path) bytes = .ok next) :
    Spared fs next path ∧ Buffered next path (old ++ bytes) := by
  obtain ⟨l, old', located, there, rfl⟩ := append_eq_ok h
  obtain ⟨l', located', there'⟩ := buffered
  obtain rfl : l' = l := Except.ok.inj (located'.symm.trans located)
  obtain rfl : old = old' := by simpa [there'] using there
  have free : fs.at? l' ≠ some .folder := by simp [there]
  have spared := spared_put (e := some (.file (old ++ bytes))) isName_tmp utf8ByteSize_tmp located
    free (by simp)
  refine ⟨spared, l', (locate_same spared.same).mpr located, ?_⟩
  rw [at?_put (ne_root_of_not_folder free), if_pos rfl]

theorem read_rename {bytes : List UInt8} (buffered : Buffered fs path bytes)
    (h : fs.rename (bufferPath path) path = .ok next) : next.read path = .ok bytes := by
  obtain ⟨l, bytes', p, located, there, located', free, plain, rfl⟩ := rename_eq_ok h
  obtain ⟨l', located'', there'⟩ := buffered
  obtain rfl : l' = l := Except.ok.inj (located''.symm.trans located)
  obtain rfl : bytes = bytes' := by simpa [there'] using there
  have emptied : SameFolders fs (fs.put l' none) := sameFolders_put (by simp [there]) (by simp)
  have free' : (fs.put l' none).at? p ≠ some .folder := (emptied.folder p).not.mpr free
  have same : SameFolders fs ((fs.put l' none).put p (some (.file bytes))) :=
    emptied.trans (sameFolders_put free' (by simp))
  refine read_eq_ok.mpr ⟨plain, p, (locate_same same).mpr located', ?_⟩
  rw [at?_put (ne_root_of_not_folder free'), if_pos rfl]

/-- Nothing has happened, or something beside the file, the folder of which stands. -/
def Kept (fs fs' : FileSystem) (path : String) : Prop :=
  fs' = fs ∨ Housed fs path ∧ Spared fs fs' path

theorem kept_of_cutOff (cut : CutOff fs (saveSteps path s).dropLast fs') : Kept fs fs' path := by
  cases cut with
  | here => exact .inl rfl
  | later created cut =>
    obtain ⟨housed, spared, buffered⟩ := spared_create created
    refine .inr ⟨housed, ?_⟩
    cases cut with
    | here => exact spared
    | within isPart appended => exact spared.trans (spared_append buffered appended).1
    | later appended cut =>
      cases cut with
      | here => exact spared.trans (spared_append buffered appended).1

theorem read_of_saved (h : own.performAll (saveSteps path s) fs = (.ok (), fs')) :
    fs'.read path = .ok s.bytes := by
  simp only [saveSteps, performAll_cons_ok] at h
  obtain ⟨_, created, _, appended, _, renamed, done⟩ := h
  obtain ⟨-, -, buffered⟩ := spared_create created
  obtain ⟨-, buffered⟩ := spared_append buffered appended
  cases done
  exact read_rename buffered renamed

/-- Saving that is cut off has left the file as it was, or has replaced it. -/
theorem cutOff_saveSteps (cut : CutOff fs (saveSteps path s) fs') :
    Kept fs fs' path ∨ fs'.read path = .ok s.bytes :=
  (CutOff.last (by simp) cut).imp kept_of_cutOff read_of_saved

theorem OnDisk.kept (onDisk : OnDisk fs store) (kept : Kept fs fs' store.path) :
    OnDisk fs' store := by
  rcases kept with rfl | ⟨housed, spared⟩
  · exact onDisk
  · have opened := onDisk.openAt
    rw [openAt_of_housed housed] at opened
    refine onDisk_of_housed (fun folder hp => ?_) (by rw [spared.read]; exact opened)
    exact (folderStands_same spared.same).mpr (housed folder hp)

def setting (store : FileStore) (site endpoint : String) : FileStore :=
  { store with known := store.known.put site endpoint }

theorem OnDisk.replaced (onDisk : OnDisk fs store)
    (read : fs'.read store.path = .ok (store.known.put site endpoint).bytes) :
    OnDisk fs' (store.setting site endpoint) :=
  .inl ⟨_, read, Fingerprints.ofBytes?_bytes (onDisk.sorted.put site endpoint)⟩

theorem put_eq (store : FileStore) (site endpoint : String) (fs : FileSystem) :
    store.put own site endpoint fs =
      match own.performAll (saveSteps store.path (store.known.put site endpoint)) fs with
      | (.ok (), fs') => (.ok (store.setting site endpoint), fs')
      | (.error e, fs') => (.error (.file e), fs') := by
  unfold FileStore.put
  simp only [bind, StateT.bind]
  generalize saveSteps store.path (store.known.put site endpoint) = steps
  rcases own.performAll steps fs with ⟨_ | _, fs'⟩ <;> rfl

theorem OnDisk.put (onDisk : OnDisk fs store) {result : Except Failure FileStore}
    (h : store.put own site endpoint fs = (result, fs')) :
    match result with
    | .ok saved => saved = store.setting site endpoint ∧ OnDisk fs' saved
    | .error _ => OnDisk fs' store := by
  rw [put_eq] at h
  cases performed : own.performAll (saveSteps store.path (store.known.put site endpoint)) fs with
  | mk answer next =>
    rw [performed] at h
    cases answer with
    | ok done =>
      cases h
      exact ⟨rfl, onDisk.replaced (read_of_saved performed)⟩
    | error e =>
      cases h
      exact onDisk.kept (kept_of_cutOff (cutOff_of_refused performed))

theorem OnDisk.cutOff (onDisk : OnDisk fs store)
    (cut : CutOff fs (saveSteps store.path (store.known.put site endpoint)) fs') :
    OnDisk fs' store ∨ OnDisk fs' (store.setting site endpoint) :=
  (cutOff_saveSteps cut).imp onDisk.kept onDisk.replaced

theorem OnDisk.openAt_of_cutOff (onDisk : OnDisk fs store)
    (cut : CutOff fs (saveSteps store.path (store.known.put site endpoint)) fs') :
    (FileStore.openAt own store.path fs').1 = .ok store ∨
      (FileStore.openAt own store.path fs').1 = .ok (store.setting site endpoint) :=
  (onDisk.cutOff cut).imp OnDisk.openAt OnDisk.openAt

def sampleFiles : FileSystem where
  entry? l :=
    if l = ["home"] then some .folder
    else if l = ["home", "seen.json"] then some (.file (Fingerprints.bytes ⟨[("news", "/1")]⟩))
    else if l = ["home", "seen.json.tmp"] then some (.file [0x7B, 0x0A])
    else none
  home := ["home"]

def sampleStore : FileStore := ⟨"seen.json", ⟨[("news", "/1")]⟩⟩

theorem locate_sample (same : SameFolders sampleFiles fs) :
    fs.locate "seen.json" = .ok ["home", "seen.json"] ∧
      fs.locate "seen.json.tmp" = .ok ["home", "seen.json.tmp"] := by
  have folder : fs.at? ["home"] = some .folder := (same.folder _).mpr rfl
  have names : FilePath.names "seen.json" = ["seen.json"] := by decide +kernel
  have names' : FilePath.names "seen.json.tmp" = ["seen.json.tmp"] := by decide +kernel
  have start : fs.start "seen.json" = ["home"] := same.home
  have start' : fs.start "seen.json.tmp" = ["home"] := same.home
  constructor
  · refine locate_eq_ok.mpr ⟨by decide, by simp, ?_⟩
    rw [names, start]
    exact follow_cons.mpr ⟨folder, .inr (.inr (by decide)), rfl⟩
  · refine locate_eq_ok.mpr ⟨by decide, by simp, ?_⟩
    rw [names', start']
    exact follow_cons.mpr ⟨folder, .inr (.inr (by decide)), rfl⟩

theorem plain_sample :
    FilePath.endsInFolder "seen.json" = false ∧ FilePath.endsInFolder "seen.json.tmp" = false := by
  decide +kernel

theorem onDisk_sample : OnDisk sampleFiles sampleStore := by
  have sorted : sampleStore.known.Sorted := Fingerprints.sorted_empty.put "news" "/1"
  have located := (locate_sample (.refl sampleFiles)).1
  have read := read_eq_ok.mpr ⟨plain_sample.1, _, located, rfl⟩
  exact .inl ⟨_, read, Fingerprints.ofBytes?_bytes sorted⟩

def sampleTorn (bytes : List UInt8) : FileSystem :=
  sampleFiles.put ["home", "seen.json.tmp"] (some (.file bytes))

theorem same_sampleTorn (bytes : List UInt8) : SameFolders sampleFiles (sampleTorn bytes) :=
  sameFolders_put (by simp [at?, sampleFiles]) (by simp)

theorem create_sample : sampleFiles.create "seen.json.tmp" = .ok (sampleTorn []) := by
  have located := (locate_sample (.refl sampleFiles)).2
  have there : sampleFiles.at? ["home", "seen.json.tmp"] = some (.file [0x7B, 0x0A]) := rfl
  simp only [create, located, bind, Except.bind, there, plain_sample.2]
  rfl

theorem append_sample (bytes : List UInt8) :
    (sampleTorn []).append "seen.json.tmp" bytes = .ok (sampleTorn bytes) := by
  have located := (locate_sample (same_sampleTorn [])).2
  rw [append, located, sampleTorn, sampleTorn, ← put_put _ (some (.file [])) (some (.file bytes))]
  rfl

theorem rename_sample (bytes : List UInt8) :
    (sampleTorn bytes).rename "seen.json.tmp" "seen.json" =
      .ok (((sampleTorn bytes).put ["home", "seen.json.tmp"] none).put ["home", "seen.json"]
        (some (.file bytes))) := by
  have located := locate_sample (same_sampleTorn bytes)
  have there : (sampleTorn bytes).at? ["home", "seen.json.tmp"] = some (.file bytes) := rfl
  simp only [rename, located, bind, Except.bind, there, plain_sample.1]
  rfl

theorem put_sample (site endpoint : String) :
    ∃ next, sampleStore.put own site endpoint sampleFiles =
      (.ok (sampleStore.setting site endpoint), next) := by
  have created : sampleFiles.perform (.create (bufferPath sampleStore.path)) = .ok (sampleTorn []) :=
    create_sample
  have appended (bytes : List UInt8) :
      (sampleTorn []).perform (.append (bufferPath sampleStore.path) bytes) =
        .ok (sampleTorn bytes) := append_sample bytes
  have renamed (bytes : List UInt8) :
      (sampleTorn bytes).perform (.rename (bufferPath sampleStore.path) sampleStore.path) = _ :=
    rename_sample bytes
  rw [put_eq, saveSteps]
  simp only [performAll_cons, performAll_nil, created, appended, renamed]
  exact ⟨_, rfl⟩

/-- Wherever setting a fingerprint is cut off, the store is opened as it was before or as it is to
be, and as it is to be once the fingerprint is set. -/
theorem opened_before_or_after (onDisk : OnDisk fs store) (site endpoint : String) :
    (∀ fs', CutOff fs (saveSteps store.path (store.known.put site endpoint)) fs' →
      (FileStore.openAt own store.path fs').1 = .ok store ∨
        (FileStore.openAt own store.path fs').1 = .ok (store.setting site endpoint)) ∧
      ∀ saved fs', store.put own site endpoint fs = (.ok saved, fs') →
        (FileStore.openAt own store.path fs').1 = .ok (store.setting site endpoint) := by
  constructor
  · intro fs' cut
    exact onDisk.openAt_of_cutOff cut
  · intro saved fs' h
    obtain ⟨rfl, after⟩ := onDisk.put h
    exact after.openAt

theorem opened_before_or_after_sample :
    OnDisk sampleFiles sampleStore ∧
      (∃ torn, CutOff sampleFiles (saveSteps "seen.json" (sampleStore.known.put "news" "/2")) torn ∧
        torn.read "seen.json.tmp" = .ok ((sampleStore.known.put "news" "/2").bytes.take 3) ∧
        ((FileStore.openAt own "seen.json" torn).1 = .ok sampleStore ∨
          (FileStore.openAt own "seen.json" torn).1 = .ok (sampleStore.setting "news" "/2"))) ∧
      ∃ saved next, sampleStore.put own "news" "/2" sampleFiles = (.ok saved, next) ∧
        (FileStore.openAt own "seen.json" next).1 = .ok (sampleStore.setting "news" "/2") := by
  have main := opened_before_or_after onDisk_sample "news" "/2"
  generalize hpart : (sampleStore.known.put "news" "/2").bytes.take 3 = part
  have isPart : part <+: (sampleStore.known.put "news" "/2").bytes := hpart ▸ List.take_prefix 3 _
  have cut : CutOff sampleFiles (saveSteps "seen.json" (sampleStore.known.put "news" "/2"))
      (sampleTorn part) := .later create_sample (.within isPart (append_sample part))
  have located := (locate_sample (same_sampleTorn part)).2
  obtain ⟨next, put⟩ := put_sample "news" "/2"
  exact ⟨onDisk_sample, ⟨_, cut, read_eq_ok.mpr ⟨plain_sample.2, _, located, rfl⟩, main.1 _ cut⟩,
    _, next, put, main.2 _ next put⟩

inductive Ending where
  | made
  | refused
  | cutOff
  deriving DecidableEq

structure Change where
  site : String
  endpoint : String
  ending : Ending

def Change.onto (s : Fingerprints) (c : Change) : Fingerprints := s.put c.site c.endpoint

/-- A store that was opened with some fingerprints, and since then changed, cut off and opened again
any number of times. -/
inductive Lives : Fingerprints → List Change → FileSystem → FileStore → Prop where
  | opened {fs fs' : FileSystem} {path : String} {store : FileStore}
      (h : FileStore.openAt own path fs = (.ok store, fs')) : Lives store.known [] fs' store
  | set {first : Fingerprints} {past : List Change} {fs fs' : FileSystem} {store saved : FileStore}
      {site endpoint : String} (lives : Lives first past fs store)
      (h : store.put own site endpoint fs = (.ok saved, fs')) :
      Lives first (past ++ [⟨site, endpoint, .made⟩]) fs' saved
  | refused {first : Fingerprints} {past : List Change} {fs fs' : FileSystem} {store : FileStore}
      {site endpoint : String} {e : Failure} (lives : Lives first past fs store)
      (h : store.put own site endpoint fs = (.error e, fs')) :
      Lives first (past ++ [⟨site, endpoint, .refused⟩]) fs' store
  | reopened {first : Fingerprints} {past : List Change} {fs cut fs' : FileSystem}
      {store again : FileStore} {site endpoint : String} (lives : Lives first past fs store)
      (h : CutOff fs (saveSteps store.path (store.known.put site endpoint)) cut)
      (h' : FileStore.openAt own store.path cut = (.ok again, fs')) :
      Lives first (past ++ [⟨site, endpoint, .cutOff⟩]) fs' again

variable {first : Fingerprints} {past : List Change}

theorem Lives.onDisk (lives : Lives first past fs store) : OnDisk fs store := by
  induction lives with
  | opened h => exact (onDisk_of_openAt h).2
  | set lives h ih => exact (ih.put h).2
  | refused lives h ih => exact ih.put h
  | reopened lives h h' ih => exact (onDisk_of_openAt h').2

/-- All changes that were made are in the fingerprints, some of those that were cut off, and none
that was refused. -/
def Accounted (first : Fingerprints) (past : List Change) (s : Fingerprints) : Prop :=
  ∃ kept : List Change, (past.filter (·.ending = .made)).Sublist kept ∧
    kept.Sublist (past.filter (·.ending ≠ .refused)) ∧ s = kept.foldl Change.onto first

theorem Accounted.changed (accounted : Accounted first past s) {c : Change}
    (ending : c.ending ≠ .refused) : Accounted first (past ++ [c]) (c.onto s) := by
  obtain ⟨kept, lower, upper, rfl⟩ := accounted
  refine ⟨kept ++ [c], ?_, ?_, by simp [Change.onto]⟩
  · rw [List.filter_append]
    exact lower.append List.filter_sublist
  · rw [List.filter_append]
    exact upper.append (by simp [ending])

theorem Accounted.unchanged (accounted : Accounted first past s) {c : Change}
    (ending : c.ending ≠ .made) : Accounted first (past ++ [c]) s := by
  obtain ⟨kept, lower, upper, rfl⟩ := accounted
  refine ⟨kept, ?_, ?_, rfl⟩
  · simpa [List.filter_append, ending] using lower
  · rw [List.filter_append]
    exact upper.trans (List.sublist_append_left ..)

theorem Lives.accounted (lives : Lives first past fs store) :
    Accounted first past store.known := by
  induction lives with
  | opened h => exact ⟨[], .slnil, .slnil, rfl⟩
  | set lives h ih =>
    obtain ⟨rfl, -⟩ := lives.onDisk.put h
    exact ih.changed (c := ⟨_, _, .made⟩) nofun
  | refused lives h ih => exact ih.unchanged nofun
  | reopened lives h h' ih =>
    rcases lives.onDisk.openAt_of_cutOff h with before | after
    · obtain rfl := Except.ok.inj (before.symm.trans (congrArg Prod.fst h'))
      exact ih.unchanged nofun
    · obtain rfl := Except.ok.inj (after.symm.trans (congrArg Prod.fst h'))
      exact ih.changed (c := ⟨_, _, .cutOff⟩) nofun

/-- Through its whole life, however often it was cut off, a store is opened as what it knows: the
fingerprints at first with all changes that were made. Wherever its next change is cut off, it is
opened as it was before that or as it is to be. -/
theorem Lives.reopens (lives : Lives first past fs store) :
    (FileStore.openAt own store.path fs).1 = .ok store ∧ Accounted first past store.known ∧
      ∀ site endpoint fs', CutOff fs (saveSteps store.path (store.known.put site endpoint)) fs' →
        (FileStore.openAt own store.path fs').1 = .ok store ∨
          (FileStore.openAt own store.path fs').1 = .ok (store.setting site endpoint) :=
  ⟨lives.onDisk.openAt, lives.accounted, fun _ _ _ cut => lives.onDisk.openAt_of_cutOff cut⟩

end PageWatch.FileStore
