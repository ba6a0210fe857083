import PageWatch.Proofs.Store.Crash

/-!
# When a change can be saved

Whether a change can be saved is a matter of the path and the folders alone, not of
what is saved. So it can be saved again and again, as long as nobody else touches
the files.
-/

set_option autoImplicit false

namespace PageWatch.FileStore

open FileSystem

variable {fs fs' : FileSystem} {store : FileStore} {path : String} {s : Fingerprints}

/-- The path is that of a file in a folder that stands, and no folder is in the way there or where
the file beside is to be. -/
structure Writable (fs : FileSystem) (path : String) : Prop where
  plain : FilePath.endsInFolder path = false
  target : ∃ p, fs.locate path = .ok p ∧ fs.at? p ≠ some .folder
  beside : ∃ l, fs.locate (bufferPath path) = .ok l ∧ fs.at? l ≠ some .folder

theorem Writable.same (writable : Writable fs path) (same : SameFolders fs fs') :
    Writable fs' path where
  plain := writable.plain
  target := by
    obtain ⟨p, located, free⟩ := writable.target
    exact ⟨p, (locate_same same).mpr located, (same.folder p).not.mpr free⟩
  beside := by
    obtain ⟨l, located, free⟩ := writable.beside
    exact ⟨l, (locate_same same).mpr located, (same.folder l).not.mpr free⟩

theorem saved_of_writable (writable : Writable fs path) (s : Fingerprints) :
    ∃ fs', own.performAll (saveSteps path s) fs = (.ok (), fs') ∧ SameFolders fs fs' := by
  obtain ⟨p, located, free⟩ := writable.target
  obtain ⟨l, located', free'⟩ := writable.beside
  have root : l ≠ [] := ne_root_of_not_folder free'
  have created : fs.perform (.create (bufferPath path)) = .ok (fs.put l (some (.file []))) :=
    create_of_free (endsInFolder_append path isName_tmp utf8ByteSize_tmp) located' free'
  have appended : (fs.put l (some (.file []))).perform (.append (bufferPath path) s.bytes) =
      .ok (fs.put l (some (.file s.bytes))) := by
    have same : SameFolders fs (fs.put l (some (.file []))) := sameFolders_put free' (by simp)
    have there : (fs.put l (some (.file []))).at? l = some (.file []) := by
      rw [at?_put root, if_pos rfl]
    have next : fs.put l (some (.file s.bytes)) =
        (fs.put l (some (.file []))).put l (some (.file ([] ++ s.bytes))) := (put_put l _ _).symm
    rw [next]
    exact append_of_file ((locate_same same).mpr located') there
  have same : SameFolders fs (fs.put l (some (.file s.bytes))) := sameFolders_put free' (by simp)
  have there : (fs.put l (some (.file s.bytes))).at? l = some (.file s.bytes) := by
    rw [at?_put root, if_pos rfl]
  have renamed := rename_of_free ((locate_same same).mpr located') there
    ((locate_same same).mpr located) ((same.folder p).not.mpr free) writable.plain
  rw [put_put] at renamed
  have performed : (fs.put l (some (.file s.bytes))).perform (.rename (bufferPath path) path) =
      .ok ((fs.put l none).put p (some (.file s.bytes))) := renamed
  refine ⟨(fs.put l none).put p (some (.file s.bytes)), ?_, ?_⟩
  · rw [saveSteps]
    exact performAll_cons_ok.mpr ⟨_, created, performAll_cons_ok.mpr ⟨_, appended,
      performAll_cons_ok.mpr ⟨_, performed, rfl⟩⟩⟩
  · have emptied : SameFolders fs (fs.put l none) := sameFolders_put free' (by simp)
    have still : (fs.put l none).at? p ≠ some .folder := (emptied.folder p).not.mpr free
    exact emptied.trans (sameFolders_put still (by simp))

theorem writable_of_saved (saved : own.performAll (saveSteps path s) fs = (.ok (), fs')) :
    Writable fs path := by
  simp only [saveSteps, performAll_cons_ok] at saved
  obtain ⟨_, created, _, appended, _, renamed, -⟩ := saved
  obtain ⟨l, located, free, rfl⟩ := create_eq_ok created
  have same : SameFolders fs (fs.put l (some (.file []))) := sameFolders_put free (by simp)
  obtain ⟨l', old, located', there, rfl⟩ := append_eq_ok appended
  have free' : (fs.put l (some (.file []))).at? l' ≠ some .folder := by simp [there]
  have same' : SameFolders fs
      ((fs.put l (some (.file []))).put l' (some (.file (old ++ s.bytes)))) :=
    same.trans (sameFolders_put free' (by simp))
  obtain ⟨-, -, p, -, -, located'', free'', plain, -⟩ := rename_eq_ok renamed
  exact ⟨plain, ⟨p, (locate_same same').mp located'', (same'.folder p).not.mp free''⟩,
    l, located, free⟩

/-- Fingerprints can be saved if and only if the path can be written to, whatever they are. -/
theorem writable_iff (fs : FileSystem) (path : String) (s : Fingerprints) :
    Writable fs path ↔ (own.performAll (saveSteps path s) fs).1 = .ok () := by
  constructor
  · intro writable
    obtain ⟨fs', saved, -⟩ := saved_of_writable writable s
    rw [saved]
  · intro saved
    exact writable_of_saved (Prod.ext saved rfl)

theorem put_of_writable (writable : Writable fs store.path) (site endpoint : String) :
    ∃ fs', store.put own site endpoint fs = (.ok (store.setting site endpoint), fs') ∧
      Writable fs' store.path := by
  obtain ⟨fs', saved, same⟩ := saved_of_writable writable (store.known.put site endpoint)
  refine ⟨fs', ?_, writable.same same⟩
  rw [put_eq, saved]

theorem openAt_of_writable (writable : Writable fs path) :
    FileStore.openAt own path fs = (ofContent path (fs.read path), fs) := by
  obtain ⟨l, located, -⟩ := writable.beside
  exact openAt_of_housed (housed_of_locate located)

end PageWatch.FileStore
