import PageWatch.Proofs.Files.Folders

/-!
# Steps and what they leave

What a step that succeeds has found and changed, what a change beside a file leaves
as it was, and what may be left of several steps that are cut off.
-/

set_option autoImplicit false

namespace PageWatch

namespace FileSystem

variable {fs fs' : FileSystem} {path source target : String} {bytes : List UInt8}

theorem create_eq_ok (h : fs.create path = .ok fs') :
    ∃ l, fs.locate path = .ok l ∧ fs.at? l ≠ some .folder ∧ fs' = fs.put l (some (.file [])) := by
  obtain ⟨l, located, h⟩ := bind_eq_ok.mp h
  refine ⟨l, located, ?_⟩
  by_cases folder : FilePath.endsInFolder path = true
  · rcases there : fs.at? l with _ | (_ | _) <;> simp [there, folder] at h
  · rcases there : fs.at? l with _ | (old | _)
    · exact ⟨by simp, Eq.symm (by simpa [there, folder] using h)⟩
    · exact ⟨by simp, Eq.symm (by simpa [there, folder] using h)⟩
    · simp [there] at h

theorem append_eq_ok (h : fs.append path bytes = .ok fs') :
    ∃ l old, fs.locate path = .ok l ∧ fs.at? l = some (.file old) ∧
      fs' = fs.put l (some (.file (old ++ bytes))) := by
  obtain ⟨l, located, h⟩ := bind_eq_ok.mp h
  rcases there : fs.at? l with _ | (old | _)
  · simp [there] at h
  · exact ⟨l, old, located, there, Eq.symm (by simpa [there] using h)⟩
  · simp [there] at h

theorem rename_eq_ok (h : fs.rename source target = .ok fs') :
    ∃ l bytes p, fs.locate source = .ok l ∧ fs.at? l = some (.file bytes) ∧
      fs.locate target = .ok p ∧ fs.at? p ≠ some .folder ∧
      FilePath.endsInFolder target = false ∧
      fs' = (fs.put l none).put p (some (.file bytes)) := by
  obtain ⟨l, located, h⟩ := bind_eq_ok.mp h
  rcases there : fs.at? l with _ | (bytes | _)
  · simp [there] at h
  · simp only [there] at h
    obtain ⟨p, located', h⟩ := bind_eq_ok.mp h
    by_cases free : fs.at? p = some .folder
    · simp [free] at h
    · by_cases plain : FilePath.endsInFolder target = false
      · have after : (fs.put l none).put p (some (.file bytes)) = fs' := by
          simpa [free, plain] using h
        exact ⟨l, bytes, p, located, there, located', free, plain, after.symm⟩
      · simp [plain] at h
  · simp [there] at h

theorem create_of_free {l : Location} (plain : FilePath.endsInFolder path = false)
    (located : fs.locate path = .ok l) (free : fs.at? l ≠ some .folder) :
    fs.create path = .ok (fs.put l (some (.file []))) := by
  simp only [create, located, bind, Except.bind]
  rcases there : fs.at? l with _ | (old | _)
  · simp [plain, pure, Except.pure]
  · simp [plain, pure, Except.pure]
  · exact absurd there free

theorem append_of_file {l : Location} {old : List UInt8} (located : fs.locate path = .ok l)
    (there : fs.at? l = some (.file old)) :
    fs.append path bytes = .ok (fs.put l (some (.file (old ++ bytes)))) := by
  simp only [append, located, bind, Except.bind, there]
  rfl

theorem rename_of_free {l p : Location} (located : fs.locate source = .ok l)
    (there : fs.at? l = some (.file bytes)) (located' : fs.locate target = .ok p)
    (free : fs.at? p ≠ some .folder) (plain : FilePath.endsInFolder target = false) :
    fs.rename source target = .ok ((fs.put l none).put p (some (.file bytes))) := by
  simp only [rename, located, there, located', bind, Except.bind]
  rcases beyond : fs.at? p with _ | (old | _)
  · simp [plain, pure, Except.pure]
  · simp [plain, pure, Except.pure]
  · exact absurd beyond free

theorem read_congr {p : Location} (located : fs.locate path = .ok p)
    (located' : fs'.locate path = .ok p) (there : fs'.at? p = fs.at? p) :
    fs'.read path = fs.read path := by
  simp only [read, located, located', there, bind, Except.bind]

/-- The folders stand, and a file reads as before. -/
structure Spared (fs fs' : FileSystem) (path : String) : Prop where
  same : SameFolders fs fs'
  read : fs'.read path = fs.read path

theorem Spared.trans {fs'' : FileSystem} (first : Spared fs fs' path) (last : Spared fs' fs'' path) :
    Spared fs fs'' path :=
  ⟨first.same.trans last.same, last.read.trans first.read⟩

theorem spared_put {added : String} {l : Location} {e : Option Entry}
    (isName : FilePath.IsName added) (long : 2 < added.utf8ByteSize)
    (located : fs.locate (path ++ added) = .ok l) (free : fs.at? l ≠ some .folder)
    (he : e ≠ some .folder) : Spared fs (fs.put l e) path := by
  have same := sameFolders_put free he
  refine ⟨same, ?_⟩
  by_cases empty : path = ""
  · subst empty
    rfl
  · obtain ⟨⟨p, there, apart⟩, -⟩ := locate_beside empty isName long located
    refine read_congr there ((locate_same same).mpr there) ?_
    rw [at?_put (ne_root_of_not_folder free), if_neg apart]

end FileSystem

/-- What may be left when steps are cut off. Any part of what an append adds may have been added. -/
inductive CutOff : FileSystem → List FileStep → FileSystem → Prop where
  | here (fs : FileSystem) (steps : List FileStep) : CutOff fs steps fs
  | within {fs fs' : FileSystem} {path : String} {bytes part : List UInt8} {rest : List FileStep}
      (isPart : part <+: bytes) (appended : fs.append path part = .ok fs') :
      CutOff fs (.append path bytes :: rest) fs'
  | later {fs next fs' : FileSystem} {step : FileStep} {rest : List FileStep}
      (performed : fs.perform step = .ok next) (cut : CutOff next rest fs') :
      CutOff fs (step :: rest) fs'

def FileSystem.own : Disk (StateM FileSystem) := FileSystem.disk id fun fs _ => fs

theorem performAll_nil (fs : FileSystem) :
    FileSystem.own.performAll [] fs = (.ok (), fs) := rfl

theorem FileSystem.own_perform (fs : FileSystem) (step : FileStep) :
    FileSystem.own.perform step fs =
      match fs.perform step with
      | .ok next => (.ok (), next)
      | .error e => (.error e, fs) := by
  simp only [own, disk, bind, StateT.bind, get, getThe, MonadStateOf.get, StateT.get, pure, id]
  cases h : fs.perform step <;> rfl

theorem performAll_cons (fs : FileSystem) (step : FileStep) (rest : List FileStep) :
    FileSystem.own.performAll (step :: rest) fs =
      match fs.perform step with
      | .ok next => FileSystem.own.performAll rest next
      | .error e => (.error e, fs) := by
  simp only [Disk.performAll, bind, StateT.bind, FileSystem.own_perform]
  cases h : fs.perform step <;> rfl

theorem performAll_cons_ok {fs fs' : FileSystem} {step : FileStep} {rest : List FileStep} :
    FileSystem.own.performAll (step :: rest) fs = (.ok (), fs') ↔
      ∃ next, fs.perform step = .ok next ∧ FileSystem.own.performAll rest next = (.ok (), fs') := by
  rw [performAll_cons]
  cases fs.perform step with
  | error e =>
    constructor
    · intro h
      cases h
    · rintro ⟨_, h, -⟩
      cases h
  | ok next => simp

theorem cutOff_of_refused {fs fs' : FileSystem} {steps : List FileStep} {e : FileError}
    (h : FileSystem.own.performAll steps fs = (.error e, fs')) : CutOff fs steps.dropLast fs' := by
  induction steps generalizing fs with
  | nil => cases h
  | cons step rest ih =>
    rw [performAll_cons] at h
    cases performed : fs.perform step with
    | error e =>
      rw [performed] at h
      cases h
      exact .here _ _
    | ok next =>
      rw [performed] at h
      cases rest with
      | nil => cases h
      | cons second rest => exact .later performed (ih h)

/-- A last step that is no append is not begun, or all steps were performed. -/
theorem CutOff.last {fs fs' : FileSystem} {steps : List FileStep} {last : FileStep}
    (whole : ∀ path bytes, last ≠ .append path bytes) (cut : CutOff fs (steps ++ [last]) fs') :
    CutOff fs steps fs' ∨ FileSystem.own.performAll (steps ++ [last]) fs = (.ok (), fs') := by
  induction steps generalizing fs with
  | nil =>
    cases cut with
    | here => exact .inl (.here _ [])
    | within isPart appended => exact absurd rfl (whole _ _)
    | later performed cut =>
      cases cut with
      | here => exact .inr (performAll_cons_ok.mpr ⟨_, performed, rfl⟩)
  | cons step steps ih =>
    cases cut with
    | here => exact .inl (.here _ _)
    | within isPart appended => exact .inl (.within isPart appended)
    | later performed cut =>
      rcases ih cut with cut | done
      · exact .inl (.later performed cut)
      · exact .inr (performAll_cons_ok.mpr ⟨_, performed, done⟩)

end PageWatch
