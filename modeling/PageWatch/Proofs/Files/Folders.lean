import PageWatch.Proofs.Data.Results
import PageWatch.Proofs.Files.Paths

/-!
# Where paths lead

A path leads somewhere through folders that stand. So it leads to the same place
in any two file systems with the same folders, whatever their files hold.
-/

set_option autoImplicit false

namespace PageWatch

namespace FileSystem

variable {fs fs' : FileSystem} {here there : Location} {name : String} {names outer : List String}

theorem at?_put (h : here ≠ []) (e : Option Entry) (l : Location) :
    (fs.put here e).at? l = if l = here then e else fs.at? l := by
  unfold at? put
  by_cases root : l = []
  · subst root
    simp [Ne.symm h]
  · simp [root]

theorem put_put (l : Location) (e e' : Option Entry) : (fs.put l e).put l e' = fs.put l e' := by
  unfold put
  congr 1
  funext l'
  by_cases h : l' = l
  · simp [h]
  · simp [h]

theorem ne_root_of_not_folder (h : fs.at? here ≠ some .folder) : here ≠ [] := by
  rintro rfl
  exact h rfl

/-- Both have the same folders, and relative paths begin in the same. -/
structure SameFolders (fs fs' : FileSystem) : Prop where
  home : fs'.home = fs.home
  folder : ∀ l, fs'.at? l = some .folder ↔ fs.at? l = some .folder

theorem SameFolders.refl (fs : FileSystem) : SameFolders fs fs := ⟨rfl, fun _ => .rfl⟩

theorem SameFolders.trans {fs'' : FileSystem} (first : SameFolders fs fs')
    (last : SameFolders fs' fs'') : SameFolders fs fs'' :=
  ⟨last.home.trans first.home, fun l => (last.folder l).trans (first.folder l)⟩

theorem sameFolders_put {e : Option Entry} (h : fs.at? here ≠ some .folder)
    (he : e ≠ some .folder) : SameFolders fs (fs.put here e) := by
  refine ⟨rfl, fun l => ?_⟩
  rw [at?_put (ne_root_of_not_folder h)]
  by_cases hl : l = here
  · subst hl
    simp [h, he]
  · simp [hl]

def next (here : Location) (name : String) : Location :=
  if name = "." then here else if name = ".." then here.dropLast else here ++ [name]

def Fits (name : String) : Prop := name = "." ∨ name = ".." ∨ name.utf8ByteSize ≤ nameLimit

theorem checkFolder_eq_ok : fs.checkFolder here = .ok () ↔ fs.at? here = some .folder := by
  unfold checkFolder at?
  by_cases root : here = []
  · simp [root]
  · simp only [root, if_false]
    cases h : fs.entry? here with
    | none => simp
    | some e => cases e <;> simp

theorem follow_cons {l : Location} :
    fs.follow here (name :: names) = .ok l ↔
      fs.at? here = some .folder ∧ Fits name ∧ fs.follow (next here name) names = .ok l := by
  rw [← checkFolder_eq_ok, follow, bind_check_eq_ok]
  by_cases dot : name = "."
  · simp [next, Fits, dot]
  · by_cases dots : name = ".."
    · simp [next, Fits, dots]
    · by_cases long : nameLimit < name.utf8ByteSize
      · simp [next, Fits, dot, dots, long, Nat.not_le.mpr long]
      · simp [next, Fits, dot, dots, long, Nat.le_of_not_lt long]

theorem follow_append {l : Location} :
    fs.follow here (outer ++ names) = .ok l ↔
      ∃ m, fs.follow here outer = .ok m ∧ fs.follow m names = .ok l := by
  induction outer generalizing here with
  | nil => simp [follow]
  | cons name outer ih =>
    rw [List.cons_append, follow_cons, ih]
    constructor
    · rintro ⟨folder, fits, m, first, last⟩
      exact ⟨m, follow_cons.mpr ⟨folder, fits, first⟩, last⟩
    · rintro ⟨m, first, last⟩
      obtain ⟨folder, fits, first⟩ := follow_cons.mp first
      exact ⟨folder, fits, m, first, last⟩

theorem follow_same (same : SameFolders fs fs') {l : Location} :
    fs'.follow here names = .ok l ↔ fs.follow here names = .ok l := by
  induction names generalizing here with
  | nil => simp [follow]
  | cons name names ih => rw [follow_cons, follow_cons, same.folder, ih]

theorem locate_eq_ok {path : String} {l : Location} :
    fs.locate path = .ok l ↔ path ≠ "" ∧ path.contains '\x00' = false ∧
      fs.follow (fs.start path) (FilePath.names path) = .ok l := by
  unfold locate
  by_cases empty : path = ""
  · simp [empty]
  · by_cases nul : path.contains '\x00' = true
    · simp [empty, nul]
    · simp [empty, nul]

theorem start_same (same : SameFolders fs fs') (path : String) : fs'.start path = fs.start path := by
  simp only [start, same.home]

theorem locate_same (same : SameFolders fs fs') {path : String} {l : Location} :
    fs'.locate path = .ok l ↔ fs.locate path = .ok l := by
  rw [locate_eq_ok, locate_eq_ok, start_same same, follow_same same]

def Standing (fs : FileSystem) : Location → List String → Prop
  | _, [] => True
  | here, name :: names =>
    Fits name ∧ (name ≠ "." → name ≠ ".." → fs.at? (here ++ [name]) = some .folder) ∧
      fs.Standing (next here name) names

theorem standing_same (same : SameFolders fs fs') :
    fs'.Standing here names ↔ fs.Standing here names := by
  induction names generalizing here with
  | nil => exact .rfl
  | cons name names ih => simp only [Standing, ih, same.folder]

theorem standing_append (h : fs.Standing here (outer ++ names)) : fs.Standing here outer := by
  induction outer generalizing here with
  | nil => trivial
  | cons name outer ih => exact ⟨h.1, h.2.1, ih h.2.2⟩

theorem standing_filter (h : fs.Standing here names) :
    fs.Standing here (names.filter (· != ".")) := by
  induction names generalizing here with
  | nil => trivial
  | cons name names ih =>
    by_cases dot : name = "."
    · subst dot
      exact ih h.2.2
    · rw [List.filter_cons_of_pos (by simpa using dot)]
      exact ⟨h.1, h.2.1, ih h.2.2⟩

theorem folder_of_follow {l : Location} (h : fs.follow here names = .ok l)
    (folder : fs.at? l = some .folder) : fs.at? here = some .folder := by
  cases names with
  | nil =>
    obtain rfl : here = l := by simpa [follow] using h
    exact folder
  | cons name names => exact (follow_cons.mp h).1

theorem standing_of_follow {l : Location} (h : fs.follow here names = .ok l)
    (folder : fs.at? l = some .folder) : fs.Standing here names := by
  induction names generalizing here with
  | nil => trivial
  | cons name names ih =>
    obtain ⟨-, fits, later⟩ := follow_cons.mp h
    refine ⟨fits, fun dot dots => ?_, ih later⟩
    simpa [next, dot, dots] using folder_of_follow later folder

theorem makeFoldersFrom_of_standing (h : fs.Standing here names) :
    fs.makeFoldersFrom here names = .ok fs := by
  induction names generalizing here with
  | nil => rfl
  | cons name names ih =>
    obtain ⟨fits, folder, later⟩ := h
    have made := ih later
    unfold makeFoldersFrom
    by_cases dot : name = "."
    · simpa [dot, next] using made
    · by_cases dots : name = ".."
      · simpa [dots, next] using made
      · have short : ¬ nameLimit < name.utf8ByteSize := by
          simpa [Fits, dot, dots] using fits
        simpa [dot, dots, short, folder dot dots, next] using made

theorem makeFoldersFrom_cons (h : fs.makeFoldersFrom here (name :: names) = .ok fs') :
    Fits name ∧ ∃ made : FileSystem, made.home = fs.home ∧
      (∀ l, fs.at? l = some .folder → made.at? l = some .folder) ∧
      (name ≠ "." → name ≠ ".." → made.at? (here ++ [name]) = some .folder) ∧
      made.makeFoldersFrom (next here name) names = .ok fs' := by
  unfold makeFoldersFrom at h
  by_cases dot : name = "."
  · subst dot
    exact ⟨.inl rfl, fs, rfl, fun _ hl => hl, fun hn => absurd rfl hn, h⟩
  · rw [if_neg dot] at h
    by_cases dots : name = ".."
    · subst dots
      exact ⟨.inr (.inl rfl), fs, rfl, fun _ hl => hl, fun _ hn => absurd rfl hn, h⟩
    · rw [if_neg dots] at h
      by_cases long : nameLimit < name.utf8ByteSize
      · rw [if_pos long] at h
        cases h
      · rw [if_neg long] at h
        have fits : Fits name := .inr (.inr (Nat.le_of_not_lt long))
        have ahead : next here name = here ++ [name] := by simp [next, dot, dots]
        rw [ahead]
        have below : here ++ [name] ≠ [] := by simp
        simp only at h
        split at h
        · rename_i missing
          refine ⟨fits, fs.put (here ++ [name]) (some .folder), rfl, fun l hl => ?_,
            fun _ _ => ?_, h⟩
          · rw [at?_put below]
            split
            · rfl
            · exact hl
          · rw [at?_put below, if_pos rfl]
        · rename_i folder
          exact ⟨fits, fs, rfl, fun _ hl => hl, fun _ _ => folder, h⟩
        · cases h

theorem makeFoldersFrom_keeps (h : fs.makeFoldersFrom here names = .ok fs') :
    fs'.home = fs.home ∧ ∀ l, fs.at? l = some .folder → fs'.at? l = some .folder := by
  induction names generalizing fs here with
  | nil =>
    obtain rfl : fs = fs' := Except.ok.inj h
    exact ⟨rfl, fun _ hl => hl⟩
  | cons name names ih =>
    obtain ⟨-, made, home, kept, -, later⟩ := makeFoldersFrom_cons h
    obtain ⟨home', kept'⟩ := ih later
    exact ⟨home'.trans home, fun l hl => kept' l (kept l hl)⟩

theorem standing_of_makeFoldersFrom (h : fs.makeFoldersFrom here names = .ok fs') :
    fs'.Standing here names := by
  induction names generalizing fs here with
  | nil => trivial
  | cons name names ih =>
    obtain ⟨fits, made, -, -, folder, later⟩ := makeFoldersFrom_cons h
    exact ⟨fits, fun dot dots => (makeFoldersFrom_keeps later).2 _ (folder dot dots), ih later⟩

def FolderStands (fs : FileSystem) (folder : String) : Prop := fs.makeFolders folder = .ok fs

theorem folderStands_iff {folder : String} :
    fs.FolderStands folder ↔ folder.contains '\x00' = false ∧
      fs.Standing (fs.start folder) (FilePath.names folder) := by
  unfold FolderStands makeFolders
  by_cases nul : folder.contains '\x00' = true
  · simp [nul]
  · simp only [nul, Bool.false_eq_true, if_false, true_and]
    exact ⟨standing_of_makeFoldersFrom, makeFoldersFrom_of_standing⟩

theorem folderStands_same (same : SameFolders fs fs') {folder : String} :
    fs'.FolderStands folder ↔ fs.FolderStands folder := by
  rw [folderStands_iff, folderStands_iff, start_same same, standing_same same]

theorem folderStands_of_makeFolders {folder : String} (h : fs.makeFolders folder = .ok fs') :
    fs'.FolderStands folder := by
  rw [folderStands_iff]
  unfold makeFolders at h
  split at h
  · cases h
  · rename_i nul
    have start : fs'.start folder = fs.start folder := by
      simp only [start, (makeFoldersFrom_keeps h).1]
    rw [start]
    exact ⟨by simpa using nul, standing_of_makeFoldersFrom h⟩

theorem standing_outerNames {path last : String} (h : fs.Standing here outer)
    (hpath : FilePath.names path = outer ++ [last].filter (!·.isEmpty)) :
    fs.Standing here (FilePath.outerNames path) := by
  have before : fs.Standing here (outer.filter (· != ".")) := standing_filter h
  have shorter : fs.Standing here (outer.filter (· != ".")).dropLast := by
    obtain ⟨dropped, he⟩ := List.dropLast_prefix (outer.filter (· != "."))
    rw [← he] at before
    exact standing_append before
  unfold FilePath.outerNames
  rw [hpath, List.filter_append]
  by_cases empty : last.isEmpty = true
  · simpa [empty] using shorter
  · by_cases dot : last = "."
    · simpa [dot] using shorter
    · simpa [empty, dot] using before

theorem folderStands_of_follow {path last folder : String} {m : Location}
    (nul : path.contains '\x00' = false)
    (hpath : FilePath.names path = outer ++ [last].filter (!·.isEmpty))
    (h : fs.follow (fs.start path) outer = .ok m) (there : fs.at? m = some .folder)
    (hp : FilePath.parent? path = some folder) : fs.FolderStands folder := by
  obtain ⟨absolute, names, clean⟩ := FilePath.parent?_eq_some hp
  have start : fs.start folder = fs.start path := by simp only [start, absolute]
  rw [folderStands_iff, start, names]
  exact ⟨clean nul, standing_outerNames (standing_of_follow h there) hpath⟩

theorem read_eq_ok {path : String} {bytes : List UInt8} :
    fs.read path = .ok bytes ↔ FilePath.endsInFolder path = false ∧
      ∃ l, fs.locate path = .ok l ∧ fs.at? l = some (.file bytes) := by
  rw [read, bind_eq_ok]
  constructor
  · rintro ⟨l, located, h⟩
    cases there : fs.at? l with
    | none => simp [there] at h
    | some e =>
      cases e with
      | folder => simp [there] at h
      | file old =>
        by_cases folder : FilePath.endsInFolder path = true
        · simp [there, folder] at h
        · obtain rfl : old = bytes := by simpa [there, folder] using h
          exact ⟨by simpa using folder, l, located, there⟩
  · rintro ⟨plain, l, located, there⟩
    exact ⟨l, located, by simp [there, plain]⟩

theorem endsInFolder_eq_false {path last : String} (h : (FilePath.pieces path).getLast? = some last) :
    FilePath.endsInFolder path = false ↔ last ≠ "" ∧ last ≠ "." ∧ last ≠ ".." := by
  simp [FilePath.endsInFolder, h, and_assoc]

theorem folderStands_of_read {path folder : String} {bytes : List UInt8}
    (h : fs.read path = .ok bytes) (hp : FilePath.parent? path = some folder) :
    fs.FolderStands folder := by
  obtain ⟨plain, l, located, -⟩ := read_eq_ok.mp h
  obtain ⟨-, nul, follow⟩ := locate_eq_ok.mp located
  obtain ⟨outer, last, hlast, hpath, -⟩ := FilePath.names_append path
  have nonempty : last ≠ "" := ((endsInFolder_eq_false hlast).mp plain).1
  have whole : FilePath.names path = outer ++ [last] := by simpa [nonempty] using hpath
  rw [whole, follow_append] at follow
  obtain ⟨m, before, ahead⟩ := follow
  exact folderStands_of_follow nul hpath before (follow_cons.mp ahead).1 hp

theorem plain_of_long (name : String) {added : String} (long : 2 < added.utf8ByteSize) :
    name ++ added ≠ "." ∧ name ++ added ≠ ".." := by
  have longer : 2 < (name ++ added).utf8ByteSize := by
    rw [String.utf8ByteSize_append]
    omega
  constructor
  · intro he
    rw [he] at longer
    exact absurd longer (by decide)
  · intro he
    rw [he] at longer
    exact absurd longer (by decide)

theorem endsInFolder_append (path : String) {added : String} (isName : FilePath.IsName added)
    (long : 2 < added.utf8ByteSize) : FilePath.endsInFolder (path ++ added) = false := by
  obtain ⟨before, last, -, hall⟩ := FilePath.splitOn_append path.toList
  have split := hall added.toList isName.2
  have ends : (FilePath.pieces (path ++ added)).getLast? = some (String.ofList last ++ added) := by
    rw [FilePath.pieces, String.toList_append, split]
    simp [String.ofList_append]
  obtain ⟨dot, dots⟩ := plain_of_long (String.ofList last) long
  have nonempty : String.ofList last ++ added ≠ "" := by
    simp [isName.1]
  exact (endsInFolder_eq_false ends).mpr ⟨nonempty, dot, dots⟩

theorem follow_last {last : String} {m l : Location} :
    fs.follow m [last] = .ok l ↔ fs.at? m = some .folder ∧ Fits last ∧ next m last = l := by
  rw [follow_cons]
  simp [follow]

theorem next_ne_next (last : String) {added : String} (long : 2 < added.utf8ByteSize)
    (m : Location) :
    m ≠ next m (last ++ added) ∧ next m last ≠ next m (last ++ added) := by
  obtain ⟨dot, dots⟩ := plain_of_long last long
  have ahead : next m (last ++ added) = m ++ [last ++ added] := by simp [next, dot, dots]
  rw [ahead]
  have here : m ≠ m ++ [last ++ added] := by simp
  refine ⟨here, ?_⟩
  by_cases dot : last = "."
  · simp [next, dot]
  · by_cases dots : last = ".."
    · intro he
      have length := congrArg List.length he
      simp [next, dots] at length
    · intro he
      have same : last = last ++ added := by simpa [next, dot, dots] using he
      have size := congrArg String.utf8ByteSize same
      rw [String.utf8ByteSize_append] at size
      omega

theorem fits_of_append {last added : String} (h : Fits (last ++ added))
    (long : 2 < added.utf8ByteSize) : Fits last := by
  obtain ⟨dot, dots⟩ := plain_of_long last long
  rcases h with h | h | h
  · exact absurd h dot
  · exact absurd h dots
  · rw [String.utf8ByteSize_append] at h
    exact .inr (.inr (Nat.le_trans (Nat.le_add_right _ _) h))

/-- Where a path with a longer last name leads, the folder of the path stands, and the path itself
leads to another place. -/
theorem locate_beside {path added : String} {l : Location} (nonempty : path ≠ "")
    (isName : FilePath.IsName added) (long : 2 < added.utf8ByteSize)
    (h : fs.locate (path ++ added) = .ok l) :
    (∃ p, fs.locate path = .ok p ∧ p ≠ l) ∧
      ∀ folder, FilePath.parent? path = some folder → fs.FolderStands folder := by
  obtain ⟨-, nul, follow⟩ := locate_eq_ok.mp h
  have nul : path.contains '\x00' = false := by
    rw [String.contains_char_eq, decide_eq_false_iff_not] at nul ⊢
    exact fun mem => nul (by simp [mem])
  have start : fs.start (path ++ added) = fs.start path := by
    simp only [start, FilePath.isAbsolute_append nonempty]
  obtain ⟨outer, last, hlast, hpath, hall⟩ := FilePath.names_append path
  rw [start, hall added isName, follow_append] at follow
  obtain ⟨m, before, ahead⟩ := follow
  obtain ⟨folder, fits, rfl⟩ := follow_last.mp ahead
  obtain ⟨here, apart⟩ := next_ne_next last long m
  refine ⟨?_, fun _ => folderStands_of_follow nul hpath before folder⟩
  by_cases empty : last = ""
  · have whole : FilePath.names path = outer := by simpa [empty] using hpath
    exact ⟨m, locate_eq_ok.mpr ⟨nonempty, nul, by rwa [whole]⟩, here⟩
  · have whole : FilePath.names path = outer ++ [last] := by simpa [empty] using hpath
    have there := follow_last.mpr ⟨folder, fits_of_append fits long, rfl⟩
    refine ⟨next m last, locate_eq_ok.mpr ⟨nonempty, nul, ?_⟩, apart⟩
    rw [whole, follow_append]
    exact ⟨m, before, there⟩

end FileSystem

end PageWatch
