import PageWatch.Files.FileSystem
import PageWatch.Proofs.Text.Segments

/-!
# Names in paths

What is added at the end of a path is added to its last name, and the folder of a
path has the names before.
-/

set_option autoImplicit false

namespace PageWatch.FilePath

theorem splitOn_append (cs : List Char) :
    ∃ before last, cs.splitOn '/' = before ++ [last] ∧
      ∀ added, '/' ∉ added → (cs ++ added).splitOn '/' = before ++ [last ++ added] := by
  induction cs with
  | nil => exact ⟨[], [], List.splitOn_nil _, fun added h => List.splitOn_eq_singleton h⟩
  | cons c cs ih =>
    obtain ⟨before, last, hcs, hall⟩ := ih
    by_cases slash : c = '/'
    · refine ⟨[] :: before, last, ?_, fun added h => ?_⟩
      · simp [List.splitOn_cons_eq_if_modifyHead, slash, hcs]
      · simp [List.splitOn_cons_eq_if_modifyHead, slash, hall added h]
    · cases before with
      | nil =>
        refine ⟨[], c :: last, ?_, fun added h => ?_⟩
        · simp [List.splitOn_cons_eq_if_modifyHead, slash, hcs]
        · simp [List.splitOn_cons_eq_if_modifyHead, slash, hall added h]
      | cons first before =>
        refine ⟨(c :: first) :: before, last, ?_, fun added h => ?_⟩
        · simp [List.splitOn_cons_eq_if_modifyHead, slash, hcs]
        · simp [List.splitOn_cons_eq_if_modifyHead, slash, hall added h]

def IsName (name : String) : Prop := name ≠ "" ∧ '/' ∉ name.toList

theorem mem_names {path name : String} (h : name ∈ names path) :
    IsName name ∧ ∀ c ∈ name.toList, c ∈ path.toList := by
  obtain ⟨mem, nonempty⟩ := List.mem_filter.mp h
  obtain ⟨piece, hp, rfl⟩ := List.mem_map.mp mem
  rw [IsName, String.toList_ofList]
  exact ⟨⟨by simpa using nonempty, Text.not_mem_of_mem_splitOn hp⟩,
    fun c => Text.mem_of_mem_splitOn hp⟩

theorem names_slash (path : String) : names ("/" ++ path) = names path := by
  simp [names, pieces, List.splitOn_cons_eq_if_modifyHead]

theorem names_intercalate {outer : List String} (h : ∀ name ∈ outer, IsName name) :
    names ("/".intercalate outer) = outer := by
  by_cases empty : outer = []
  · subst empty
    rfl
  · have split : ("/".intercalate outer).toList.splitOn '/' = outer.map String.toList := by
      rw [String.toList_intercalate]
      refine List.splitOn_intercalate '/' (fun piece mem => ?_) (by simpa using empty)
      obtain ⟨name, hname, rfl⟩ := List.mem_map.mp mem
      exact (h name hname).2
    rw [names, pieces, split, List.map_map, String.ofList_comp_toList, List.map_id,
      List.filter_eq_self]
    intro name mem
    simpa using (h name mem).1

theorem isAbsolute_intercalate {outer : List String} (h : ∀ name ∈ outer, IsName name) :
    isAbsolute ("/".intercalate outer) = false := by
  cases outer with
  | nil => rfl
  | cons name outer =>
    obtain ⟨nonempty, slash⟩ := h name List.mem_cons_self
    obtain ⟨c, cs, hc⟩ := List.exists_cons_of_ne_nil (mt String.toList_eq_nil_iff.mp nonempty)
    have first : ("/".intercalate (name :: outer)).toList.head? = some c := by
      cases outer <;> simp [hc]
    rw [hc, List.mem_cons, not_or] at slash
    rw [isAbsolute, first]
    simpa using Ne.symm slash.1

theorem mem_intercalate {outer : List String} {c : Char}
    (h : c ∈ ("/".intercalate outer).toList) : c = '/' ∨ ∃ name ∈ outer, c ∈ name.toList := by
  induction outer with
  | nil => simp at h
  | cons name outer ih =>
    cases outer with
    | nil => exact .inr ⟨name, List.mem_cons_self, by simpa using h⟩
    | cons next outer =>
      rw [String.intercalate_cons_cons] at h
      simp only [String.toList_append, List.mem_append] at h
      rcases h with (h | h) | h
      · exact .inr ⟨name, List.mem_cons_self, h⟩
      · exact .inl (by simpa using h)
      · rcases ih h with slash | ⟨other, mem, hc⟩
        · exact .inl slash
        · exact .inr ⟨other, List.mem_cons_of_mem _ mem, hc⟩

def outerNames (path : String) : List String := ((names path).filter (· != ".")).dropLast

theorem mem_outerNames {path name : String} (h : name ∈ outerNames path) : name ∈ names path :=
  (List.mem_filter.mp (List.dropLast_subset _ h)).1

theorem parent?_eq_some {path folder : String} (h : parent? path = some folder) :
    isAbsolute folder = isAbsolute path ∧ names folder = outerNames path ∧
      (path.contains '\x00' = false → folder.contains '\x00' = false) := by
  have isName : ∀ name ∈ outerNames path, IsName name := fun name mem =>
    (mem_names (mem_outerNames mem)).1
  have clean (nul : path.contains '\x00' = false) :
      '\x00' ∉ ("/".intercalate (outerNames path)).toList := by
    intro mem
    rw [String.contains_char_eq, decide_eq_false_iff_not] at nul
    rcases mem_intercalate mem with slash | ⟨name, hname, hc⟩
    · cases slash
    · exact nul ((mem_names (mem_outerNames hname)).2 _ hc)
  unfold parent? at h
  simp only at h
  split at h
  · rename_i absolute
    obtain rfl := Option.some.inj h
    refine ⟨?_, ?_, fun nul => ?_⟩
    · rw [absolute]
      simp [isAbsolute]
    · rw [names_slash]
      exact names_intercalate isName
    · rw [String.contains_char_eq, decide_eq_false_iff_not]
      simpa [outerNames] using clean nul
  · rename_i relative
    split at h
    · cases h
    · obtain rfl := Option.some.inj h
      refine ⟨?_, names_intercalate isName, fun nul => ?_⟩
      · rw [Bool.not_eq_true] at relative
        rw [relative]
        exact isAbsolute_intercalate isName
      · rw [String.contains_char_eq, decide_eq_false_iff_not]
        exact clean nul

/-- What is added at the end of a path is added to its last name, or is a name of its own where the
path ends in a slash. -/
theorem names_append (path : String) :
    ∃ outer last, (pieces path).getLast? = some last ∧
      names path = outer ++ [last].filter (!·.isEmpty) ∧
      ∀ added, IsName added → names (path ++ added) = outer ++ [last ++ added] := by
  obtain ⟨before, last, hpath, hall⟩ := splitOn_append path.toList
  refine ⟨(before.map String.ofList).filter (!·.isEmpty), String.ofList last, ?_, ?_, ?_⟩
  · simp [pieces, hpath]
  · simp only [names, pieces, hpath, List.map_append, List.filter_append, List.map_cons,
      List.map_nil]
  · intro added h
    have nonempty : (String.ofList last ++ added).isEmpty = false := by
      simp [h.1]
    simp [names, pieces, hall _ h.2, List.filter_append, String.ofList_append, nonempty]

theorem isAbsolute_append {path : String} (h : path ≠ "") (added : String) :
    isAbsolute (path ++ added) = isAbsolute path := by
  obtain ⟨c, cs, hc⟩ := List.exists_cons_of_ne_nil (mt String.toList_eq_nil_iff.mp h)
  simp [isAbsolute, hc]

end PageWatch.FilePath
