import PageWatch.Proofs.Store.Crash
import PageWatch.Store.Store

/-!
# Memory and disk in agreement

A fingerprint is set in memory first, and if the file cannot be written that is taken
back. Whatever happens to the files meanwhile, the store knows what it knew when it was
opened and all that was set with success since then. A change that fails leaves no
trace but the file beside, and after one that succeeds the file reads as the store.
-/

set_option autoImplicit false

namespace PageWatch

namespace Fingerprints

variable {s s' : Fingerprints}

theorem get?_nil (site : String) : get? ⟨[]⟩ site = none := rfl

theorem get?_cons (entry : String × String) (rest : List (String × String)) (site : String) :
    get? ⟨entry :: rest⟩ site = if entry.1 = site then some entry.2 else get? ⟨rest⟩ site := by
  by_cases h : entry.1 = site
  · simp [get?, h]
  · simp [get?, h]

theorem get?_eq_none_of_below {entries : List (String × String)} {site : String}
    (below : ∀ entry ∈ entries, site < entry.1) : get? ⟨entries⟩ site = none := by
  induction entries with
  | nil => rfl
  | cons entry rest ih =>
    have apart : entry.1 ≠ site := fun he =>
      String.lt_irrefl _ (he ▸ below entry List.mem_cons_self)
    rw [get?_cons, if_neg apart]
    exact ih fun other mem => below other (List.mem_cons_of_mem _ mem)

theorem first_le_of_get? {entry : String × String} {rest : List (String × String)} {site : String}
    (sorted : Sorted ⟨entry :: rest⟩) (known : get? ⟨entry :: rest⟩ site ≠ none) :
    ¬ site < entry.1 := by
  intro below
  obtain ⟨above, -⟩ := List.pairwise_cons.mp sorted
  apply known
  apply get?_eq_none_of_below
  intro other mem
  rcases List.mem_cons.mp mem with rfl | mem
  · exact below
  · exact String.lt_trans below (above other mem)

theorem Sorted.ext (sorted : s.Sorted) (sorted' : s'.Sorted)
    (same : ∀ site, s.get? site = s'.get? site) : s = s' := by
  obtain ⟨entries⟩ := s
  obtain ⟨entries'⟩ := s'
  induction entries generalizing entries' with
  | nil =>
    cases entries' with
    | nil => rfl
    | cons entry' rest' => simpa [get?_nil, get?_cons] using same entry'.1
  | cons entry rest ih =>
    cases entries' with
    | nil => simpa [get?_nil, get?_cons] using same entry.1
    | cons entry' rest' =>
      have found : get? ⟨entry :: rest⟩ entry.1 = some entry.2 := by rw [get?_cons, if_pos rfl]
      have found' : get? ⟨entry' :: rest'⟩ entry'.1 = some entry'.2 := by rw [get?_cons, if_pos rfl]
      have notLess : ¬ entry.1 < entry'.1 :=
        first_le_of_get? sorted' (by rw [← same, found]; simp)
      have notMore : ¬ entry'.1 < entry.1 :=
        first_le_of_get? sorted (by rw [same, found']; simp)
      have key : entry.1 = entry'.1 := String.le_antisymm notMore notLess
      have value : entry.2 = entry'.2 := by
        rw [same, key, found'] at found
        exact (Option.some.inj found).symm
      obtain rfl : entry = entry' := Prod.ext key value
      obtain ⟨above, later⟩ := List.pairwise_cons.mp sorted
      obtain ⟨above', later'⟩ := List.pairwise_cons.mp sorted'
      have rests : (⟨rest⟩ : Fingerprints) = ⟨rest'⟩ := by
        apply ih later rest' later'
        intro site
        by_cases first : entry.1 = site
        · subst first
          rw [get?_eq_none_of_below above, get?_eq_none_of_below above']
        · simpa [get?_cons, first] using same site
      rw [Fingerprints.mk.inj rests]

def remove (s : Fingerprints) (site : String) : Fingerprints :=
  ⟨s.entries.filter (·.1 != site)⟩

def restore (s : Fingerprints) (site : String) : Option String → Fingerprints
  | some endpoint => s.put site endpoint
  | none => s.remove site

theorem get?_remove_self (s : Fingerprints) (site : String) : (s.remove site).get? site = none := by
  have missing : ((s.remove site).entries.find? (·.1 == site)) = none := by
    apply List.find?_eq_none.mpr
    intro entry mem
    simpa using (List.mem_filter.mp mem).2
  rw [get?, missing]
  rfl

theorem get?_remove_of_ne (s : Fingerprints) {site other : String} (h : other ≠ site) :
    (s.remove site).get? other = s.get? other := by
  obtain ⟨entries⟩ := s
  induction entries with
  | nil => rfl
  | cons entry rest ih =>
    by_cases here : entry.1 = site
    · have apart : entry.1 ≠ other := fun he => h (he.symm.trans here)
      simpa [remove, here, get?_cons, apart, h.symm] using ih
    · have kept : remove ⟨entry :: rest⟩ site = ⟨entry :: (remove ⟨rest⟩ site).entries⟩ := by
        simp [remove, here]
      rw [kept, get?_cons, get?_cons, ih]

theorem Sorted.remove (sorted : s.Sorted) (site : String) : (s.remove site).Sorted :=
  List.Pairwise.filter _ sorted

theorem Sorted.restore (sorted : s.Sorted) (site : String) (before : Option String) :
    (s.restore site before).Sorted := by
  cases before with
  | none => exact sorted.remove site
  | some endpoint => exact sorted.put site endpoint

theorem restore_put (sorted : s.Sorted) (site endpoint : String) :
    (s.put site endpoint).restore site (s.get? site) = s := by
  apply Sorted.ext ((sorted.put site endpoint).restore site _) sorted
  intro other
  by_cases h : other = site
  · subst h
    cases before : s.get? other with
    | none => exact get?_remove_self _ other
    | some old => exact get?_put_self _ other old
  · cases before : s.get? site with
    | none =>
      rw [restore, get?_remove_of_ne _ h, get?_put_of_ne _ h]
    | some old =>
      rw [restore, get?_put_of_ne _ h, get?_put_of_ne _ h]

theorem Sorted.putAll (sorted : s.Sorted) (changes : List (String × String)) :
    (s.putAll changes).Sorted := by
  induction changes generalizing s with
  | nil => exact sorted
  | cons change rest ih => exact ih (sorted.put change.1 change.2)

theorem get?_putAll_last (s : Fingerprints) (changes : List (String × String)) (site : String) :
    (s.putAll changes).get? site = (changes.reverse.lookup site).or (s.get? site) := by
  induction changes using List.reverseRecOn with
  | nil => rfl
  | append_singleton changes change ih =>
    obtain ⟨key, endpoint⟩ := change
    rw [putAll_append, List.reverse_append]
    show ((s.putAll changes).put key endpoint).get? site =
      (List.lookup site ((key, endpoint) :: changes.reverse)).or (s.get? site)
    by_cases h : site = key
    · subst h
      rw [get?_put_self, List.lookup_cons_self, Option.some_or]
    · rw [get?_put_of_ne _ h, ih, List.lookup_cons, beq_eq_false_iff_ne.mpr h]

end Fingerprints

namespace FileStore

open FileSystem

/-- Sets a fingerprint in memory and then in the file. If that fails the fingerprint from before
is set in memory again. -/
def putInPlace {m : Type → Type} [Monad m] (disk : Disk m) (site endpoint : String) :
    StateT FileStore m (Except Failure Unit) := do
  let before := (← get).known.get? site
  modify fun store => store.setting site endpoint
  let store ← get
  match ← disk.performAll (saveSteps store.path store.known) with
  | .ok () => return .ok ()
  | .error e =>
    modify fun store => { store with known := store.known.restore site before }
    return .error (.file e)

variable {fs fs' : FileSystem} {store store' : FileStore} {s : Fingerprints}
  {path site endpoint : String} {result : Except Failure Unit}

theorem putInPlace_eq (sorted : store.known.Sorted) (site endpoint : String) (fs : FileSystem) :
    putInPlace own site endpoint store fs =
      match store.put own site endpoint fs with
      | (.ok saved, fs') => ((.ok (), saved), fs')
      | (.error e, fs') => ((.error e, store), fs') := by
  have back : (store.known.put site endpoint).restore site (store.known.get? site) = store.known :=
    Fingerprints.restore_put sorted site endpoint
  rw [put_eq]
  show ((putInPlace own site endpoint).run store).run fs = _
  simp only [putInPlace, StateT.run_bind, StateT.run_get, StateT.run_modify, StateT.run_monadLift,
    pure_bind]
  have steps : saveSteps (store.setting site endpoint).path (store.setting site endpoint).known =
      saveSteps store.path (store.known.put site endpoint) := rfl
  have lifted (actions : List FileStep) :
      StateT.run (monadLift (own.performAll actions) : StateM FileSystem _) fs =
        own.performAll actions fs := rfl
  rw [steps, lifted]
  cases own.performAll (saveSteps store.path (store.known.put site endpoint)) fs with
  | mk answer fs' =>
    cases answer with
    | error e =>
      show ((Except.error (Failure.file e), { store with
        known := (store.known.put site endpoint).restore site (store.known.get? site) }), fs') = _
      rw [back]
    | ok done => rfl

/-- Whatever is at the path is as it was, and so is everything else but the file beside. -/
structure Untouched (fs fs' : FileSystem) (path : String) : Prop where
  reached : fs'.locate path = fs.locate path
  entry : ∀ l, fs.locate path = .ok l → fs'.at? l = fs.at? l
  read : fs'.read path = fs.read path
  elsewhere : ∀ l, fs.locate (bufferPath path) ≠ .ok l → fs'.at? l = fs.at? l

theorem Untouched.refl (fs : FileSystem) (path : String) : Untouched fs fs path :=
  ⟨rfl, fun _ _ => rfl, rfl, fun _ _ => rfl⟩

theorem locate_apart {l p : Location} (located : fs.locate (bufferPath path) = .ok l)
    (there : fs.locate path = .ok p) : p ≠ l := by
  have nonempty : path ≠ "" := (locate_eq_ok.mp there).1
  obtain ⟨p', there', apart⟩ := (locate_beside nonempty isName_tmp utf8ByteSize_tmp located).1
  obtain rfl : p = p' := Except.ok.inj (there.symm.trans there')
  exact apart

theorem untouched_put {l : Location} {bytes : List UInt8}
    (located : fs.locate (bufferPath path) = .ok l) (free : fs.at? l ≠ some .folder) :
    Untouched fs (fs.put l (some (.file bytes))) path := by
  have spared := spared_put (e := some (.file bytes)) isName_tmp utf8ByteSize_tmp located free
    (by simp)
  have root := ne_root_of_not_folder free
  refine ⟨?_, fun p there => ?_, spared.read, fun p apart => ?_⟩
  · cases there : fs.locate path with
    | ok p => exact (locate_same spared.same).mpr there
    | error e =>
      by_cases empty : path = ""
      · subst empty
        exact there
      · obtain ⟨p, there', -⟩ := (locate_beside empty isName_tmp utf8ByteSize_tmp located).1
        rw [there'] at there
        cases there
  · rw [at?_put root, if_neg (locate_apart located there)]
  · have other : p ≠ l := fun he => apart (he ▸ located)
    rw [at?_put root, if_neg other]

theorem refused_saveSteps {e : FileError}
    (h : own.performAll (saveSteps path s) fs = (.error e, fs')) :
    fs' = fs ∨ ∃ l bytes, fs.locate (bufferPath path) = .ok l ∧ fs.at? l ≠ some .folder ∧
      fs' = fs.put l (some (.file bytes)) := by
  rw [saveSteps, performAll_cons] at h
  cases created : fs.perform (.create (bufferPath path)) with
  | error e =>
    rw [created] at h
    cases h
    exact .inl rfl
  | ok next =>
    obtain ⟨l, located, free, rfl⟩ := create_eq_ok created
    have same : SameFolders fs (fs.put l (some (.file []))) := sameFolders_put free (by simp)
    rw [created] at h
    simp only [performAll_cons] at h
    cases appended : (fs.put l (some (.file []))).perform (.append (bufferPath path) s.bytes) with
    | error e =>
      rw [appended] at h
      cases h
      exact .inr ⟨l, [], located, free, rfl⟩
    | ok next =>
      obtain ⟨l', old, located', -, rfl⟩ := append_eq_ok appended
      obtain rfl : l = l' := Except.ok.inj (located.symm.trans ((locate_same same).mp located'))
      rw [appended, put_put] at h
      simp only at h
      cases renamed : (fs.put l (some (.file (old ++ s.bytes)))).perform
          (.rename (bufferPath path) path) with
      | error e =>
        rw [renamed] at h
        cases h
        exact .inr ⟨l, _, located, free, rfl⟩
      | ok next =>
        rw [renamed] at h
        cases h

theorem untouched_of_refused {e : FileError}
    (h : own.performAll (saveSteps path s) fs = (.error e, fs')) : Untouched fs fs' path := by
  rcases refused_saveSteps h with rfl | ⟨l, bytes, located, free, rfl⟩
  · exact .refl _ path
  · exact untouched_put located free

inductive Event where
  | lookedUp (site : String) (answer : Option String)
  | set (site endpoint : String) (result : Except Failure Unit)
  | disturbed (fs : FileSystem)

def Event.set? : Event → Option (String × String)
  | .set site endpoint (.ok ()) => some (site, endpoint)
  | _ => none

/-- What happens from one state of the files and the store to another. Others may do to the files
whatever they like. -/
inductive History (fs : FileSystem) (store : FileStore) :
    List Event → FileSystem → FileStore → Prop where
  | start : History fs store [] fs store
  | lookedUp {events : List Event} {fs' : FileSystem} {store' : FileStore}
      (history : History fs store events fs' store') (site : String) :
      History fs store (events ++ [.lookedUp site ((Store.file store').get? site)]) fs' store'
  | set {events : List Event} {fs' fs'' : FileSystem} {store' store'' : FileStore}
      {site endpoint : String} {result : Except Failure Unit}
      (history : History fs store events fs' store')
      (h : putInPlace own site endpoint store' fs' = ((result, store''), fs'')) :
      History fs store (events ++ [.set site endpoint result]) fs'' store''
  | disturbed {events : List Event} {fs' : FileSystem} {store' : FileStore}
      (history : History fs store events fs' store') (fs'' : FileSystem) :
      History fs store (events ++ [.disturbed fs'']) fs'' store'

/-- All that one call to set a fingerprint can do. -/
theorem putInPlace_cases (sorted : store.known.Sorted)
    (h : putInPlace own site endpoint store fs = ((result, store'), fs')) :
    (result = .ok () ∧ store' = store.setting site endpoint ∧
        fs'.read store.path = .ok (store.known.put site endpoint).bytes) ∨
      ∃ e, result = .error e ∧ store' = store ∧ Untouched fs fs' store.path := by
  rw [putInPlace_eq sorted, put_eq] at h
  cases saved : own.performAll (saveSteps store.path (store.known.put site endpoint)) fs with
  | mk answer next =>
    rw [saved] at h
    cases answer with
    | ok done =>
      cases h
      exact .inl ⟨rfl, rfl, read_of_saved saved⟩
    | error e =>
      cases h
      exact .inr ⟨_, rfl, rfl, untouched_of_refused saved⟩

theorem History.known {events : List Event} (history : History fs store events fs' store')
    (sorted : store.known.Sorted) :
    store'.path = store.path ∧ store'.known = store.known.putAll (events.filterMap Event.set?) := by
  induction history with
  | start => exact ⟨rfl, rfl⟩
  | lookedUp history site ih =>
    rw [List.filterMap_append]
    simpa [Event.set?, List.filterMap_cons] using ih
  | @set events _ _ before after site endpoint result history h ih =>
    obtain ⟨path, known⟩ := ih
    have sorted' : before.known.Sorted := known ▸ sorted.putAll _
    rw [List.filterMap_append, Fingerprints.putAll_append, ← known]
    rcases putInPlace_cases sorted' h with ⟨rfl, rfl, -⟩ | ⟨e, rfl, rfl, -⟩
    · exact ⟨path, rfl⟩
    · exact ⟨path, rfl⟩
  | disturbed history fs'' ih =>
    rw [List.filterMap_append]
    simpa [Event.set?, List.filterMap_cons] using ih

theorem openAt_of_read (sorted : store.known.Sorted)
    (read : fs.read store.path = .ok store.known.bytes) :
    FileStore.openAt own store.path fs = (.ok store, fs) := by
  have housed : Housed fs store.path := fun folder => folderStands_of_read read
  rw [openAt_of_housed housed, read]
  have content := Fingerprints.ofBytes?_bytes sorted
  rw [ofContent_eq_ok.mpr ⟨rfl, .inl ⟨_, rfl, content⟩⟩]

/-- A store that was opened gives out what it read then or what was set last with success. If a
fingerprint cannot be set, the store and whatever is at its path are as before, and if it could be
set, the store is opened again as it is. -/
theorem memory_agrees_with_disk {fs₀ : FileSystem} {opened : FileStore} {events : List Event}
    (open_at : FileStore.openAt own path fs₀ = (.ok opened, fs))
    (history : History fs opened events fs' store) :
    (∀ site, (Store.file store).get? site =
        ((events.filterMap Event.set?).reverse.lookup site).or (opened.known.get? site)) ∧
      ∀ site endpoint result store' fs'',
        putInPlace own site endpoint store fs' = ((result, store'), fs'') →
          (∀ e, result = .error e → store' = store ∧ Untouched fs' fs'' path) ∧
            (result = .ok () → (∀ other, (Store.file store').get? other =
                if other = site then some endpoint else (Store.file store).get? other) ∧
              FileStore.openAt own path fs'' = (.ok store', fs'')) := by
  obtain ⟨rfl, onDisk⟩ := onDisk_of_openAt open_at
  obtain ⟨path, known⟩ := history.known onDisk.sorted
  have sorted : store.known.Sorted := known ▸ onDisk.sorted.putAll _
  constructor
  · intro site
    show store.known.get? site = _
    rw [known, Fingerprints.get?_putAll_last]
  · intro site endpoint result store' fs'' h
    rw [← path]
    rcases putInPlace_cases sorted h with ⟨rfl, rfl, read⟩ | ⟨e, rfl, rfl, untouched⟩
    · constructor
      · intro e he
        cases he
      · intro _
        constructor
        · intro other
          show (store.known.put site endpoint).get? other = _
          by_cases h : other = site
          · rw [h, Fingerprints.get?_put_self, if_pos rfl]
          · rw [Fingerprints.get?_put_of_ne _ h, if_neg h]
            rfl
        · have sorted' : (store.setting site endpoint).known.Sorted := sorted.put site endpoint
          exact openAt_of_read sorted' read
    · constructor
      · intro _ _
        exact ⟨rfl, untouched⟩
      · intro he
        cases he

def sampleRemoved : FileSystem where
  entry? _ := none
  home := ["home"]

theorem removed_sample :
    own.performAll (saveSteps "seen.json" s) sampleRemoved = (.error .missing, sampleRemoved) := by
  have names : FilePath.names "seen.json.tmp" = ["seen.json.tmp"] := by decide +kernel
  have nowhere : sampleRemoved.locate "seen.json.tmp" = .error .missing := by
    have home : sampleRemoved.start "seen.json.tmp" = ["home"] := rfl
    have nul : ("seen.json.tmp".contains '\x00') = false := by simp
    rw [locate, if_neg (by decide), if_neg (by simp [nul]), names, home]
    rfl
  have refused : sampleRemoved.perform (.create (bufferPath "seen.json")) = .error .missing := by
    show sampleRemoved.create "seen.json.tmp" = _
    rw [create, nowhere]
    rfl
  rw [saveSteps, performAll_cons, refused]

def sampleEvents : List Event :=
  [.set "news" "/2" (.ok ()), .disturbed sampleRemoved, .set "news" "/3" (.error (.file .missing))]

theorem sample_history :
    History sampleFiles sampleStore sampleEvents sampleRemoved
      (sampleStore.setting "news" "/2") := by
  have sorted : sampleStore.known.Sorted := onDisk_sample.sorted
  obtain ⟨next, saved⟩ := put_sample "news" "/2"
  have first : putInPlace own "news" "/2" sampleStore sampleFiles =
      ((.ok (), sampleStore.setting "news" "/2"), next) := by
    rw [putInPlace_eq sorted, saved]
  have last : putInPlace own "news" "/3" (sampleStore.setting "news" "/2") sampleRemoved =
      ((.error (.file .missing), sampleStore.setting "news" "/2"), sampleRemoved) := by
    have sorted' : (sampleStore.setting "news" "/2").known.Sorted := sorted.put "news" "/2"
    have path : (sampleStore.setting "news" "/2").path = "seen.json" := rfl
    rw [putInPlace_eq sorted', put_eq, path, removed_sample]
  exact ((History.start.set first).disturbed sampleRemoved).set last

theorem memory_agrees_with_disk_sample :
    FileStore.openAt own "seen.json" sampleFiles = (.ok sampleStore, sampleFiles) ∧
      History sampleFiles sampleStore sampleEvents sampleRemoved (sampleStore.setting "news" "/2") ∧
      (Store.file (sampleStore.setting "news" "/2")).get? "news" = some "/2" := by
  have sorted : sampleStore.known.Sorted := onDisk_sample.sorted
  have located := (locate_sample (.refl sampleFiles)).1
  have read := read_eq_ok.mpr ⟨plain_sample.1, _, located, rfl⟩
  have opened : FileStore.openAt own "seen.json" sampleFiles = (.ok sampleStore, sampleFiles) :=
    openAt_of_read sorted read
  refine ⟨opened, sample_history, ?_⟩
  rw [(memory_agrees_with_disk opened sample_history).1 "news"]
  rfl

end FileStore

end PageWatch
