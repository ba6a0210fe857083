import PageWatch.CommandLine.Program
import PageWatch.Proofs.Config.Loaded
import PageWatch.Proofs.Data.Paths
import PageWatch.Proofs.Extraction.Choice
import PageWatch.Proofs.Url.Authorities
import PageWatch.Proofs.Watch.Acts

/-!
# Guards that nothing reaches

Settings are checked when they are loaded, and much of what could go wrong later is
guarded once more where it would. With loaded settings none of these guards is ever
reached: it makes no difference what they would do.
-/

set_option autoImplicit false

namespace PageWatch

theorem Url.parse_error {text : String} {e : UrlError} (h : parse text = .error e) :
    e = .noBase ∨ IsOwn e := by
  unfold parse at h
  split at h
  · exact .inr (ofScheme_error h)
  · cases h
    exact .inl rfl

/-- An error is about the link that was to be resolved. -/
structure Link.OwnFault (base : Url) (link : String) (e : LinkError) : Prop where
  input : e.input = link
  own : Url.IsOwn e.reason
  source : Url.parse link = .error e.reason ∨
    Url.parse link = .error .noBase ∧ base.checkRelative link = .error e.reason

theorem Link.ownFault_of_resolve {base link : String} {realUrl : Option String} {u : Url}
    {host : Url.Host} {e : LinkError} (parsed : Url.parse base = .ok u) (found : u.host = some host)
    (h : resolve base realUrl link = .error e) : OwnFault u link e := by
  have closed : u.isOpaque = false := ((Url.parse_form parsed).2 (by simp [found])).1
  rcases bind_eq_error.mp h with failed | ⟨u', same, h⟩
  · obtain ⟨reason, failed, -⟩ := mapError_eq_error.mp failed
    rw [parsed] at failed
    cases failed
  rw [mapError_eq_ok, parsed] at same
  obtain rfl := Except.ok.inj same
  split at h
  · cases h
  · rename_i relative
    rcases bind_eq_error.mp h with failed | ⟨_, -, h⟩
    · obtain ⟨reason, checked, rfl⟩ := mapError_eq_error.mp failed
      exact ⟨rfl, Url.checkRelative_error closed checked, .inr ⟨relative, checked⟩⟩
    · split at h
      · cases h
      · rw [found] at h
        cases h
  · rename_i reason other alone
    cases h
    exact ⟨rfl, (Url.parse_error alone).resolve_left other, .inl alone⟩

theorem resolve_of_extract {d : Document} {rules : RuleSet} {cutoff : Calendar.Timestamp}
    {e : LinkError} (h : extract d rules cutoff = .error (.badUrl e)) :
    ∃ block title link, locateTitle block rules.title = .ok (title, link) ∧
      Link.resolve rules.baseUrl rules.realUrl link = .error e := by
  unfold extract at h
  split at h
  · cases h
  · rename_i block _ _
    unfold extractFrom at h
    rcases bind_eq_error.mp h with undated | ⟨publishedAt, -, h⟩
    · cases step_of_locateDate undated
    · split at h
      · cases h
      · rcases bind_eq_error.mp h with untitled | ⟨⟨title, link⟩, titled, h⟩
        · cases step_of_locateTitle untitled
        · refine ⟨block, title, link, titled, ?_⟩
          rcases bind_eq_error.mp h with failed | ⟨_, -, h⟩
          · obtain ⟨e', unresolved, same⟩ := mapError_eq_error.mp failed
            obtain rfl := ExtractionError.badUrl.inj same
            exact unresolved
          · cases h

def locateContent (d : Document) (q : Query) : Except ExtractionError (List Node) :=
  let blocks := contentBlocks d q
  if blocks.isEmpty then .error (noContent q) else .ok blocks

theorem extract_eq_first (d : Document) (rules : RuleSet) (cutoff : Calendar.Timestamp)
    (broken : Except ExtractionError Extraction) :
    extract d rules cutoff = (do
      let blocks ← locateContent d rules.content
      match blocks[0]? with
      | some block => extractFrom d block rules cutoff
      | none => broken) := by
  unfold extract locateContent
  cases contentBlocks d rules.content <;> rfl

def Act.key? : Act → Option String
  | lookup site _ => some site
  | record site _ _ => some site
  | _ => none

theorem Stage.Goes.key {c : Config} {translates : Bool} {site : RuleSet} {stage next : Stage}
    {a : Act} {key : String} (goes : Goes c translates site stage a next)
    (found : a.key? = some key) : key = site.name := by
  cases goes <;> simp_all [Act.key?]

/-- The chain of a site uses no key but the name of the site. -/
theorem Chain.keys_of_path {c : Config} {translates : Bool} {site : RuleSet} {acts : List Act}
    {rest : Chain (Except Failure Outcome)}
    (path : Path Chain.Step (Chain.ofSite c translates site) acts rest) :
    ∀ key ∈ acts.filterMap Act.key?, key = site.name := by
  suffices h : (∀ key ∈ acts.filterMap Act.key?, key = site.name) ∧
      ∃ stage, rest.AtStage c translates site stage from h.1
  induction path with
  | start => exact ⟨by simp, .examining, .here .examining⟩
  | more path step ih =>
    obtain ⟨before, stage, at_stage⟩ := ih
    rcases at_stage.step step with ⟨event, rfl, later⟩ | ⟨next, goes, later⟩
    · refine ⟨?_, stage, later⟩
      simpa [Act.key?] using before
    · refine ⟨?_, next, later⟩
      intro key mem
      rw [List.filterMap_append, List.mem_append] at mem
      rcases mem with mem | mem
      · exact before key mem
      · obtain ⟨a, mem, found⟩ := List.mem_filterMap.mp mem
        obtain rfl := List.mem_singleton.mp mem
        exact goes.key found

section Program

variable {m : Type → Type} [Monad m]

open CommandLine

/-- A host that would break when it had to wait for no time at all. -/
def Host.breaking (h : Host m) (broken : m Bool) : Host m :=
  { h with pause := fun n => if n = 0 then broken else h.pause n }

theorem CommandLine.Watcher.watch_breaking (h : Host m) (broken : m Bool) (log : Logger m)
    (w : Watcher) (positive : w.config.schedule.intervalSecs ≠ 0) (limit done : Nat) :
    w.watch (h.breaking broken) log limit done = w.watch h log limit done := by
  induction limit generalizing done with
  | zero => rfl
  | succ limit ih =>
    have pause : (h.breaking broken).pause w.config.schedule.intervalSecs =
        h.pause w.config.schedule.intervalSecs := if_neg positive
    simp only [Watcher.watch, pause, ih]
    rfl

variable [LawfulMonad m]

theorem CommandLine.assemble_bind_congr {β : Type} {h : Host m} {log : Logger m} {c : Config}
    {f g : Except Failure (Watcher × Store) → m β} (failed : ∀ e, f (.error e) = g (.error e))
    (made : ∀ w store, w.config = c → f (.ok (w, store)) = g (.ok (w, store))) :
    assemble h log c >>= f = assemble h log c >>= g := by
  unfold assemble
  split
  · simp only [pure_bind, failed]
  · simp only [pure_bind, failed]
  · rw [bind_assoc, bind_assoc]
    refine bind_congr fun opened => ?_
    cases opened with
    | error e => simp only [pure_bind, failed]
    | ok store =>
      simp only
      split
      · simp only [pure_bind, failed]
      · simp only [pure_bind]
        exact made _ store rfl

theorem CommandLine.perform_breaking (h : Host m) (broken : m Bool) (log : Logger m) (c : Config)
    (positive : c.schedule.intervalSecs ≠ 0) (command : Command) :
    perform (h.breaking broken) log c command = perform h log c command := by
  cases command with
  | run =>
    -- Only the loop waits, and it does so by the settings that the watcher was assembled from.
    have same : ∀ w : Watcher, w.config = c →
        w.watch (h.breaking broken) log tickLimit 0 = w.watch h log tickLimit 0 := by
      rintro w rfl
      exact w.watch_breaking h broken log positive tickLimit 0
    refine assemble_bind_congr (fun _ => rfl) fun w store made => ?_
    simp only [same w made]
  | once => rfl
  | check name => rfl
  | validate => rfl

/-- The store that was opened, where something else is put in place of the lack of a backend. -/
def Store.orBackend (broken : Except Failure Store) : Except Failure Store → Except Failure Store
  | .error (.setup .redisBackend) => broken
  | opened => opened

theorem Store.openConfigured_file (disk : Disk m) (log : LogEvent → m Unit)
    {settings : StoreSettings} (file : settings.backend = .file) (broken : Except Failure Store) :
    orBackend broken <$> openConfigured disk log settings = openConfigured disk log settings := by
  simp only [openConfigured, openFile, FileStore.openAt, file, map_bind, bind_assoc]
  refine bind_congr fun prepared => ?_
  cases prepared with
  | error e => simp [orBackend]
  | ok _ =>
    simp only [bind_assoc, pure_bind]
    refine bind_congr fun content => ?_
    cases content with
    | ok bytes =>
      cases read : Fingerprints.ofBytes? bytes <;> simp [FileStore.ofContent, read, orBackend]
    | error e => cases e <;> simp [FileStore.ofContent, orBackend]

end Program

theorem CommandLine.translatorOf_eq_ok {s : TranslatorSettings}
    (endpoint : s.enabled = true → (nonBlank? s.endpoint).isSome) :
    ∃ translator, translatorOf s = .ok translator ∧ translator.isSome = s.enabled := by
  unfold translatorOf
  split
  · rename_i enabled
    obtain ⟨url, given⟩ := Option.isSome_iff_exists.mp (endpoint enabled)
    simp [Translator.ofSettings, given, enabled, Except.map]
  · rename_i disabled
    exact ⟨none, rfl, by simpa using disabled⟩

open CommandLine

/-- With loaded settings no guard behind the checks is reached. A link that cannot be resolved is at
fault itself, not the base of its site. A first block is there when it is taken, the program never
waits for no time at all, there is a translator if one is wanted, the store does not lack its
backend, and two sites never use one key. -/
theorem guards_unreached {path : String} {content : Except FileError (List UInt8)} {o : Overrides}
    {c : Config} (loaded : Config.load path content o = .ok c) :
    (∀ site ∈ c.sites, ∃ base host,
      Url.parse site.baseUrl = .ok base ∧ base.host = some host ∧
      (∀ link e, Link.resolve site.baseUrl site.realUrl link = .error e →
        Link.OwnFault base link e) ∧
      (∀ d cutoff e, extract d site cutoff = .error (.badUrl e) → ∃ block title link,
        locateTitle block site.title = .ok (title, link) ∧ Link.OwnFault base link e) ∧
      ∀ d cutoff broken, extract d site cutoff = (do
        let blocks ← locateContent d site.content
        match blocks[0]? with
        | some block => extractFrom d block site cutoff
        | none => broken)) ∧
      (c.schedule.intervalSecs ≠ 0 ∧
        ∀ {m : Type → Type} [Monad m] [LawfulMonad m] (h : Host m) (broken : m Bool)
          (log : Logger m) (command : Command),
          perform (h.breaking broken) log c command = perform h log c command) ∧
      (∃ translator, translatorOf c.translator = .ok translator ∧
        translator.isSome = c.translator.enabled) ∧
      (∀ {m : Type → Type} [Monad m] [LawfulMonad m] (disk : Disk m) (log : LogEvent → m Unit)
        (broken : Except Failure Store),
        Store.orBackend broken <$> Store.openConfigured disk log c.store =
          Store.openConfigured disk log c.store) ∧
      ∀ (i j : Nat) (site site' : RuleSet), c.sites[i]? = some site → c.sites[j]? = some site' →
        i ≠ j → Text.trimmed site.name ≠ Text.trimmed site'.name ∧
          ∀ translates acts acts' rest rest',
            Path Chain.Step (Chain.ofSite c translates site) acts rest →
            Path Chain.Step (Chain.ofSite c translates site') acts' rest' →
            ∀ key ∈ acts.filterMap Act.key?, key ∉ acts'.filterMap Act.key? := by
  obtain ⟨none, described⟩ := Config.of_load loaded
  have faultless := Config.faultless_of_fault? none
  refine ⟨?_, ⟨faultless.interval, ?_⟩, translatorOf_eq_ok faultless.endpoint, ?_, ?_⟩
  · intro site mem
    obtain ⟨base, host, parsed, found⟩ := (described site mem).based
    refine ⟨base, host, parsed, found, ?_, ?_, ?_⟩
    · intro link e failed
      exact Link.ownFault_of_resolve parsed found failed
    · intro d cutoff e failed
      obtain ⟨block, title, link, titled, unresolved⟩ := resolve_of_extract failed
      exact ⟨block, title, link, titled, Link.ownFault_of_resolve parsed found unresolved⟩
    · intro d cutoff broken
      exact extract_eq_first d site cutoff broken
  · intro m _ _ h broken log command
    exact perform_breaking h broken log c faultless.interval command
  · intro m _ _ disk log broken
    exact Store.openConfigured_file disk log faultless.backend broken
  · intro i j site site' first second apart
    have names := faultless.names_ne first second apart
    refine ⟨?_, ?_⟩
    · rw [(described site (List.mem_of_getElem? first)).trimmed,
        (described site' (List.mem_of_getElem? second)).trimmed]
      exact names
    · intro translates acts acts' rest rest' path path' key mem mem'
      exact names ((Chain.keys_of_path path key mem).symm.trans (Chain.keys_of_path path' key mem'))

def twoSites : String :=
  "translator=\x7benabled=true,endpoint=\"t\"\x7d\n" ++
  "sites=[\x7bname=\" A\",base_url=\"news://h\",date_formats=[\"2006-1-2\"]," ++
  "rules=\x7bcontent=\"n\",date_tag=\"p\"\x7d\x7d," ++
  "\x7bname=\"B\",base_url=\"news://h\",date_formats=[\"2006-1-2\"]," ++
  "rules=\x7bcontent=\"n\",date_tag=\"p\"\x7d\x7d]"

theorem twoSites_loaded :
    ((Config.load "newswatch.toml" (.ok twoSites.toUTF8.toList) {}).toOption.map fun c =>
      (c.sites.map (·.name), c.translator.enabled)) = some (["A", "B"], true) := by
  rw [Config.load, Config.fileText_toUTF8]
  decide +kernel

theorem guards_unreached_two_sites : ∃ c a b,
    Config.load "newswatch.toml" (.ok twoSites.toUTF8.toList) {} = .ok c ∧ c.sites = [a, b] ∧
      (∃ base host, Url.parse a.baseUrl = .ok base ∧ base.host = some host) ∧
      c.schedule.intervalSecs ≠ 0 ∧ (∃ t, translatorOf c.translator = .ok (some t)) ∧
      Text.trimmed a.name ≠ Text.trimmed b.name := by
  have shown := twoSites_loaded
  cases loaded : Config.load "newswatch.toml" (.ok twoSites.toUTF8.toList) {} with
  | error e =>
    rw [loaded] at shown
    cases shown
  | ok c =>
    rw [loaded] at shown
    obtain ⟨names, enabled⟩ := Prod.mk.inj (Option.some.inj shown)
    obtain ⟨a, rest, sites, -, names⟩ := List.map_eq_cons_iff.mp names
    obtain ⟨b, rest, rfl, -, names⟩ := List.map_eq_cons_iff.mp names
    obtain rfl := List.map_eq_nil_iff.mp names
    obtain ⟨based, ⟨interval, -⟩, ⟨translator, made, wanted⟩, -, apart⟩ := guards_unreached loaded
    obtain ⟨base, host, parsed, found, -⟩ := based a (by simp [sites])
    rw [enabled] at wanted
    obtain ⟨t, rfl⟩ := Option.isSome_iff_exists.mp wanted
    have differ := (apart 0 1 a b (by simp [sites]) (by simp [sites]) (by decide)).1
    exact ⟨c, a, b, rfl, sites, ⟨base, host, parsed, found⟩, interval, ⟨t, made⟩, differ⟩

end PageWatch
