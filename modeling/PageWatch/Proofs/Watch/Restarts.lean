import PageWatch.Proofs.Store.Agreement
import PageWatch.Proofs.Store.Saving
import PageWatch.Proofs.Watch.Delivery
import PageWatch.Store.Store
import PageWatch.Watch.Tick

/-!
# Restarts

A watcher that keeps its fingerprints in a file may be stopped after any tick and
started again on the file. Side by side with a watcher that is never stopped and keeps
them in memory, it asks the same of everybody and is given the same answers, in
whatever order the sites of a tick take turns.
-/

set_option autoImplicit false

namespace PageWatch

namespace Chain

variable {α β : Type}

def bind : Chain α → (α → Chain β) → Chain β
  | done result, next => next result
  | fetch url timeoutSecs rest, next => fetch url timeoutSecs fun answer => (rest answer).bind next
  | lookup site rest, next => lookup site fun answer => (rest answer).bind next
  | translate text language rest, next =>
    translate text language fun answer => (rest answer).bind next
  | send message rest, next => send message fun answer => (rest answer).bind next
  | record site endpoint rest, next => record site endpoint fun answer => (rest answer).bind next
  | log event rest, next => log event (rest.bind next)

def first : Chain α → (Chain α → Chain β) → Chain β
  | done result, next => next (done result)
  | fetch url timeoutSecs rest, next => fetch url timeoutSecs fun answer => next (rest answer)
  | lookup site rest, next => lookup site fun answer => next (rest answer)
  | translate text language rest, next => translate text language fun answer => next (rest answer)
  | send message rest, next => send message fun answer => next (rest answer)
  | record site endpoint rest, next => record site endpoint fun answer => next (rest answer)
  | log event rest, next => log event (next rest)

theorem run_bind {m : Type → Type} [Monad m] [LawfulMonad m] (w : Collaborators m)
    (chain : Chain α) (next : α → Chain β) :
    (chain.bind next).run w = chain.run w >>= fun result => (next result).run w := by
  induction chain with
  | done result => simp [bind, run]
  | fetch url timeoutSecs rest ih => simp [bind, run, ih]
  | lookup site rest ih => simp [bind, run, ih]
  | translate text language rest ih => simp [bind, run, ih]
  | send message rest ih => simp [bind, run, ih]
  | record site endpoint rest ih => simp [bind, run, ih]
  | log event rest ih => simp [bind, run, ih]

end Chain

abbrev Agenda := List (RuleSet × Chain (Except Failure Outcome))

def Config.agenda (c : Config) (translates : Bool) : Agenda :=
  c.sites.map fun site => (site, .ofSite c translates site)

namespace Agenda

def oneByOne : Agenda → Summary → Chain Summary
  | [], s => .log (.tickComplete s) (.done s)
  | (site, chain) :: rest, s =>
    chain.bind fun result => .log (Outcome.event site result) (oneByOne rest (s.add result))

def inTurns : List Nat → Agenda → Summary → Chain Summary
  | [], agenda, s => agenda.oneByOne s
  | turn :: turns, agenda, s =>
    match agenda[turn]? with
    | none => inTurns turns agenda s
    | some (site, .done result) =>
      .log (Outcome.event site result) (inTurns turns (agenda.eraseIdx turn) (s.add result))
    | some (site, chain) => chain.first fun rest => inTurns turns (agenda.set turn (site, rest)) s

end Agenda

def tickInTurns {m : Type → Type} [Monad m] (w : Collaborators m) (c : Config) (translates : Bool)
    (turns : List Nat) : m Summary :=
  ((c.agenda translates).inTurns turns { total := c.sites.length }).run w

theorem tickInTurns_nil {m : Type → Type} [Monad m] [LawfulMonad m] (w : Collaborators m)
    (c : Config) (translates : Bool) : tickInTurns w c translates [] = tick w c translates := by
  unfold tickInTurns tick Agenda.inTurns Config.agenda
  generalize ({ total := c.sites.length } : Summary) = s
  induction c.sites generalizing s with
  | nil => simp [Agenda.oneByOne, Chain.run, Summary.conclude]
  | cons site sites ih =>
    simp only [List.map_cons, Agenda.oneByOne, Chain.run_bind, Chain.run, ih, List.foldlM_cons,
      Summary.report, bind_assoc, pure_bind]

/-- Everybody else: those who serve pages, translate titles and are notified. What they answer may
depend on anything that happened among them before. -/
structure Outside (σ : Type) where
  fetch : (url : String) → (timeoutSecs : Nat) → StateM σ (Except Failure String)
  translate : (text language : String) → StateM σ (Except Failure String)
  send : (message : String) → StateM σ (Except Failure Unit)

structure Deployed (σ : Type) where
  world : σ
  store : Store
  files : FileSystem
  tried : List (String × Except Failure Unit) := []
  unsaved : Bool := false

namespace Deployed

open FileSystem FileStore

variable {σ α β : Type}

def outside (x : StateM σ α) : StateM (Deployed σ) α :=
  modifyGet fun d =>
    let (answer, world) := x d.world
    (answer, { d with world })

def onFiles (x : StateM FileSystem α) : StateM (Deployed σ) α :=
  modifyGet fun d =>
    let (answer, files) := x d.files
    (answer, { d with files })

def collaborators (o : Outside σ) : Collaborators (StateM (Deployed σ)) where
  fetch url timeoutSecs := outside (o.fetch url timeoutSecs)
  lookup site := return .ok ((← get).store.get? site)
  translate text language := outside (o.translate text language)
  send message := do
    let answer ← outside (o.send message)
    modify fun d => { d with tried := (message, answer) :: d.tried }
    return answer
  record site endpoint := do
    match ← onFiles ((← get).store.put own site endpoint) with
    | .ok store => modify fun d => { d with store }; return .ok ()
    | .error e => modify fun d => { d with unsaved := true }; return .error e
  log _ := pure ()

/-- What can be seen from outside after a step. -/
structure Seen (σ : Type) where
  summary? : Option Summary
  world : σ
  tried : List (String × Except Failure Unit)
  fingerprints : Fingerprints

def seen (d : Deployed σ) (summary? : Option Summary) : Seen σ :=
  ⟨summary?, d.world, d.tried, d.store.known⟩

inductive Step (σ : Type) where
  | tick (turns : List Nat)
  | change (f : σ → σ)

inductive Event (σ : Type) where
  | step (s : Step σ)
  | restart

def Event.step? : Event σ → Option (Step σ)
  | .step s => some s
  | .restart => none

def perform (o : Outside σ) (c : Config) (translates : Bool) :
    Step σ → StateM (Deployed σ) (Seen σ)
  | .tick turns => do
    let summary ← tickInTurns (collaborators o) c translates turns
    return (← get).seen (some summary)
  | .change f => do
    modify fun d => { d with world := f d.world }
    return (← get).seen none

def restart (path : String) : StateM (Deployed σ) (Except Failure Unit) := do
  match ← onFiles (Store.openFile own (fun _ => pure ()) path) with
  | .ok store => modify fun d => { d with store }; return .ok ()
  | .error e => return .error e

/-- What is seen after each step, or why the file could not be opened again. -/
def live (o : Outside σ) (c : Config) (translates : Bool) (path : String) :
    List (Event σ) → StateM (Deployed σ) (Except Failure (List (Seen σ)))
  | [] => return .ok []
  | .step s :: events => do
    let seen ← perform o c translates s
    return (← live o c translates path events).map (seen :: ·)
  | .restart :: events => do
    match ← restart path with
    | .ok () => live o c translates path events
    | .error e => return .error e

variable {d f m : Deployed σ} {path : String}

/-- The first keeps in a file, which is as it was left, what the second keeps in memory. -/
structure Together (path : String) (f m : Deployed σ) : Prop where
  world : f.world = m.world
  tried : f.tried = m.tried
  stores : ∃ s, f.store = .file s ∧ s.path = path ∧ OnDisk f.files s ∧ m.store = .memory s.known

structure Ready (path : String) (d : Deployed σ) : Prop where
  saved : d.unsaved = false
  store : ∃ s, d.store = .file s ∧ s.path = path
  writable : Writable d.files path

/-- What is done does not tell a file from memory, unless a fingerprint cannot be saved, which is
not forgotten and does not happen to one that is ready. -/
structure Unnoticed (path : String) (x : StateM (Deployed σ) α) : Prop where
  lasting : ∀ d, (x d).2.unsaved = false → d.unsaved = false
  ready : ∀ d, Ready path d → Ready path (x d).2
  same : ∀ f m, Together path f m → (x f).2.unsaved = false →
    (x f).1 = (x m).1 ∧ Together path (x f).2 (x m).2

theorem unnoticed_pure (a : α) : Unnoticed path (pure a : StateM (Deployed σ) α) where
  lasting _ saved := saved
  ready _ ready := ready
  same _ _ together _ := ⟨rfl, together⟩

theorem Unnoticed.bind {x : StateM (Deployed σ) α} {next : α → StateM (Deployed σ) β}
    (first : Unnoticed path x) (later : ∀ a, Unnoticed path (next a)) :
    Unnoticed path (x >>= next) where
  lasting d saved := first.lasting d ((later _).lasting _ saved)
  ready d ready := (later _).ready _ (first.ready d ready)
  same f m together saved := by
    obtain ⟨answer, between⟩ := first.same f m together ((later _).lasting _ saved)
    have rest := (later (x f).1).same _ _ between saved
    have meets : (x >>= next) m = next (x f).1 (x m).2 := by
      rw [answer]
      rfl
    rw [meets]
    exact rest

theorem unnoticed_outside (x : StateM σ α) : Unnoticed path (outside x) where
  lasting _ saved := saved
  ready _ ready := ⟨ready.saved, ready.store, ready.writable⟩
  same f m together _ := by
    have answers : x f.world = x m.world := by rw [together.world]
    have answer : (x f.world).1 = (x m.world).1 := by rw [answers]
    have world : (x f.world).2 = (x m.world).2 := by rw [answers]
    exact ⟨answer, world, together.tried, together.stores⟩

theorem unnoticed_tried (attempt : String × Except Failure Unit) :
    Unnoticed path (modify fun d : Deployed σ => { d with tried := attempt :: d.tried }) where
  lasting _ saved := saved
  ready _ ready := ⟨ready.saved, ready.store, ready.writable⟩
  same _ _ together _ := by
    have tried := congrArg (attempt :: ·) together.tried
    exact ⟨rfl, together.world, tried, together.stores⟩

theorem Together.known (together : Together path f m) : f.store.known = m.store.known := by
  obtain ⟨s, file, -, -, memory⟩ := together.stores
  rw [file, memory]
  rfl

theorem unnoticed_lookup (o : Outside σ) (site : String) :
    Unnoticed path ((collaborators o).lookup site) where
  lasting _ saved := saved
  ready _ ready := ready
  same f m together _ := by
    have answers : f.store.get? site = m.store.get? site := by
      rw [Store.get?, Store.get?, together.known]
    exact ⟨congrArg Except.ok answers, together⟩

theorem record_file (o : Outside σ) {s : FileStore} (site endpoint : String)
    (file : d.store = .file s) :
    (collaborators o).record site endpoint d =
      match s.put own site endpoint d.files with
      | (.ok saved, files) => (.ok (), { d with store := .file saved, files })
      | (.error e, files) => (.error e, { d with files, unsaved := true }) := by
  obtain ⟨world, store, files, tried, unsaved⟩ := d
  obtain rfl : store = .file s := file
  simp only [collaborators, bind, StateT.bind, get, getThe, MonadStateOf.get, StateT.get, onFiles,
    Store.put, modifyGet, MonadStateOf.modifyGet, StateT.modifyGet, pure]
  rcases s.put own site endpoint files with ⟨_ | _, after⟩ <;> rfl

theorem record_memory (o : Outside σ) {known : Fingerprints} (site endpoint : String)
    (memory : d.store = .memory known) :
    (collaborators o).record site endpoint d =
      (.ok (), { d with store := .memory (known.put site endpoint) }) := by
  obtain ⟨world, store, files, tried, unsaved⟩ := d
  obtain rfl : store = .memory known := memory
  rfl

theorem unnoticed_record (o : Outside σ) (site endpoint : String) :
    Unnoticed path ((collaborators o).record site endpoint) where
  lasting d saved := by
    cases store : d.store with
    | memory known => rwa [record_memory o site endpoint store] at saved
    | file s =>
      rw [record_file o site endpoint store] at saved
      cases put : s.put own site endpoint d.files with
      | mk answer files =>
        rw [put] at saved
        cases answer with
        | error e => cases saved
        | ok after => exact saved
  ready d ready := by
    obtain ⟨s, file, rfl⟩ := ready.store
    obtain ⟨files, put, writable⟩ := put_of_writable ready.writable site endpoint
    rw [record_file o site endpoint file, put]
    exact ⟨ready.saved, ⟨_, rfl, rfl⟩, writable⟩
  same f m together saved := by
    obtain ⟨s, file, rfl, onDisk, memory⟩ := together.stores
    rw [record_file o site endpoint file] at saved ⊢
    rw [record_memory o site endpoint memory]
    cases put : s.put own site endpoint f.files with
    | mk answer files =>
      cases answer with
      | error e =>
        rw [put] at saved
        cases saved
      | ok after =>
        obtain ⟨rfl, onDisk⟩ := onDisk.put put
        exact ⟨rfl, together.world, together.tried, _, rfl, rfl, onDisk, rfl⟩

theorem unnoticed_send (o : Outside σ) (message : String) :
    Unnoticed path ((collaborators o).send message) := by
  apply (unnoticed_outside (o.send message)).bind
  intro answer
  exact (unnoticed_tried (message, answer)).bind fun _ => unnoticed_pure answer

/-- No chain of requests tells a file from memory. -/
theorem unnoticed_run (o : Outside σ) (chain : Chain α) :
    Unnoticed path (chain.run (collaborators o)) := by
  induction chain with
  | done result => exact unnoticed_pure result
  | fetch url timeoutSecs rest ih => exact (unnoticed_outside (o.fetch url timeoutSecs)).bind ih
  | lookup site rest ih => exact (unnoticed_lookup o site).bind ih
  | translate text language rest ih => exact (unnoticed_outside (o.translate text language)).bind ih
  | send message rest ih => exact (unnoticed_send o message).bind ih
  | record site endpoint rest ih => exact (unnoticed_record o site endpoint).bind ih
  | log event rest ih => exact (unnoticed_pure ()).bind fun _ => ih

theorem unnoticed_seen (summary? : Option Summary) :
    Unnoticed path (do return (← get).seen summary? : StateM (Deployed σ) (Seen σ)) where
  lasting _ saved := saved
  ready _ ready := ready
  same f m together _ := by
    have sight : f.seen summary? = m.seen summary? := by
      simp only [seen, together.world, together.tried, together.known]
    exact ⟨sight, together⟩

theorem unnoticed_change (change : σ → σ) :
    Unnoticed path (modify fun d : Deployed σ => { d with world := change d.world }) where
  lasting _ saved := saved
  ready _ ready := ⟨ready.saved, ready.store, ready.writable⟩
  same _ _ together _ := ⟨rfl, congrArg change together.world, together.tried, together.stores⟩

theorem unnoticed_perform (o : Outside σ) (c : Config) (translates : Bool) (s : Step σ) :
    Unnoticed path (perform o c translates s) := by
  cases s with
  | tick turns => exact (unnoticed_run o _).bind fun summary => unnoticed_seen (some summary)
  | change f => exact (unnoticed_change f).bind fun _ => unnoticed_seen none

theorem restart_eq (path : String) (d : Deployed σ) :
    restart path d =
      match FileStore.openAt own path d.files with
      | (.ok s, files) => (.ok (), { d with store := .file s, files })
      | (.error e, files) => (.error e, { d with files }) := by
  obtain ⟨world, store, files, tried, unsaved⟩ := d
  simp only [restart, bind, StateT.bind, onFiles, Store.openFile, modifyGet,
    MonadStateOf.modifyGet, StateT.modifyGet]
  rcases FileStore.openAt own path files with ⟨_ | _, after⟩ <;> rfl

theorem restart_unsaved (path : String) (d : Deployed σ) :
    (restart path d).2.unsaved = d.unsaved := by
  rw [restart_eq]
  rcases FileStore.openAt own path d.files with ⟨_ | _, after⟩ <;> rfl

theorem Ready.restart (ready : Ready path d) : Ready path (restart path d).2 := by
  rw [restart_eq, openAt_of_writable ready.writable]
  cases opened : ofContent path (d.files.read path) with
  | error e => exact ready
  | ok s => exact ⟨ready.saved, ⟨s, rfl, (ofContent_eq_ok.mp opened).1⟩, ready.writable⟩

/-- The file is opened as it was left. -/
theorem Together.restart (together : Together path f m) :
    (restart path f).1 = .ok () ∧ Together path (restart path f).2 m := by
  obtain ⟨s, file, rfl, onDisk, memory⟩ := together.stores
  have answer := onDisk.openAt
  rw [restart_eq]
  cases opened : FileStore.openAt own s.path f.files with
  | mk result files =>
    obtain rfl : result = .ok s := by rwa [opened] at answer
    exact ⟨rfl, together.world, together.tried, s, rfl, rfl, (onDisk_of_openAt opened).2, memory⟩

section Live

variable (o : Outside σ) (c : Config) (translates : Bool) (path : String) (events : List (Event σ))

theorem live_step (s : Step σ) (d : Deployed σ) :
    live o c translates path (.step s :: events) d =
      ((live o c translates path events (perform o c translates s d).2).1.map
          ((perform o c translates s d).1 :: ·),
        (live o c translates path events (perform o c translates s d).2).2) := rfl

theorem live_restart (d : Deployed σ) :
    live o c translates path (.restart :: events) d =
      match restart path d with
      | (.ok (), d') => live o c translates path events d'
      | (.error e, d') => (.error e, d') := by
  simp only [live, bind, StateT.bind]
  rcases restart path d with ⟨_ | _, d'⟩ <;> rfl

theorem live_lasting (d : Deployed σ)
    (saved : (live o c translates path events d).2.unsaved = false) : d.unsaved = false := by
  induction events generalizing d with
  | nil => exact saved
  | cons e events ih =>
    cases e with
    | step s =>
      rw [live_step] at saved
      have unnoticed : Unnoticed path (perform o c translates s) :=
        unnoticed_perform o c translates s
      exact unnoticed.lasting d (ih _ saved)
    | restart =>
      rw [live_restart] at saved
      rw [← restart_unsaved path d]
      cases restarted : restart path d with
      | mk answer d' =>
        rw [restarted] at saved
        cases answer with
        | error e => exact saved
        | ok done => exact ih d' saved

theorem live_ready {d : Deployed σ} (ready : Ready path d) :
    (live o c translates path events d).2.unsaved = false := by
  induction events generalizing d with
  | nil => exact ready.saved
  | cons e events ih =>
    cases e with
    | step s =>
      rw [live_step]
      exact ih ((unnoticed_perform o c translates s).ready d ready)
    | restart =>
      have again := ready.restart
      rw [live_restart]
      cases restarted : restart path d with
      | mk answer d' =>
        rw [restarted] at again
        cases answer with
        | error e => exact again.saved
        | ok done => exact ih again

theorem live_same {f m : Deployed σ} (together : Together path f m)
    (saved : (live o c translates path events f).2.unsaved = false) :
    (live o c translates path events f).1 =
      .ok ((events.filterMap Event.step?).mapM (perform o c translates) m).1 := by
  induction events generalizing f m with
  | nil => rfl
  | cons e events ih =>
    cases e with
    | step s =>
      rw [live_step] at saved ⊢
      have after := live_lasting o c translates path events _ saved
      obtain ⟨sight, between⟩ := (unnoticed_perform o c translates s).same f m together after
      have steps : (Event.step s :: events).filterMap Event.step? =
          s :: events.filterMap Event.step? := rfl
      rw [ih between saved, sight, steps, List.mapM_cons]
      rfl
    | restart =>
      obtain ⟨answer, again⟩ := together.restart
      rw [live_restart] at saved ⊢
      cases restarted : restart path f with
      | mk result f' =>
        rw [restarted] at saved answer again
        obtain rfl : result = .ok () := answer
        exact ih again saved

end Live

def started (world : σ) (store : Store) (files : FileSystem) : Deployed σ := { world, store, files }

/-- A watcher whose fingerprints are in a file can be stopped and started again between any steps:
as long as they can be saved, the counts, the messages that are tried and accepted, and the
fingerprints after each step are those of a watcher that keeps the same fingerprints in memory and
is never stopped. They can be saved as long as the file can be written to. -/
theorem restarts_unseen {files files' : FileSystem} {s : FileStore}
    (opened : FileStore.openAt own path files = (.ok s, files')) (o : Outside σ) (c : Config)
    (translates : Bool) (world : σ) (elsewhere : FileSystem) (events : List (Event σ)) :
    (Writable files' path →
        (live o c translates path events (started world (.file s) files')).2.unsaved = false) ∧
      ((live o c translates path events (started world (.file s) files')).2.unsaved = false →
        (live o c translates path events (started world (.file s) files')).1 =
          .ok ((events.filterMap Event.step?).mapM (perform o c translates)
            (started world (.memory s.known) elsewhere)).1) := by
  obtain ⟨same, onDisk⟩ := onDisk_of_openAt opened
  constructor
  · intro writable
    have ready : Ready path (started world (.file s) files') := ⟨rfl, ⟨s, rfl, same⟩, writable⟩
    exact live_ready o c translates path events ready
  · intro saved
    have together : Together path (started world (.file s) files')
        (started world (.memory s.known) elsewhere) := ⟨rfl, rfl, s, rfl, same, onDisk, rfl⟩
    exact live_same o c translates path events together saved

section Sample

open Watching

def sampleOutside : Outside Unit where
  fetch _ _ := return .ok samplePage
  translate text _ := return .ok text
  send _ := return .ok ()

def sampleSites : Config := sampleConfig 1 [sampleSite "A"]

def sampleRest (stage : Stage) : StateM (Deployed Unit) (Except Failure Outcome) :=
  (stage.chain sampleSites false (sampleSite "A")).run (collaborators sampleOutside)

def sampleSent (d : Deployed Unit) (known : Fingerprints) : Deployed Unit :=
  { d with store := .memory (known.put "A" "x:y"), tried := (sampleText "A", .ok ()) :: d.tried }

variable {known : Fingerprints} (d : Deployed Unit)

theorem sample_examining : sampleRest .examining d = sampleRest (.comparing sampleItem) d := by
  have found : extract (Document.parse samplePage) (sampleSite "A") sampleSites.cutoffTime =
      .ok (.item sampleItem) := sample_extract "A"
  have answer (url : String) (timeoutSecs : Nat) :
      (collaborators sampleOutside).fetch url timeoutSecs d = (.ok samplePage, d) := rfl
  simp only [sampleRest, Stage.chain, Chain.ofSite, Chain.examine, Chain.run, Bind.bind,
    StateT.bind, answer, found]

theorem sample_comparing :
    sampleRest (.comparing sampleItem) d =
      if d.store.get? "A" = some "x:y" then (.ok .unchanged, d)
      else sampleRest (.sending sampleItem sampleItem.title) d := by
  have answer : (collaborators sampleOutside).lookup "A" d = (.ok (d.store.get? "A"), d) := rfl
  have name : (sampleSite "A").name = "A" := rfl
  have endpoint : sampleItem.endpoint = "x:y" := rfl
  simp only [sampleRest, Stage.chain, Chain.ifNews, Chain.run, Bind.bind, StateT.bind, name,
    endpoint, answer]
  cases stored : d.store.get? "A" with
  | none => rfl
  | some old =>
    by_cases same : old = "x:y"
    · simp [same, Chain.run]
      rfl
    · simp [same, Chain.withTitle]
      rfl

theorem sample_sending (memory : d.store = .memory known) :
    sampleRest (.sending sampleItem sampleItem.title) d =
      (.ok (.notified sampleItem), sampleSent d known) := by
  obtain ⟨world, store, files, tried, unsaved⟩ := d
  obtain rfl : store = .memory known := memory
  rfl

theorem sample_tick {d d' : Deployed Unit} {result : Except Failure Outcome}
    (worked : sampleRest .examining d = (result, d')) :
    perform sampleOutside sampleSites false (.tick []) d =
      (d'.seen (some (Summary.add { total := 1 } result)), d') := by
  have sites : sampleSites.sites = [sampleSite "A"] := rfl
  have worked : (Chain.ofSite sampleSites false (sampleSite "A")).run
      (collaborators sampleOutside) d = (result, d') := worked
  simp only [perform, tickInTurns_nil, tick, sites, List.foldlM_cons, List.foldlM_nil,
    Summary.report, Summary.conclude, Bind.bind, StateT.bind, worked]
  rfl

theorem sample_first (memory : d.store = .memory known) (unknown : known.get? "A" ≠ some "x:y") :
    perform sampleOutside sampleSites false (.tick []) d =
      ((sampleSent d known).seen (some { total := 1, notified := 1 }), sampleSent d known) := by
  have apart : d.store.get? "A" ≠ some "x:y" := by
    rw [memory]
    exact unknown
  have worked : sampleRest .examining d = (.ok (.notified sampleItem), sampleSent d known) := by
    rw [sample_examining, sample_comparing, if_neg apart, sample_sending d memory]
  exact sample_tick worked

theorem sample_again (memory : d.store = .memory known) (stored : known.get? "A" = some "x:y") :
    perform sampleOutside sampleSites false (.tick []) d =
      (d.seen (some { total := 1, unchanged := 1 }), d) := by
  have same : d.store.get? "A" = some "x:y" := by
    rw [memory]
    exact stored
  have worked : sampleRest .examining d = (.ok .unchanged, d) := by
    rw [sample_examining, sample_comparing, if_pos same]
  exact sample_tick worked

theorem restarts_unseen_sample :
    FileStore.openAt own "seen.json" sampleFiles = (.ok sampleStore, sampleFiles) ∧
      Writable sampleFiles "seen.json" ∧
      (live sampleOutside sampleSites false "seen.json"
          [.step (.tick []), .restart, .step (.tick [])]
          (started () (.file sampleStore) sampleFiles)).1 =
        .ok [⟨some { total := 1, notified := 1 }, (), [(sampleText "A", .ok ())],
            sampleStore.known.put "A" "x:y"⟩,
          ⟨some { total := 1, unchanged := 1 }, (), [(sampleText "A", .ok ())],
            sampleStore.known.put "A" "x:y"⟩] := by
  have sorted : sampleStore.known.Sorted := Fingerprints.sorted_empty.put "news" "/1"
  have located := locate_sample (.refl sampleFiles)
  have read := read_eq_ok.mpr ⟨plain_sample.1, _, located.1, rfl⟩
  have opened : FileStore.openAt own "seen.json" sampleFiles = (.ok sampleStore, sampleFiles) :=
    openAt_of_read sorted read
  have writable : Writable sampleFiles "seen.json" :=
    ⟨plain_sample.1, ⟨_, located.1, by simp [at?, sampleFiles]⟩, _, located.2,
      by simp [at?, sampleFiles]⟩
  have main := restarts_unseen opened sampleOutside sampleSites false () sampleFiles
    [.step (.tick []), .restart, .step (.tick [])]
  refine ⟨opened, writable, ?_⟩
  have unknown : sampleStore.known.get? "A" ≠ some "x:y" := by decide +kernel
  have stored : (sampleStore.known.put "A" "x:y").get? "A" = some "x:y" :=
    Fingerprints.get?_put_self _ "A" "x:y"
  have first := sample_first (started () (.memory sampleStore.known) sampleFiles) rfl unknown
  have again := sample_again (sampleSent (started () (.memory sampleStore.known) sampleFiles)
    sampleStore.known) rfl stored
  have steps : [Event.step (.tick []), .restart, .step (.tick [])].filterMap Event.step? =
      [(.tick [] : Step Unit), .tick []] := rfl
  rw [main.2 (main.1 writable), steps]
  simp only [List.mapM_cons, List.mapM_nil, Bind.bind, StateT.bind, first, again]
  rfl

end Sample

end Deployed

end PageWatch
