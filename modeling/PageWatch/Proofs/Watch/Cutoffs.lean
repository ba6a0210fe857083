import PageWatch.Proofs.Data.Results
import PageWatch.Proofs.Extraction.Endpoints
import PageWatch.Proofs.Extraction.Locality
import PageWatch.Proofs.Watch.Delivery
import PageWatch.Proofs.Watch.Verdict

/-!
# Later cutoffs

A later cutoff makes some pages stale and changes nothing else on any page. So of two
ticks that differ only in the cutoff, the one with the later cutoff finds some of the
sites stale, and the other sites come to the same in both. What a site that has become
stale would have sent and stored is missing, and nothing else is.
-/

set_option autoImplicit false

namespace PageWatch

section Page

variable {t u p q : Calendar.Timestamp}

theorem Calendar.Timestamp.isBefore_of_later (later : u.isBefore t = false)
    (before : p.isBefore t = true) : p.isBefore u = true := by
  simp only [isBefore, decide_eq_false_iff_not, decide_eq_true_eq] at later before ⊢
  omega

def itemFrom (block : Node) (rules : RuleSet) (publishedAt : Calendar.Timestamp) :
    Except ExtractionError Extraction := do
  let found ← locateTitle block rules.title
  let endpoint ← (Link.resolve rules.baseUrl rules.realUrl found.2).mapError .badUrl
  return .item ⟨found.1, endpoint, publishedAt⟩

theorem itemFrom_ne_stale (block : Node) (rules : RuleSet) :
    itemFrom block rules p ≠ .ok (.stale q) := by
  intro stale
  obtain ⟨found, -, stale⟩ := bind_eq_ok.mp stale
  obtain ⟨endpoint, -, stale⟩ := bind_eq_ok.mp stale
  cases stale

theorem extractFrom_of_date {d : Document} {block : Node} {rules : RuleSet}
    (dated : locateDate d block rules = .ok p) (cutoff : Calendar.Timestamp) :
    extractFrom d block rules cutoff =
      if p.isBefore cutoff then .ok (.stale p) else itemFrom block rules p := by
  rw [extractFrom, dated]
  rfl

/-- With a later cutoff a page is as it was or has become stale. -/
theorem extract_later (d : Document) (rules : RuleSet) (later : u.isBefore t = false) :
    extract d rules u = extract d rules t ∨
      (∃ p, extract d rules u = .ok (.stale p)) ∧ ∀ p, extract d rules t ≠ .ok (.stale p) := by
  unfold extract
  cases contentBlocks d rules.content with
  | nil => exact .inl rfl
  | cons block blocks =>
    simp only
    cases dated : locateDate d block rules with
    | error e =>
      rw [extractFrom, extractFrom, dated]
      exact .inl rfl
    | ok p =>
      rw [extractFrom_of_date dated, extractFrom_of_date dated]
      by_cases before : p.isBefore t = true
      · rw [if_pos before, if_pos (Calendar.Timestamp.isBefore_of_later later before)]
        exact .inl rfl
      · rw [if_neg before]
        by_cases after : p.isBefore u = true
        · rw [if_pos after]
          exact .inr ⟨⟨p, rfl⟩, fun _ => itemFrom_ne_stale block rules⟩
        · rw [if_neg after]
          exact .inl rfl

end Page

section Site

variable {answers : Answers} {c : Config} {translates : Bool} {site : RuleSet}
  {cutoff : Calendar.Date} {held : Except Failure (Option String)}
  {result : Except Failure Outcome} {world world' : World} {name : String}

namespace Answers

theorem get?_leaves_of_ne (apart : name ≠ site.name) :
    (answers.leaves c site result world).store.get? name = world.store.get? name := by
  refine Fingerprints.get?_putAll_of_not_mem _ _ ?_
  unfold recorded
  split
  · exact List.not_mem_nil
  · cases Outcome.notified? result <;> simp [apart]

theorem get?_leaves_congr (agree : world'.store.get? name = world.store.get? name) :
    (answers.leaves c site result world').store.get? name =
      (answers.leaves c site result world).store.get? name := by
  have once : ((answers.recorded site result).map (·.1)).Nodup := by
    unfold recorded
    split
    · exact List.nodup_nil
    · cases Outcome.notified? result <;> simp
  rw [leaves, leaves, Fingerprints.get?_putAll _ _ once, Fingerprints.get?_putAll _ _ once, agree]

theorem leaves_stale : answers.leaves c site (.ok .stale) world = world := by
  have unrecorded : answers.recorded site (.ok .stale) = [] := by
    unfold recorded
    split <;> rfl
  rw [leaves, unrecorded]
  simp [Outcome.notified?, Fingerprints.putAll]

theorem examined_later (answers : Answers) (site : RuleSet)
    (later : (Calendar.Timestamp.midnight cutoff).isBefore c.cutoffTime = false) :
    answers.examined { c with cutoff } site = answers.examined c site ∨
      (∃ p, answers.examined { c with cutoff } site = .ok (.stale p)) ∧
        ∀ p, answers.examined c site ≠ .ok (.stale p) := by
  unfold examined
  cases answers.page site.baseUrl c.crawler.timeoutSecs with
  | error e => exact .inl rfl
  | ok markup =>
    simp only [mapError_eq_ok, ne_eq]
    rcases extract_later (Document.parse markup) site later with same | stale
    · exact .inl (congrArg _ same)
    · exact .inr stale

theorem verdict_ne_stale (fresh : ∀ p, answers.examined c site ≠ .ok (.stale p)) :
    answers.verdict c translates site held ≠ .ok .stale := by
  unfold verdict
  rcases found : answers.examined c site with e | (i | p)
  · nofun
  · simp only
    split
    · unfold announced
      intro stale
      obtain ⟨done, -, other⟩ := map_eq_ok.mp stale
      cases other
    · nofun
  · exact absurd found (fresh p)

theorem verdict_later (later : (Calendar.Timestamp.midnight cutoff).isBefore c.cutoffTime = false) :
    answers.verdict { c with cutoff } translates site held =
        answers.verdict c translates site held ∨
      answers.verdict { c with cutoff } translates site held = .ok .stale ∧
        answers.verdict c translates site held ≠ .ok .stale := by
  rcases examined_later answers site later with same | ⟨⟨p, stale⟩, fresh⟩
  · left
    unfold verdict
    rw [same]
    rfl
  · refine .inr ⟨?_, verdict_ne_stale fresh⟩
    rw [verdict, stale]

end Answers

end Site

def Answers.pass (answers : Answers) (c : Config) (translates : Bool) (sites : List RuleSet) :
    StateM World (List (RuleSet × Except Failure Outcome)) :=
  sites.mapM fun site => do
    return (site, ← (Chain.ofSite c translates site).run answers.collaborators)

theorem Answers.pass_cons {answers : Answers} {c : Config} {translates : Bool} {site : RuleSet}
    {sites : List RuleSet} {result : Except Failure Outcome}
    {reports : List (RuleSet × Except Failure Outcome)} {world w v : World}
    (runs : (Chain.ofSite c translates site).run answers.collaborators world = (result, w))
    (passes : answers.pass c translates sites w = (reports, v)) :
    answers.pass c translates (site :: sites) world = ((site, result) :: reports, v) := by
  rw [pass, List.mapM_cons]
  change (fun said : _ × World =>
      (fun rest : _ × World => ((site, said.1) :: rest.1, rest.2))
        (answers.pass c translates sites said.2))
    ((Chain.ofSite c translates site).run answers.collaborators world) = _
  rw [runs]
  simp only
  rw [passes]

theorem Answers.tick_eq_pass (answers : Answers) (c : Config) (translates : Bool) :
    tick answers.collaborators c translates = do
      let reports ← answers.pass c translates c.sites
      return (reports.map (·.2)).foldl Summary.add { total := c.sites.length } := by
  have counted (sites : List RuleSet) (s : Summary) :
      sites.foldlM (answers.work c translates) s = do
        let reports ← answers.pass c translates sites
        return (reports.map (·.2)).foldl Summary.add s := by
    induction sites generalizing s with
    | nil => rfl
    | cons site sites ih =>
      simp only [pass] at ih
      simp only [List.foldlM_cons, pass, List.mapM_cons, work, Summary.report, collaborators, ih]
      rfl
  have concluded : tick answers.collaborators c translates =
      c.sites.foldlM (answers.work c translates) { total := c.sites.length } := rfl
  rw [concluded, counted]

theorem Answers.tick_of_pass {answers : Answers} {c : Config} {translates : Bool} {world w : World}
    {reports : List (RuleSet × Except Failure Outcome)}
    (passes : answers.pass c translates c.sites world = (reports, w)) :
    tick answers.collaborators c translates world =
      ((reports.map (·.2)).foldl Summary.add { total := c.sites.length }, w) := by
  rw [tick_eq_pass]
  change (fun said : _ × World =>
      ((said.1.map (·.2)).foldl Summary.add { total := c.sites.length }, said.2))
    (answers.pass c translates c.sites world) = _
  rw [passes]

/-- What two passes have come to when they differ only in their cutoffs: some of the sites became
stale by the later one. -/
structure Curtailed (reports reports' : List (RuleSet × Except Failure Outcome))
    (world world' : World) : Prop where
  outcomes : List.Forall₂ (fun r r' => r'.1 = r.1 ∧ (r'.2 = r.2 ∨ r'.2 = .ok .stale))
    reports reports'
  accepted : world'.accepted.Sublist world.accepted
  stored : ∀ name, world'.store.get? name ≠ world.store.get? name →
    ∃ site, site.name = name ∧ (site, .ok .stale) ∈ reports' ∧ (site, .ok .stale) ∉ reports

namespace Curtailed

variable {answers : Answers} {c : Config} {translates : Bool} {site : RuleSet}
  {cutoff : Calendar.Date} {world world' : World}
  {reports reports' : List (RuleSet × Except Failure Outcome)}

theorem refl (world : World) : Curtailed [] [] world world where
  outcomes := .nil
  accepted := .refl _
  stored _ differs := absurd rfl differs

theorem sites (curtailed : Curtailed reports reports' world world') :
    reports'.map (·.1) = reports.map (·.1) := by
  obtain ⟨outcomes, -, -⟩ := curtailed
  induction outcomes with
  | nil => rfl
  | cons first _ ih => rw [List.map_cons, List.map_cons, first.1, ih]

theorem name_mem (curtailed : Curtailed reports reports' world world')
    {result : Except Failure Outcome} (mem : (site, result) ∈ reports') :
    site.name ∈ reports.map (·.1.name) := by
  have worked : site ∈ reports.map (·.1) := curtailed.sites ▸ List.mem_map_of_mem mem
  obtain ⟨report, found, rfl⟩ := List.mem_map.mp worked
  exact List.mem_map_of_mem found

theorem agree (curtailed : Curtailed reports reports' world world')
    (apart : site.name ∉ reports.map (·.1.name)) :
    world'.store.get? site.name = world.store.get? site.name := by
  by_contra differs
  obtain ⟨other, same, mem, -⟩ := curtailed.stored site.name differs
  exact apart (same ▸ curtailed.name_mem mem)

theorem not_mem_append (curtailed : Curtailed reports reports' world world')
    (apart : site.name ∉ reports.map (·.1.name)) {other : RuleSet}
    (mem : (other, .ok .stale) ∈ reports') (fresh : (other, .ok .stale) ∉ reports)
    (result : Except Failure Outcome) : (other, .ok .stale) ∉ reports ++ [(site, result)] := by
  rw [List.mem_append, not_or, List.mem_singleton]
  refine ⟨fresh, fun same => ?_⟩
  obtain rfl : other = site := congrArg Prod.fst same
  exact apart (curtailed.name_mem mem)

theorem same (curtailed : Curtailed reports reports' world world')
    (apart : site.name ∉ reports.map (·.1.name)) (result : Except Failure Outcome) :
    Curtailed (reports ++ [(site, result)]) (reports' ++ [(site, result)])
      (answers.leaves c site result world) (answers.leaves c site result world') where
  outcomes := List.rel_append curtailed.outcomes (.cons ⟨rfl, .inl rfl⟩ .nil)
  accepted := curtailed.accepted.append_right _
  stored name differs := by
    have before : world'.store.get? name ≠ world.store.get? name :=
      fun same => differs (Answers.get?_leaves_congr same)
    obtain ⟨other, named, mem, fresh⟩ := curtailed.stored name before
    exact ⟨other, named, List.mem_append_left _ mem,
      curtailed.not_mem_append apart mem fresh result⟩

theorem stale (curtailed : Curtailed reports reports' world world')
    (apart : site.name ∉ reports.map (·.1.name)) {result : Except Failure Outcome}
    (fresh : result ≠ .ok .stale) :
    Curtailed (reports ++ [(site, result)]) (reports' ++ [(site, .ok .stale)])
      (answers.leaves c site result world) world' where
  outcomes := List.rel_append curtailed.outcomes (.cons ⟨rfl, .inr rfl⟩ .nil)
  accepted := curtailed.accepted.trans (List.sublist_append_left _ _)
  stored name differs := by
    by_cases named : name = site.name
    · subst named
      refine ⟨site, rfl, List.mem_append_right _ (List.mem_singleton_self _), ?_⟩
      rw [List.mem_append, not_or, List.mem_singleton]
      refine ⟨fun mem => apart (List.mem_map_of_mem mem), fun same => ?_⟩
      exact fresh (congrArg Prod.snd same).symm
    · rw [Answers.get?_leaves_of_ne named] at differs
      obtain ⟨other, named, mem, before⟩ := curtailed.stored name differs
      exact ⟨other, named, List.mem_append_left _ mem,
        curtailed.not_mem_append apart mem before result⟩

theorem step (answers : Answers) (translates : Bool)
    (curtailed : Curtailed reports reports' world world')
    (later : (Calendar.Timestamp.midnight cutoff).isBefore c.cutoffTime = false)
    (apart : site.name ∉ reports.map (·.1.name)) :
    ∃ result result' w w',
      (Chain.ofSite c translates site).run answers.collaborators world = (result, w) ∧
      (Chain.ofSite { c with cutoff } translates site).run answers.collaborators world' =
        (result', w') ∧
      Curtailed (reports ++ [(site, result)]) (reports' ++ [(site, result')]) w w' := by
  -- The stores agree on the site, so both passes give a verdict on the same.
  have known : answers.known world'.store site.name = answers.known world.store site.name := by
    rw [Answers.known, Answers.known, curtailed.agree apart]
  refine ⟨_, _, _, _, Answers.run_eq_of_verdict world rfl, Answers.run_eq_of_verdict world' rfl, ?_⟩
  rw [known]
  rcases Answers.verdict_later later with same | ⟨stale, fresh⟩
  · rw [same]
    exact curtailed.same apart _
  · rw [stale, Answers.leaves_stale]
    exact curtailed.stale apart fresh

theorem pass (answers : Answers) (translates : Bool)
    (curtailed : Curtailed reports reports' world world')
    (later : (Calendar.Timestamp.midnight cutoff).isBefore c.cutoffTime = false)
    {sites : List RuleSet} (names : (sites.map (·.name)).Nodup)
    (apart : ∀ site ∈ sites, site.name ∉ reports.map (·.1.name)) :
    ∃ more more' w w', answers.pass c translates sites world = (more, w) ∧
      answers.pass { c with cutoff } translates sites world' = (more', w') ∧
      Curtailed (reports ++ more) (reports' ++ more') w w' := by
  induction sites generalizing reports reports' world world' with
  | nil => exact ⟨[], [], world, world', rfl, rfl, by simpa using curtailed⟩
  | cons site sites ih =>
    simp only [List.map_cons, List.nodup_cons, List.mem_map, not_exists, not_and] at names
    obtain ⟨result, result', w, w', runs, runs', next⟩ :=
      curtailed.step answers translates later (apart site List.mem_cons_self)
    obtain ⟨more, more', v, v', passes, passes', rest⟩ := ih next names.2 (by
      intro other mem
      rw [List.map_append, List.mem_append, not_or]
      refine ⟨apart other (List.mem_cons_of_mem _ mem), ?_⟩
      simpa using names.1 other mem)
    exact ⟨_, _, v, v', Answers.pass_cons runs passes, Answers.pass_cons runs' passes',
      by simpa using rest⟩

end Curtailed

/-- A later cutoff removes and adds nothing. On a page the item or the error that is found with it
is found without it, and what is stale without it is as stale with it. In a tick a site comes to
the same or is stale, the accepted messages are some of those accepted without it, in their order,
and the stores differ only in sites that became stale. -/
theorem later_cutoff_only_removes :
    (∀ (d : Document) (rules : RuleSet) (t u : Calendar.Timestamp), u.isBefore t = false →
      (∀ i, extract d rules u = .ok (.item i) → extract d rules t = .ok (.item i)) ∧
      (∀ e, extract d rules u = .error e → extract d rules t = .error e) ∧
      ∀ p, extract d rules t = .ok (.stale p) → extract d rules u = .ok (.stale p)) ∧
    ∀ (answers : Answers) (c : Config) (translates : Bool) (store : Fingerprints)
      (cutoff : Calendar.Date),
      (Calendar.Timestamp.midnight cutoff).isBefore c.cutoffTime = false →
      (c.sites.map (·.name)).Nodup →
      ∃ reports reports' world world',
        answers.pass c translates c.sites { store } = (reports, world) ∧
        answers.pass { c with cutoff } translates c.sites { store } = (reports', world') ∧
        tick answers.collaborators c translates { store } =
          ((reports.map (·.2)).foldl Summary.add { total := c.sites.length }, world) ∧
        tick answers.collaborators { c with cutoff } translates { store } =
          ((reports'.map (·.2)).foldl Summary.add { total := c.sites.length }, world') ∧
        Curtailed reports reports' world world' := by
  constructor
  · intro d rules t u later
    rcases extract_later d rules later with same | ⟨⟨p, stale⟩, fresh⟩
    · rw [same]
      exact ⟨fun _ => id, fun _ => id, fun _ => id⟩
    · rw [stale]
      refine ⟨?_, ?_, ?_⟩
      · rintro i ⟨⟩
      · rintro e ⟨⟩
      · intro q known
        exact absurd known (fresh q)
  · intro answers c translates store cutoff later names
    obtain ⟨reports, reports', world, world', passes, passes', curtailed⟩ :=
      (Curtailed.refl { store }).pass answers translates later names fun _ _ => List.not_mem_nil
    exact ⟨reports, reports', world, world', passes, passes', Answers.tick_of_pass passes,
      Answers.tick_of_pass passes', curtailed⟩

section Sample

open Watching

def dayAfter : Calendar.Date := ⟨2025, 1, 3, by decide⟩

theorem sample_stale (name : String) :
    extract (Document.parse samplePage) (sampleSite name) (.midnight dayAfter) =
      .ok (.stale sampleItem.publishedAt) := by
  have before : sampleItem.publishedAt.isBefore (.midnight dayAfter) = true := by decide +kernel
  obtain ⟨block, first, dated, -⟩ := extract_eq_item.mp (sample_extract name)
  rw [extract_of_head first, extractFrom_of_date dated, if_pos before]

theorem later_cutoff_only_removes_sample :
    (Calendar.Timestamp.midnight dayAfter).isBefore (.midnight firstCutoff) = false ∧
      extract (Document.parse samplePage) (sampleSite "A") (.midnight firstCutoff) =
        .ok (.item sampleItem) ∧
      extract (Document.parse samplePage) (sampleSite "A") (.midnight ⟨2024, 1, 1, rfl⟩) =
        .ok (.item sampleItem) ∧
      extract (Document.parse samplePage) (sampleSite "A") (.midnight dayAfter) =
        .ok (.stale sampleItem.publishedAt) ∧
      ((sampleConfig 1 sampleSites).sites.map (·.name)).Nodup ∧
      ∃ reports reports' world world',
        sampleAnswers.pass (sampleConfig 1 sampleSites) false sampleSites { store := {} } =
          (reports, world) ∧
        sampleAnswers.pass { sampleConfig 1 sampleSites with cutoff := dayAfter } false sampleSites
          { store := {} } = (reports', world') ∧
        Curtailed reports reports' world world' := by
  have later : (Calendar.Timestamp.midnight dayAfter).isBefore (.midnight firstCutoff) = false := by
    decide +kernel
  have names : ((sampleConfig 1 sampleSites).sites.map (·.name)).Nodup := by decide
  obtain ⟨pages, ticks⟩ := later_cutoff_only_removes
  have found := sample_extract "A"
  have earlier := (pages (Document.parse samplePage) (sampleSite "A") (.midnight ⟨2024, 1, 1, rfl⟩)
    (.midnight firstCutoff) (by decide +kernel)).1 sampleItem found
  obtain ⟨reports, reports', world, world', passes, passes', -, -, curtailed⟩ :=
    ticks sampleAnswers (sampleConfig 1 sampleSites) false {} dayAfter later names
  exact ⟨later, found, earlier, sample_stale "A", names, reports, reports', world, world',
    passes, passes', curtailed⟩

end Sample

end PageWatch
