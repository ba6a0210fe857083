import PageWatch.Proofs.Watch.Delivery

/-!
# No message is sent twice without a cause

Once a message is accepted, its endpoint is first to be recorded and then stays in
the store for as long as no other message for the site is accepted. The same
endpoint goes out again only if it was not recorded, could not be looked up, or was
changed by someone else.
-/

set_option autoImplicit false

namespace PageWatch.Watching

def Event.recordFails (number : Nat) : Event → Bool
  | .did j (.record _ _ (.error _)) => j.number == number
  | _ => false

def Event.lookupFails (number : Nat) : Event → Bool
  | .did j (.lookup _ (.error _)) => j.number == number
  | _ => false

/-- Someone else changed what is stored for a site. -/
def Event.changes (name : String) : Event → Bool
  | .replaced before after => before.get? name != after.get? name
  | _ => false

def Differs (events : List Event) (endpoint : String) (j : Job) : Stage → Prop
  | .translating i | .sending i _ =>
    i.endpoint ≠ endpoint ∨ ∃ e ∈ events, e.lookupFails j.number = true
  | .recording _ _ => False
  | _ => True

theorem Differs.more {events : List Event} {endpoint : String} {j : Job} {stage : Stage}
    (differs : Differs events endpoint j stage) (e : Event) :
    Differs (events ++ [e]) endpoint j stage := by
  have more (failed : ∃ e ∈ events, e.lookupFails j.number = true) :
      ∃ e' ∈ events ++ [e], e'.lookupFails j.number = true := by
    obtain ⟨e', mem, fails⟩ := failed
    exact ⟨e', List.mem_append_left _ mem, fails⟩
  cases stage with
  | translating i => exact differs.imp_right more
  | sending i title => exact differs.imp_right more
  | _ => exact differs

/-- After a message about `endpoint` was accepted it is still to be recorded by its job, or it is
stored and no job for the site comes to send it without failure. -/
def Remembered (c : Config) (translates : Bool) (name endpoint : String) (number : Nat)
    (events : List Event) (s : State) : Prop :=
  (∃ w ∈ s.working, w.job.number = number ∧ w.job.site.name = name ∧
      ∃ i title, w.Stands c translates (.recording i title) ∧ i.endpoint = endpoint) ∨
    s.store.get? name = some endpoint ∧
      ∀ w ∈ s.working, w.job.site.name = name →
        ∃ stage, w.Stands c translates stage ∧ Differs events endpoint w.job stage

structure Event.Harmless (name : String) (number : Nat) (e : Event) : Prop where
  quiet : e.accepted? name = none
  recorded : e.recordFails number = false
  unchanged : e.changes name = false

variable {c : Config} {translates : Bool} {past events : List Event} {s s' : State}
  {before after : List Work} {w : Work} {a : Act} {rest : Chain (Except Failure Outcome)}
  {name endpoint : String} {number : Nat}

theorem Stands.not_recording {i : Item} {title : String} {result : Except Failure Outcome}
    (stands : w.Stands c translates (.recording i title)) : w.rest ≠ .done result := by
  intro done
  have at_stage := stands.1
  rw [done] at at_stage
  obtain ⟨item?, he⟩ := at_stage.eq_ended
  cases he

theorem remembered_of_recording (sound : Sound c translates past s)
    (working : s.working = before ++ w :: after) (acts : w.rest.Step a rest)
    {i : Item} {title : String} (stands : w.Stands c translates (.recording i title))
    (harmless : Event.Harmless w.job.site.name w.job.number (.did w.job a)) :
    Remembered c translates w.job.site.name i.endpoint w.job.number (events ++ [.did w.job a])
      { s with store := a.stored s.store, working := before ++ ⟨w.job.after c a, rest⟩ :: after } := by
  rcases Work.step stands acts with ⟨event, rfl, later⟩ | ⟨next, goes, later⟩
  · exact .inl ⟨_, mem_replaced.mpr (.inl rfl), rfl, rfl, i, title, later, rfl⟩
  · cases goes with
    | recorded i title answer =>
      cases answer with
      | error e => simpa [Event.recordFails] using harmless.recorded
      | ok done =>
        refine .inr ⟨Fingerprints.get?_put_self .., fun other h same => ?_⟩
        rcases mem_replaced.mp h with rfl | h
        · exact ⟨_, later, trivial⟩
        · exact absurd same (sound.apart working h).1

theorem differs_of_goes {stage next : Stage} (stored : s.store.get? w.job.site.name = some endpoint)
    (item : w.job.item? = stage.item?) (differs : Differs events endpoint w.job stage)
    (fits : a.Fits s.store) (goes : Stage.Goes c translates w.job.site stage a next)
    (quiet : Event.accepted? w.job.site.name (.did w.job a) = none) :
    Differs (events ++ [.did w.job a]) endpoint w.job next := by
  cases goes with
  | news i h =>
    rename_i answer
    have reason : i.endpoint ≠ endpoint ∨
        ∃ e ∈ events ++ [.did w.job (.lookup w.job.site.name answer)],
          e.lookupFails w.job.number = true := by
      cases answer with
      | error e => exact .inr ⟨_, List.mem_append_right _ List.mem_cons_self, beq_self_eq_true _⟩
      | ok known =>
        obtain rfl : known = some endpoint := fits.trans stored
        exact .inl fun he => h (by rw [he])
    cases translates <;> exact reason
  | translated i title =>
    have sending : Differs events endpoint w.job (.sending i title) := differs
    exact sending.more _
  | untranslated i e =>
    have sending : Differs events endpoint w.job (.sending i i.title) := differs
    exact sending.more _
  | accepted i title =>
    obtain ⟨⟨job, site, item?⟩, chain⟩ := w
    subst item
    simp [Event.accepted?, Stage.item?] at quiet
  | recorded i title answer => exact differs.elim
  | _ => trivial

/-- Once the endpoint is stored it stays, and a job for the site knows it. -/
theorem remembered_of_stored (sound : Sound c translates past s)
    (stored : s.store.get? name = some endpoint)
    (jobs : ∀ w ∈ s.working, w.job.site.name = name →
      ∃ stage, w.Stands c translates stage ∧ Differs events endpoint w.job stage)
    (working : s.working = before ++ w :: after) (acts : w.rest.Step a rest)
    (fits : a.Fits s.store) (quiet : Event.accepted? name (.did w.job a) = none) :
    Remembered c translates name endpoint number (events ++ [.did w.job a])
      { s with store := a.stored s.store, working := before ++ ⟨w.job.after c a, rest⟩ :: after } := by
  have mem : w ∈ s.working := by simp [working]
  obtain ⟨stage, stands, differs⟩ : ∃ stage, w.Stands c translates stage ∧
      (w.job.site.name = name → Differs events endpoint w.job stage) := by
    by_cases same : w.job.site.name = name
    · obtain ⟨stage, stands, differs⟩ := jobs w mem same
      exact ⟨stage, stands, fun _ => differs⟩
    · obtain ⟨stage, stands⟩ := sound.stands w mem
      exact ⟨stage, stands, fun he => absurd he same⟩
  have kept : (a.stored s.store).get? name = s.store.get? name := by
    refine stands.stored_of_other acts (fun same i title he => ?_) s.store
    subst he
    exact differs same
  refine .inr ⟨kept.trans stored, fun other h same => ?_⟩
  rcases mem_replaced.mp h with rfl | h
  · have same : w.job.site.name = name := by simpa using same
    subst same
    rcases Work.step stands acts with ⟨event, rfl, later⟩ | ⟨next, goes, later⟩
    · exact ⟨stage, later, (differs rfl).more _⟩
    · have known := differs_of_goes stored stands.2 (differs rfl) fits goes quiet
      refine ⟨next, later, ?_⟩
      rw [Job.after_eq stands.2 goes]
      exact known
  · obtain ⟨stage, stands, differs⟩ := jobs other (Sound.mem_working working h) same
    exact ⟨stage, stands, differs.more _⟩

theorem Remembered.acting (sound : Sound c translates past s)
    (remembered : Remembered c translates name endpoint number events s)
    (working : s.working = before ++ w :: after) (acts : w.rest.Step a rest)
    (fits : a.Fits s.store) (harmless : Event.Harmless name number (.did w.job a)) :
    Remembered c translates name endpoint number (events ++ [.did w.job a])
      { s with store := a.stored s.store, working := before ++ ⟨w.job.after c a, rest⟩ :: after } := by
  rcases remembered with ⟨pending, mem, rfl, rfl, i, title, stands, rfl⟩ | ⟨stored, jobs⟩
  · rw [working] at mem
    rcases mem_replaced.mp mem with rfl | mem
    · exact remembered_of_recording sound working acts stands harmless
    · exact .inl ⟨pending, mem_replaced.mpr (.inr mem), rfl, rfl, i, title, stands, rfl⟩
  · exact remembered_of_stored sound stored jobs working acts fits harmless.quiet

theorem Remembered.same (remembered : Remembered c translates name endpoint number events s)
    (working : s'.working = s.working) (stored : s'.store.get? name = s.store.get? name) (e : Event) :
    Remembered c translates name endpoint number (events ++ [e]) s' := by
  unfold Remembered
  rw [working, stored]
  refine remembered.imp_right fun kept => ⟨kept.1, fun w h same => ?_⟩
  obtain ⟨stage, stands, differs⟩ := kept.2 w h same
  exact ⟨stage, stands, differs.more e⟩

theorem Remembered.starting (remembered : Remembered c translates name endpoint number events s)
    {site : RuleSet} {waiting : List RuleSet} (e : Event) :
    Remembered c translates name endpoint number (events ++ [e])
      (s.starting c translates site waiting) := by
  rcases remembered with ⟨pending, mem, still⟩ | ⟨stored, jobs⟩
  · exact .inl ⟨pending, List.mem_append_left _ mem, still⟩
  · refine .inr ⟨stored, fun w h same => ?_⟩
    rcases List.mem_append.mp h with h | h
    · obtain ⟨stage, stands, differs⟩ := jobs w h same
      exact ⟨stage, stands, differs.more e⟩
    · rw [List.mem_singleton.mp h]
      exact ⟨.examining, ⟨.here .examining, rfl⟩, trivial⟩

theorem Remembered.reporting (remembered : Remembered c translates name endpoint number events s)
    {result : Except Failure Outcome} (working : s.working = before ++ w :: after)
    (done : w.rest = .done result) (e : Event) :
    Remembered c translates name endpoint number (events ++ [e])
      { s with working := before ++ after, summary := s.summary.add result } := by
  rcases remembered with ⟨pending, mem, same, here, i, title, stands, he⟩ | ⟨stored, jobs⟩
  · rw [working] at mem
    rcases mem_replaced.mp mem with rfl | mem
    · exact absurd done (Stands.not_recording stands)
    · exact .inl ⟨pending, mem, same, here, i, title, stands, he⟩
  · refine .inr ⟨stored, fun other h same => ?_⟩
    obtain ⟨stage, stands, differs⟩ := jobs other (Sound.mem_working working h) same
    exact ⟨stage, stands, differs.more e⟩

theorem Remembered.step (sound : Sound c translates past s)
    (remembered : Remembered c translates name endpoint number events s) {e : Event}
    (step : Step c translates s e s') (harmless : e.Harmless name number) :
    Remembered c translates name endpoint number (events ++ [e]) s' := by
  cases step with
  | tick idle => exact remembered.same rfl rfl _
  | process site idle => exact remembered.same rfl rfl _
  | start next room => exact remembered.starting _
  | act working acts fits => exact remembered.acting sound working acts fits harmless
  | report working done => exact remembered.reporting working done _
  | replace store =>
    have unchanged := harmless.unchanged
    simp only [Event.changes, bne_eq_false_iff_eq] at unchanged
    refine remembered.same ?_ ?_ _
    · rfl
    · exact unchanged.symm

theorem Run.remembered (valid : c.fault? = none) (sound : Sound c translates past s)
    (remembered : Remembered c translates name endpoint number [] s)
    (run : Run c translates s events s') (harmless : ∀ e ∈ events, e.Harmless name number) :
    Sound c translates (past ++ events) s' ∧
      Remembered c translates name endpoint number events s' := by
  induction run with
  | start => exact ⟨by simpa using sound, remembered⟩
  | more run step ih =>
    obtain ⟨sound, remembered⟩ := ih fun e h => harmless e (List.mem_append_left _ h)
    rw [← List.append_assoc]
    exact ⟨sound.step valid step,
      remembered.step sound step (harmless _ (List.mem_append_right _ (List.mem_singleton_self _)))⟩

theorem accepted?_eq_some {e : Event} (h : e.accepted? name = some (number, endpoint)) :
    ∃ j i text, e = .did j (.send text (.ok ())) ∧ j.item? = some i ∧ j.site.name = name ∧
      j.number = number ∧ i.endpoint = endpoint := by
  unfold Event.accepted? at h
  split at h
  · split at h
    · rename_i number' site i text same
      simp only [Option.some.injEq, Prod.mk.injEq] at h
      exact ⟨_, i, text, rfl, rfl, same, h.1, h.2⟩
    · cases h
  · cases h

theorem goes_of_accepted {site : RuleSet} {stage next : Stage} {text : String}
    (goes : Stage.Goes c translates site stage (.send text (.ok ())) next) :
    ∃ i title, stage = .sending i title ∧ next = .recording i title := by
  generalize ha : Act.send text (.ok ()) = a at goes
  cases goes with
  | accepted i title => exact ⟨i, title, rfl, rfl⟩
  | refused i title e => simp at ha
  | _ => cases ha

theorem remembered_of_accepted (sound : Sound c translates past s) {e : Event}
    (step : Step c translates s e s') (h : e.accepted? name = some (number, endpoint)) :
    Remembered c translates name endpoint number [] s' := by
  obtain ⟨j, i, text, rfl, item, rfl, rfl, rfl⟩ := accepted?_eq_some h
  cases step with
  | act working acts fits =>
    rename_i before after w rest
    obtain ⟨stage, stands⟩ := sound.stands w (by simp [working])
    rcases Work.step stands acts with ⟨event, he, -⟩ | ⟨next, goes, later⟩
    · cases he
    · obtain ⟨i', title, rfl, rfl⟩ := goes_of_accepted goes
      obtain rfl : i = i' := by simpa [item, Stage.item?] using stands.2
      exact .inl ⟨_, mem_replaced.mpr (.inl rfl), by simp, by simp, i, title, later, rfl⟩

theorem lookupFails_of_accepted (sound : Sound c translates past s)
    (remembered : Remembered c translates name endpoint number events s) {e : Event}
    (step : Step c translates s e s') {number' : Nat}
    (h : e.accepted? name = some (number', endpoint)) :
    ∃ e ∈ events, e.lookupFails number' = true := by
  obtain ⟨j, i, text, rfl, item, rfl, rfl, rfl⟩ := accepted?_eq_some h
  cases step with
  | act working acts fits =>
    rename_i before after w rest
    rcases remembered with ⟨pending, mem, -, same, i', title, stands, -⟩ | ⟨stored, jobs⟩
    · rw [working] at mem
      rcases mem_replaced.mp mem with rfl | mem
      · -- the job that is to record sends nothing
        rcases Work.step stands acts with ⟨event, he, -⟩ | ⟨next, goes, -⟩
        · cases he
        · obtain ⟨_, _, he, -⟩ := goes_of_accepted goes
          cases he
      · exact absurd same (sound.apart working mem).1
    · obtain ⟨stage, stands, differs⟩ := jobs w (by simp [working]) rfl
      rcases Work.step stands acts with ⟨event, he, -⟩ | ⟨next, goes, -⟩
      · cases he
      · obtain ⟨i', title, rfl, -⟩ := goes_of_accepted goes
        obtain rfl : i = i' := by simpa [item, Stage.item?] using stands.2
        exact differs.resolve_left fun hne => hne rfl

/-- When the same endpoint is sent twice for a site, with no other message for it in between, the
first was not recorded, or the store could not be read before the second, or someone else changed
what was stored. -/
theorem repeated_only_with_cause (valid : c.fault? = none) {store : Fingerprints}
    {earlier between later : List Event} {first second : Event} {number' : Nat}
    (run : Run c translates { store } (earlier ++ first :: (between ++ second :: later)) s)
    (sent : first.accepted? name = some (number, endpoint))
    (sent_again : second.accepted? name = some (number', endpoint))
    (none_between : accepted name between = []) :
    (∃ e ∈ between, e.recordFails number = true) ∨
      (∃ e ∈ between, e.lookupFails number' = true) ∨ ∃ e ∈ between, e.changes name = true := by
  by_contra h
  simp only [not_or, not_exists, not_and, Bool.not_eq_true] at h
  obtain ⟨recorded, read, unchanged⟩ := h
  have harmless : ∀ e ∈ between, e.Harmless name number := fun e mem =>
    ⟨List.filterMap_eq_nil_iff.mp none_between e mem, recorded e mem, unchanged e mem⟩
  obtain ⟨_, _, run, step, rest⟩ := run.split_cons
  obtain ⟨_, _, run', step', -⟩ := rest.split_cons
  have sound := run.sound valid
  obtain ⟨sound', remembered⟩ := Run.remembered valid (sound.step valid step)
    (remembered_of_accepted sound step sent) run' harmless
  obtain ⟨e, mem, fails⟩ := lookupFails_of_accepted sound' remembered step' sent_again
  simp [read e mem] at fails

def sampleMessage (number : Nat) : Event :=
  .did (sampleJob number "A" (some sampleItem)) (.send (sampleText "A") (.ok ()))

def sampleBetween : List Event :=
  (sampleNews 0 "A").drop 5 ++
    .replaced (Fingerprints.put {} "A" "x:y") {} :: (sampleNews 1 "A").take 4

theorem repeated_only_with_cause_sample :
    (sampleConfig 1 [sampleSite "A"]).fault? = none ∧
      Run (sampleConfig 1 [sampleSite "A"]) false { store := {} }
        ((sampleNews 0 "A").take 4 ++
          sampleMessage 0 :: (sampleBetween ++ sampleMessage 1 :: (sampleNews 1 "A").drop 5))
        { store := Fingerprints.put {} "A" "x:y", started := 2,
          summary := { total := 1, notified := 1 } } ∧
      (sampleMessage 0).accepted? "A" = some (0, "x:y") ∧
      (sampleMessage 1).accepted? "A" = some (1, "x:y") ∧ accepted "A" sampleBetween = [] ∧
      ((∃ e ∈ sampleBetween, e.recordFails 0 = true) ∨
        (∃ e ∈ sampleBetween, e.lookupFails 1 = true) ∨
        ∃ e ∈ sampleBetween, e.changes "A" = true) := by
  have valid : (sampleConfig 1 [sampleSite "A"]).fault? = none :=
    sample_valid Nat.one_ne_zero (by simp) rfl
  have run : Run (sampleConfig 1 [sampleSite "A"]) false { store := {} }
      ((sampleNews 0 "A").take 4 ++
        sampleMessage 0 :: (sampleBetween ++ sampleMessage 1 :: (sampleNews 1 "A").drop 5)) _ :=
    (sample_news "A" {} 0 { total := 0 } rfl).append
      (.cons (.replace {}) (sample_news "A" {} 1 _ rfl))
  have sent (number : Nat) : (sampleMessage number).accepted? "A" = some (number, "x:y") := rfl
  have none_between : accepted "A" sampleBetween = [] := rfl
  exact ⟨valid, run, sent 0, sent 1, none_between,
    repeated_only_with_cause valid run (sent 0) (sent 1) none_between⟩

end PageWatch.Watching
