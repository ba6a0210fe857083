import PageWatch.Config.Check

/-!
# Names of the sites in settings without fault
-/

set_option autoImplicit false

namespace PageWatch

namespace Config

theorem nodup_of_firstRepeated?_none {seen names : List String}
    (h : firstRepeated? seen names = none) : names.Nodup ∧ ∀ name ∈ names, name ∉ seen := by
  induction names generalizing seen with
  | nil => simp
  | cons name rest ih =>
    unfold firstRepeated? at h
    split at h
    · cases h
    · rename_i fresh
      obtain ⟨nodup, apart⟩ := ih h
      simp only [List.contains_eq_mem, decide_eq_true_eq] at fresh
      refine ⟨List.nodup_cons.mpr ⟨fun mem => apart name mem (by simp), nodup⟩, ?_⟩
      intro other mem
      rcases List.mem_cons.mp mem with rfl | mem
      · exact fresh
      · exact fun seen => apart other mem (by simp [seen])

/-- What the settings are checked for, as far as something is guarded again later. -/
structure Faultless (c : Config) : Prop where
  interval : c.schedule.intervalSecs ≠ 0
  endpoint : c.translator.enabled = true → (nonBlank? c.translator.endpoint).isSome
  backend : c.store.backend = .file
  names : (c.sites.map (·.name)).Nodup

/-- No two sites of settings without fault keep their fingerprint in the same place. -/
theorem names_nodup {c : Config} (h : c.fault? = none) : (c.sites.map (·.name)).Nodup := by
  unfold fault? at h
  repeat' (split at h; · cases h)
  rw [Option.map_eq_none_iff] at h
  exact (nodup_of_firstRepeated?_none h).1

theorem faultless_of_fault? {c : Config} (h : c.fault? = none) : c.Faultless := by
  have names := names_nodup h
  unfold fault? at h
  repeat' (split at h; · cases h)
  rename_i interval endpoint backend _
  refine ⟨interval, ?_, ?_, names⟩
  · intro enabled
    simpa [enabled, Option.isSome_iff_ne_none] using endpoint
  · cases stored : c.store.backend with
    | file => rfl
    | redis => exact absurd stored backend

theorem Faultless.names_ne {c : Config} (faultless : c.Faultless) {i j : Nat}
    {site site' : RuleSet} (first : c.sites[i]? = some site) (second : c.sites[j]? = some site')
    (apart : i ≠ j) : site.name ≠ site'.name := by
  intro same
  have named : (c.sites.map (·.name))[i]? = some site.name := by simp [first]
  have named' : (c.sites.map (·.name))[j]? = some site.name := by simp [second, same]
  obtain ⟨within, -⟩ := List.getElem?_eq_some_iff.mp named
  exact apart ((List.getElem?_inj within faultless.names).mp (named.trans named'.symm))

theorem fault?_single {c : Config} (h : c.fault? = none) (site : RuleSet) :
    ({ c with sites := [site] } : Config).fault? = none := by
  unfold fault? at h
  repeat' (split at h; · cases h)
  simp_all [fault?, firstRepeated?]

end Config

end PageWatch
