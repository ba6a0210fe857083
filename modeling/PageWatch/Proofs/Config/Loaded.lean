import Mathlib.Data.List.DropRight
import PageWatch.Config.Load
import PageWatch.Proofs.Charset.Utf8
import PageWatch.Proofs.Config.Names
import PageWatch.Proofs.Data.Records

/-!
# Settings that were loaded

Each site of loaded settings was made from a description that was checked, and the
settings as a whole are without fault.
-/

set_option autoImplicit false

namespace PageWatch

namespace Text

theorem trimEnd_begins (cs : List Char) : trimEnd cs <+: cs := List.rdropWhile_prefix isBlank cs

theorem trimEnd_trimEnd (cs : List Char) : trimEnd (trimEnd cs) = trimEnd cs :=
  List.rdropWhile_idempotent isBlank cs

theorem trimStart_of_prefix {part cs : List Char} (begins : part <+: trimStart cs) :
    trimStart part = part := by
  rw [trimStart, List.dropWhile_eq_self_iff]
  intro nonempty
  have same := begins.getElem nonempty
  have longer : 0 < (trimStart cs).length := Nat.lt_of_lt_of_le nonempty begins.length_le
  rw [same]
  exact List.dropWhile_eq_self_iff.mp (List.dropWhile_idempotent isBlank cs) longer

theorem trim_trim (cs : List Char) : trim (trim cs) = trim cs := by
  rw [trim, trim, trimStart_of_prefix (trimEnd_begins _), trimEnd_trimEnd]

theorem trimmed_trimmed (s : String) : trimmed (trimmed s) = trimmed s := by
  rw [trimmed, trimmed, String.toList_ofList, trim_trim]

end Text

theorem trimmed_of_nonBlank? {s t : String} (h : nonBlank? s = some t) : Text.trimmed t = t := by
  rw [nonBlank?] at h
  split at h
  · cases h
  · obtain rfl := Option.some.inj h
    exact Text.trimmed_trimmed s

namespace RuleSet

def Described (rules : RuleSet) : Prop := ∃ s, ofDescription s = .ok rules

variable {rules : RuleSet}

theorem checkBase_eq_ok {url : String} (h : checkBase url = .ok ()) :
    ∃ base host, Url.parse url = .ok base ∧ base.host = some host := by
  unfold checkBase at h
  split at h
  · cases h
  · rename_i base parsed
    split at h
    · rename_i found
      obtain ⟨host, found⟩ := Option.isSome_iff_exists.mp found
      exact ⟨base, host, parsed, found⟩
    · cases h

theorem compile_eq_ok {name : String} {s : SiteDescription} (h : compile name s = .ok rules) :
    rules.name = name ∧ rules.baseUrl = s.baseUrl ∧ checkBase s.baseUrl = .ok () ∧
      dateLocator s.rules = .ok rules.date := by
  obtain ⟨base, h⟩ := bind_check_eq_ok.mp h
  obtain ⟨content, -, h⟩ := bind_eq_ok.mp h
  obtain ⟨date, located, h⟩ := bind_eq_ok.mp h
  obtain ⟨title, -, h⟩ := bind_eq_ok.mp h
  obtain ⟨dateFormats, -, h⟩ := bind_eq_ok.mp h
  obtain rfl := Except.ok.inj h
  exact ⟨rfl, rfl, base, located⟩

theorem compile_of_ofDescription {s : SiteDescription} (h : ofDescription s = .ok rules) :
    nonBlank? s.name = some rules.name ∧ compile rules.name s = .ok rules := by
  unfold ofDescription at h
  split at h
  · cases h
  · rename_i name named
    have compiled := mapError_eq_ok.mp h
    obtain ⟨rfl, -⟩ := compile_eq_ok compiled
    exact ⟨named, compiled⟩

theorem Described.compiled (described : rules.Described) :
    ∃ s, nonBlank? s.name = some rules.name ∧ compile rules.name s = .ok rules := by
  obtain ⟨s, h⟩ := described
  exact ⟨s, compile_of_ofDescription h⟩

theorem Described.trimmed (described : rules.Described) : Text.trimmed rules.name = rules.name := by
  obtain ⟨s, named, -⟩ := described.compiled
  exact trimmed_of_nonBlank? named

theorem Described.based (described : rules.Described) :
    ∃ base host, Url.parse rules.baseUrl = .ok base ∧ base.host = some host := by
  obtain ⟨s, -, compiled⟩ := described.compiled
  obtain ⟨-, same, base, -⟩ := compile_eq_ok compiled
  rw [same]
  exact checkBase_eq_ok base

end RuleSet

theorem RuleSet.described_of_ofDatum {f : DataFormat} {d : Datum} {rules : RuleSet}
    (h : RuleSet.ofDatum f d = .ok rules) : rules.Described := by
  obtain ⟨s, -, h⟩ := bind_eq_ok.mp h
  split at h
  · rename_i made
    obtain rfl := Except.ok.inj h
    exact ⟨s, made⟩
  · cases h

namespace Config

variable {c : Config}

theorem described_of_ofDatum {f : DataFormat} {d : Datum} (h : Config.ofDatum f d = .ok c) :
    ∀ site ∈ c.sites, site.Described := by
  let Holds (c : Config) : Prop := ∀ site ∈ c.sites, site.Described
  -- One field holds the sites, and no other touches them.
  have sites : ∀ (c : Config) (d : Datum) (c' : Config), Holds c →
      (do return { c with sites := ← (← d.asList f).mapM (RuleSet.ofDatum f) }) = Except.ok c' →
        Holds c' := by
    intro c d c' holds h
    obtain ⟨items, -, h⟩ := bind_eq_ok.mp h
    obtain ⟨sites, made, h⟩ := bind_eq_ok.mp h
    obtain rfl := Except.ok.inj h
    intro site mem
    obtain ⟨d', -, found⟩ := exists_of_mapM made site mem
    exact RuleSet.described_of_ofDatum found
  have part : ∀ {β : Type} {read : Datum → Decoded β} {put : Config → β → Config},
      (∀ c b, (put c b).sites = c.sites) → ∀ c d c', Holds c →
        (do return put c (← read d)) = Except.ok c' → Holds c' :=
    fun same => Datum.keeps_part fun c b holds site mem => holds site (same c b ▸ mem)
  have none : Holds {} := fun site mem => absurd mem List.not_mem_nil
  unfold ofDatum at h
  refine Datum.asRecord_induction ?_ none h
  exact .cons (part fun _ _ => rfl) <| .cons (part fun _ _ => rfl) <|
    .cons (part fun _ _ => rfl) <| .cons (part fun _ _ => rfl) <| .cons (part fun _ _ => rfl) <|
    .cons (part fun _ _ => rfl) <| .cons (part fun _ _ => rfl) <| .cons sites .nil

/-- Loaded settings are without fault, and their sites were made from descriptions. -/
theorem of_load {path : String} {content : Except FileError (List UInt8)} {o : Overrides}
    (h : load path content o = .ok c) : c.fault? = none ∧ ∀ site ∈ c.sites, site.Described := by
  obtain ⟨text, -, h⟩ := bind_eq_ok.mp h
  obtain ⟨c', read, h⟩ := bind_eq_ok.mp h
  unfold ofText at read
  split at read
  · cases read
  · have made := mapError_eq_ok.mp read
    unfold check at h
    split at h
    · cases h
    · rename_i faultless
      obtain rfl := Except.ok.inj h
      exact ⟨faultless, fun site mem => described_of_ofDatum made site mem⟩

theorem fileText_toUTF8 (path text : String) :
    fileText path (.ok text.toUTF8.toList) = .ok text := by
  have decoded : Charset.utf8Decoder.run text.toUTF8.toList = text.toList.map some := by
    simpa using Charset.run_toUTF8 text.toList
  rw [fileText, decoded]
  have whole : (fun x : Option Char => x.getD '\uFFFD') ∘ some = id := rfl
  simp [Charset.Output.hasErrors, Charset.Output.text, whole]

end Config

end PageWatch
