import PageWatch.Config.Description
import PageWatch.Proofs.Data.JsonValues
import PageWatch.Proofs.Data.Results

/-!
# Descriptions that read back

A description that is written out and read again is the same: as data, as data whose tables
are sorted, and as text. So whatever a description was read from, when it is written out in
full the same is read from that, and the same rules are made of it.
-/

set_option autoImplicit false

namespace PageWatch

theorem RuleTexts.ofDatum_toDatum (f : DataFormat) (r : RuleTexts) :
    ofDatum f r.toDatum = .ok r ∧ ofDatum f r.toDatum.sorted = .ok r := by
  cases r with
  | mk content contentTag contentMode dateTag dateMode date dateIn titleMode titleTag title mode =>
    cases mode <;> exact ⟨rfl, rfl⟩

theorem RuleTexts.sorted_toDatum (r : RuleTexts) :
    r.toDatum.sorted = .table
      [("content", .text r.content), ("content_mode", .text r.contentMode),
       ("content_tag", .text r.contentTag), ("date", .text r.date), ("date_in", .text r.dateIn),
       ("date_mode", .text r.dateMode), ("date_tag", .text r.dateTag),
       ("match", .text r.agreement.name), ("title", .text r.title),
       ("title_mode", .text r.titleMode), ("title_tag", .text r.titleTag)] := by
  rfl

namespace Datum

def ofTexts (texts : List String) : Datum := list (texts.map text)

theorem asTexts_ofTexts (f : DataFormat) (texts : List String) :
    asTexts f (ofTexts texts) = .ok texts := by
  show (texts.map text).mapM (asText f) = .ok texts
  induction texts with
  | nil => rfl
  | cons t texts ih =>
    rw [List.map_cons, List.mapM_cons, ih]
    rfl

theorem sortedItems_texts (texts : List String) :
    sortedItems (texts.map text) = texts.map text := by
  induction texts with
  | nil => rfl
  | cons t texts ih =>
    rw [List.map_cons, sortedItems, ih]
    rfl

theorem sorted_ofTexts (texts : List String) : (ofTexts texts).sorted = ofTexts texts := by
  rw [ofTexts, sorted, sortedItems_texts]

end Datum

namespace SiteDescription

def realEntry (url : Option String) : List (String × Datum) :=
  url.toList.map fun url => ("real_url", .text url)

theorem toDatum_eq (s : SiteDescription) :
    s.toDatum = .table (("name", .text s.name) :: ("base_url", .text s.baseUrl) ::
      (realEntry s.realUrl ++
        [("rules", s.rules.toDatum), ("date_formats", .ofTexts s.dateFormats)])) := by
  cases s with
  | mk name baseUrl realUrl rules dateFormats => cases realUrl <;> rfl

theorem sorted_toDatum (s : SiteDescription) :
    s.toDatum.sorted = .table (("base_url", .text s.baseUrl) ::
      ("date_formats", .ofTexts s.dateFormats) :: ("name", .text s.name) ::
        (realEntry s.realUrl ++ [("rules", s.rules.toDatum.sorted)])) := by
  have texts := Datum.sorted_ofTexts s.dateFormats
  rw [toDatum_eq]
  conv_rhs => rw [← texts]
  cases s.realUrl <;> rfl

section Entries

variable {f : DataFormat} {s : SiteDescription}

theorem read_realEntry {url : Option String} (a : Draft) (unread : a.realUrl = none) :
    (realEntry url).foldlM (Datum.readEntry (fields f)) a = .ok { a with realUrl := url } := by
  cases url with
  | none =>
    cases a
    cases unread
    rfl
  | some url => rfl

theorem read_rules {d : Datum} (made : RuleTexts.ofDatum f d = .ok s.rules) (a : Draft) :
    Datum.readEntry (fields f) a ("rules", d) = .ok { a with rules := some s.rules } :=
  bind_eq_ok.mpr ⟨s.rules, made, rfl⟩

theorem read_dateFormats (a : Draft) :
    Datum.readEntry (fields f) a ("date_formats", .ofTexts s.dateFormats) =
      .ok { a with dateFormats := s.dateFormats } :=
  bind_eq_ok.mpr ⟨s.dateFormats, Datum.asTexts_ofTexts f s.dateFormats, rfl⟩

def draft (s : SiteDescription) : Draft :=
  ⟨some s.name, some s.baseUrl, s.realUrl, some s.rules, s.dateFormats⟩

theorem ofDatum_table {entries : List (String × Datum)}
    (read : entries.foldlM (Datum.readEntry (fields f)) {} = .ok s.draft) :
    ofDatum f (.table entries) = .ok s := by
  rw [ofDatum, Datum.asRecord, read]
  rfl

theorem ofDatum_toDatum (f : DataFormat) (s : SiteDescription) : ofDatum f s.toDatum = .ok s := by
  rw [toDatum_eq]
  apply ofDatum_table
  refine foldlM_cons_ok rfl <| foldlM_cons_ok rfl <| foldlM_append_ok (read_realEntry _ rfl) ?_
  refine foldlM_cons_ok (read_rules (RuleTexts.ofDatum_toDatum f s.rules).1 _) ?_
  exact foldlM_cons_ok (read_dateFormats _) rfl

theorem ofDatum_sorted (f : DataFormat) (s : SiteDescription) :
    ofDatum f s.toDatum.sorted = .ok s := by
  rw [sorted_toDatum]
  apply ofDatum_table
  refine foldlM_cons_ok rfl <| foldlM_cons_ok (read_dateFormats _) <| foldlM_cons_ok rfl ?_
  refine foldlM_append_ok (read_realEntry _ rfl) ?_
  exact foldlM_cons_ok (read_rules (RuleTexts.ofDatum_toDatum f s.rules).2 _) rfl

end Entries

open Json (ReadsBack readsBack_list readsBack_table readsBack_text)

theorem readsBack_rules (r : RuleTexts) :
    ReadsBack r.toDatum ∧ ReadsBack r.toDatum.sorted := by
  constructor
  · rw [RuleTexts.toDatum]
    exact readsBack_table (by simp [readsBack_text])
  · rw [RuleTexts.sorted_toDatum]
    exact readsBack_table (by simp [readsBack_text])

theorem readsBack_texts (texts : List String) : ReadsBack (.ofTexts texts) :=
  readsBack_list <| List.forall_mem_map.mpr fun t _ => readsBack_text t

theorem readsBack_realEntry (url : Option String) : ∀ e ∈ realEntry url, ReadsBack e.2 :=
  List.forall_mem_map.mpr fun url _ => readsBack_text url

theorem readsBack_toDatum (s : SiteDescription) : ReadsBack s.toDatum := by
  have name := readsBack_text s.name
  have base := readsBack_text s.baseUrl
  have rules := (readsBack_rules s.rules).1
  have formats := readsBack_texts s.dateFormats
  rw [toDatum_eq]
  apply readsBack_table
  simp only [List.forall_mem_cons, List.forall_mem_append]
  exact ⟨name, base, readsBack_realEntry s.realUrl, rules, formats, nofun⟩

theorem readsBack_sorted (s : SiteDescription) : ReadsBack s.toDatum.sorted := by
  have name := readsBack_text s.name
  have base := readsBack_text s.baseUrl
  have rules := (readsBack_rules s.rules).2
  have formats := readsBack_texts s.dateFormats
  rw [sorted_toDatum]
  apply readsBack_table
  simp only [List.forall_mem_cons, List.forall_mem_append]
  exact ⟨base, formats, name, readsBack_realEntry s.realUrl, rules, nofun⟩

/-- A description is written in the order of its fields, or with its tables sorted. -/
def written (s : SiteDescription) : List Datum := [s.toDatum, s.toDatum.sorted]

theorem mem_written {s : SiteDescription} {w : Datum} :
    w ∈ s.written ↔ w = s.toDatum ∨ w = s.toDatum.sorted := by
  simp [written]

theorem ofDatum_written (f : DataFormat) {s : SiteDescription} {w : Datum} (h : w ∈ s.written) :
    ofDatum f w = .ok s := by
  obtain rfl | rfl := mem_written.mp h
  · exact ofDatum_toDatum f s
  · exact ofDatum_sorted f s

theorem readsBack_written {s : SiteDescription} {w : Datum} (h : w ∈ s.written) :
    ReadsBack w := by
  obtain rfl | rfl := mem_written.mp h
  · exact readsBack_toDatum s
  · exact readsBack_sorted s

/-- A table that leaves out no field but a URL. -/
def InFull (f : DataFormat) (w : Datum) : Prop :=
  (∀ field ∈ fields f, field.1 ≠ "real_url" → (w.entry? field.1).isSome) ∧
    ∃ rules, w.entry? "rules" = some rules ∧
      ∀ field ∈ RuleTexts.fields f, (rules.entry? field.1).isSome

theorem inFull_written (f : DataFormat) {s : SiteDescription} {w : Datum} (h : w ∈ s.written) :
    InFull f w := by
  obtain rfl | rfl := mem_written.mp h
  · rw [toDatum_eq]
    refine ⟨?_, s.rules.toDatum, ?_, ?_⟩
    · cases s.realUrl <;> simp [fields, realEntry, Datum.entry?]
    · cases s.realUrl <;> rfl
    · simp [RuleTexts.fields, RuleTexts.textField, RuleTexts.toDatum, Datum.entry?]
  · rw [sorted_toDatum]
    refine ⟨?_, s.rules.toDatum.sorted, ?_, ?_⟩
    · cases s.realUrl <;> simp [fields, realEntry, Datum.entry?]
    · cases s.realUrl <;> rfl
    · simp [RuleTexts.fields, RuleTexts.textField, RuleTexts.sorted_toDatum, Datum.entry?]

/-- A description is read back from all that is written of it, and what is written can be read from
its text. So from data that a description was read from, the same is read when all that had been
left out of them is filled in and all that no field is for is left out, and the rules that are made
of them, or the fault that is found in them, stay the same. -/
theorem description_round_trip (f : DataFormat) :
    (∀ s : SiteDescription, ∀ w ∈ s.written,
        ofDatum f w = .ok s ∧ Json.read? (Json.write w) = some w) ∧
      ∀ (d : Datum) (s : SiteDescription), ofDatum f d = .ok s → ∀ w ∈ s.written,
        InFull f w ∧ Json.read? (Json.write w) = some w ∧
          ofDatum f w = ofDatum f d ∧ RuleSet.ofDatum f w = RuleSet.ofDatum f d := by
  have reads {s : SiteDescription} {w : Datum} (h : w ∈ s.written) :
      ofDatum f w = .ok s ∧ Json.read? (Json.write w) = some w :=
    ⟨ofDatum_written f h, (readsBack_written h).read?⟩
  refine ⟨fun s w h => reads h, fun d s made w h => ?_⟩
  obtain ⟨again, text⟩ := reads h
  have same : ofDatum f w = ofDatum f d := again.trans made.symm
  exact ⟨inFull_written f h, text, same, by rw [RuleSet.ofDatum, RuleSet.ofDatum, same]⟩

theorem description_round_trip_list :
    let d := Datum.list [.text "news", .text "news://h", .null,
      .table [("color", .integer 1), ("match", .text "exact")]]
    let s : SiteDescription :=
      { name := "news", baseUrl := "news://h", rules := { agreement := .exact } }
    ofDatum .json d = .ok s ∧ s.toDatum ∈ s.written ∧
      ofDatum .json s.toDatum = ofDatum .json d ∧
      RuleSet.ofDatum .json s.toDatum = RuleSet.ofDatum .json d := by
  intro d s
  have made : ofDatum .json d = .ok s := rfl
  have first : s.toDatum ∈ s.written := List.mem_cons_self
  have again := (description_round_trip .json).2 d s made s.toDatum first
  exact ⟨made, first, again.2.2.1, again.2.2.2⟩

end SiteDescription

end PageWatch
