import PageWatch.Proofs.Url.Authorities
import PageWatch.Proofs.Watch.Delivery

/-!
# Endpoints of items

A link that is a URL is the endpoint as it stands. Before any other link stands what
the site gives for that, or the root of the site, and the result is not looked at
again. It is a URL if and only if it is resolved to itself, and that is so whatever
the link is, if what stands before it is a URL with a host that goes on with a slash.
-/

set_option autoImplicit false

namespace PageWatch

def IsUrl (text : String) : Prop := ∃ u, Url.parse text = .ok u

def Rooted (text : String) : Prop :=
  ∃ before after u, text = before ++ after ∧ before.toList.getLast? = some '/' ∧
    Url.parse before = .ok u ∧ u.host ≠ none

theorem Rooted.isUrl {text : String} (rooted : Rooted text) : IsUrl text := by
  obtain ⟨before, after, u, rfl, last, parsed, host⟩ := rooted
  obtain ⟨u', again, -⟩ := Url.parse_append parsed host last after
  exact ⟨u', again⟩

theorem Rooted.append {text : String} (rooted : Rooted text) (more : String) :
    Rooted (text ++ more) := by
  obtain ⟨before, after, u, rfl, last, parsed, host⟩ := rooted
  exact ⟨before, after ++ more, u, String.append_assoc .., last, parsed, host⟩

namespace Link

variable {base link endpoint : String} {realUrl : Option String}

inductive Resolved (base : String) (realUrl : Option String) (link : String) : String → Prop where
  | kept (url : IsUrl link) : Resolved base realUrl link link
  | led {lead : String} (given : realUrl = some lead) (nonempty : lead ≠ "")
      (relative : Url.parse link = .error .noBase) : Resolved base realUrl link (lead ++ link)
  | joined {u : Url} {host : Url.Host} (absent : realUrl.filter (!·.isEmpty) = none)
      (parsed : Url.parse base = .ok u) (found : u.host = some host)
      (relative : Url.parse link = .error .noBase) :
      Resolved base realUrl link (String.ofList (origin u host ++ joinOnce u.path link.toList))

theorem resolved_of_resolve (h : resolve base realUrl link = .ok endpoint) :
    IsUrl base ∧ Resolved base realUrl link endpoint := by
  cases parsed : Url.parse base with
  | error e =>
    rw [resolve, parsed] at h
    cases h
  | ok u =>
    refine ⟨⟨u, parsed⟩, ?_⟩
    simp only [resolve, parsed, Except.mapError, bind, Except.bind] at h
    cases alone : Url.parse link with
    | ok v =>
      rw [alone] at h
      obtain rfl := Except.ok.inj h
      exact .kept ⟨v, alone⟩
    | error e =>
      rw [alone] at h
      cases e with
      | noBase =>
        simp only at h
        split at h
        · cases h
        · split at h
          · rename_i lead given
            obtain rfl := Except.ok.inj h
            obtain ⟨given, nonempty⟩ := Option.filter_eq_some_iff.mp given
            exact .led given (by simpa using nonempty) alone
          · rename_i absent
            split at h
            · cases h
            · rename_i host found
              obtain rfl := Except.ok.inj h
              exact .joined absent parsed found alone
      | _ => cases h

theorem resolve_of_isUrl (parsed : IsUrl base) (url : IsUrl endpoint) :
    resolve base realUrl endpoint = .ok endpoint := by
  obtain ⟨u, parsed⟩ := parsed
  obtain ⟨v, alone⟩ := url
  simp only [resolve, parsed, alone, Except.mapError, bind, Except.bind]
  rfl

theorem not_relative_of_origin {u : Url} {host : Url.Host} (parsed : Url.parse base = .ok u)
    (more : List Char) : Url.parse (String.ofList (origin u host ++ more)) ≠ .error .noBase := by
  have starts : ∃ rest, origin u host ++ more = u.scheme ++ ':' :: rest := by
    simp only [origin, List.append_assoc]
    exact ⟨_, rfl⟩
  obtain ⟨rest, starts⟩ := starts
  rw [Ne, Url.parse_eq_noBase, String.toList_ofList, starts]
  exact Url.splitScheme?_significant (Url.parse_form parsed).1 rest

theorem Resolved.isUrl {text : String} (resolved : Resolved base realUrl text endpoint)
    (same : endpoint = text) : IsUrl text := by
  cases resolved with
  | kept url => exact url
  | @led lead given nonempty relative =>
    have length := congrArg String.length same
    rw [String.length_append] at length
    have empty : lead.length = 0 := by omega
    exact absurd (String.length_eq_zero_iff.mp empty) nonempty
  | joined absent parsed found relative =>
    rw [← same] at relative
    exact absurd relative (not_relative_of_origin parsed _)

/-- A text is resolved to itself if and only if it is a URL. -/
theorem resolve_self_iff (parsed : IsUrl base) {text : String} :
    resolve base realUrl text = .ok text ↔ IsUrl text := by
  constructor
  · intro h
    exact (resolved_of_resolve h).2.isUrl rfl
  · intro url
    exact resolve_of_isUrl parsed url

theorem joinOnce_starts {path : List Char} (starts : path = [] ∨ ∃ more, path = '/' :: more)
    (link : List Char) : ∃ more, joinOnce path link = '/' :: more := by
  unfold joinOnce
  simp only
  split
  · rename_i empty
    rw [List.isEmpty_iff.mp empty]
    exact ⟨_, rfl⟩
  · rename_i nonempty
    have isPrefix : (path.reverse.dropWhile (· == '/')).reverse <+: path := by
      have suffix := List.dropWhile_suffix (· == '/') (l := path.reverse)
      rw [← List.reverse_suffix, List.reverse_reverse]
      exact suffix
    generalize (path.reverse.dropWhile (· == '/')).reverse = before at nonempty isPrefix
    cases before with
    | nil => exact absurd rfl nonempty
    | cons c before =>
      obtain ⟨after, rfl⟩ := isPrefix
      rcases starts with none | ⟨more, starts⟩
      · cases none
      · obtain ⟨rfl, -⟩ := List.cons.inj starts
        exact ⟨_, rfl⟩

/-- The root of a site: its scheme, its host with the number, and a slash. -/
def root (u : Url) (host : Url.Host) : String := String.ofList (origin u host ++ ['/'])

theorem origin_append_cons (u : Url) (host : Url.Host) (more : List Char) :
    String.ofList (origin u host ++ '/' :: more) = root u host ++ String.ofList more := by
  rw [root, ← String.ofList_append, List.append_assoc]
  rfl

end Link

/-- What the site puts before links is a URL with a host that goes on with a slash. -/
def RuleSet.LeadsToUrls (rules : RuleSet) : Prop :=
  match rules.realUrl.filter (!·.isEmpty) with
  | some lead => Rooted lead
  | none => ∀ u host, Url.parse rules.baseUrl = .ok u → u.host = some host →
    Rooted (Link.root u host)

namespace Link

theorem Resolved.isUrl_of_leads {rules : RuleSet} {link endpoint : String}
    (leads : rules.LeadsToUrls) (resolved : Resolved rules.baseUrl rules.realUrl link endpoint) :
    IsUrl endpoint := by
  cases resolved with
  | kept url => exact url
  | @led lead given nonempty relative =>
    have given : rules.realUrl.filter (!·.isEmpty) = some lead := by
      simp [given, Option.filter, nonempty]
    rw [RuleSet.LeadsToUrls, given] at leads
    exact (leads.append link).isUrl
  | @joined u host absent parsed found relative =>
    have some_host : u.host ≠ none := by simp [found]
    have path : u.HasPath := (Url.parse_form parsed).2 some_host
    obtain ⟨more, starts⟩ := joinOnce_starts path.starts link.toList
    rw [RuleSet.LeadsToUrls, absent] at leads
    rw [starts, origin_append_cons]
    exact ((leads u host parsed found).append (String.ofList more)).isUrl

end Link

section Endpoints

variable {d : Document} {rules : RuleSet} {cutoff : Calendar.Timestamp} {i : Item}

theorem extract_eq_item :
    extract d rules cutoff = .ok (.item i) ↔
      ∃ block, (contentBlocks d rules.content).head? = some block ∧
        locateDate d block rules = .ok i.publishedAt ∧ i.publishedAt.isBefore cutoff = false ∧
        ∃ link, locateTitle block rules.title = .ok (i.title, link) ∧
          Link.resolve rules.baseUrl rules.realUrl link = .ok i.endpoint := by
  unfold extract
  cases contentBlocks d rules.content with
  | nil => simp
  | cons block rest =>
    simp only [List.head?_cons, Option.some.injEq, exists_eq_left', extractFrom]
    constructor
    · intro found
      obtain ⟨publishedAt, dated, found⟩ := bind_eq_ok.mp found
      split at found
      · cases found
      · rename_i late
        obtain ⟨⟨title, link⟩, titled, found⟩ := bind_eq_ok.mp found
        obtain ⟨endpoint, resolved, found⟩ := bind_eq_ok.mp found
        obtain rfl := Extraction.item.inj (Except.ok.inj found)
        exact ⟨dated, Bool.eq_false_iff.mpr late, link, titled, mapError_eq_ok.mp resolved⟩
    · rintro ⟨dated, late, link, titled, resolved⟩
      refine bind_eq_ok.mpr ⟨i.publishedAt, dated, ?_⟩
      rw [late]
      refine bind_eq_ok.mpr ⟨(i.title, link), titled, ?_⟩
      exact bind_eq_ok.mpr ⟨i.endpoint, mapError_eq_ok.mpr resolved, rfl⟩

/-- An endpoint is a URL if and only if it is resolved to itself, and it is one whatever is on the
page, if what the site puts before links is a URL with a host that goes on with a slash. -/
theorem endpoint_resolved_to_itself (found : extract d rules cutoff = .ok (.item i)) :
    (IsUrl i.endpoint ↔
        Link.resolve rules.baseUrl rules.realUrl i.endpoint = .ok i.endpoint) ∧
      (rules.LeadsToUrls → IsUrl i.endpoint) := by
  obtain ⟨block, -, -, -, link, -, h⟩ := extract_eq_item.mp found
  obtain ⟨parsed, resolved⟩ := Link.resolved_of_resolve h
  exact ⟨(Link.resolve_self_iff parsed).symm, resolved.isUrl_of_leads⟩

section Sample

open Watching

theorem sample_root : Rooted "news://h/" := by
  have parsed : Url.parse "news://h/" =
      .ok ⟨"news".toList, some (.name ['h']), none, ['/'], false⟩ := by decide +kernel
  exact ⟨"news://h/", "", _, by simp, by decide, parsed, by simp⟩

theorem sample_leads : (sampleSite "A").LeadsToUrls := by
  intro u host parsed found
  have base : Url.parse (sampleSite "A").baseUrl =
      .ok ⟨"news".toList, some (.name ['h']), none, [], false⟩ := by decide +kernel
  obtain rfl := Except.ok.inj (base.symm.trans parsed)
  obtain rfl := Option.some.inj found
  exact sample_root

theorem endpoint_resolved_to_itself_sample :
    extract (Document.parse samplePage) (sampleSite "A") (.midnight firstCutoff) =
        .ok (.item sampleItem) ∧
      (sampleSite "A").LeadsToUrls ∧ IsUrl sampleItem.endpoint ∧
      Link.resolve "news://h" none sampleItem.endpoint = .ok sampleItem.endpoint := by
  have main := endpoint_resolved_to_itself (sample_extract "A")
  have url := main.2 sample_leads
  exact ⟨sample_extract "A", sample_leads, url, main.1.mp url⟩

def sampleDescription : SiteDescription where
  name := "A"
  baseUrl := "news://h"
  realUrl := some "www.example.com"
  rules :=
    { contentTag := "a", contentMode := "id", content := "n", dateTag := "a", agreement := .exact }
  dateFormats := ["2006-1-2"]

def sampleUnrooted : RuleSet := { sampleSite "A" with realUrl := some "www.example.com" }

def sampleLinked : Node := .element "a" [("id", "n"), ("href", "/y")] [.text "2025-1-2"]

/-- The rules of the site are accepted, and what is extracted is neither a URL nor resolved to
itself. -/
theorem endpoint_not_url :
    RuleSet.ofDescription sampleDescription = .ok sampleUnrooted ∧
      extract (Document.parse "<a id=n href=/y>2025-1-2") sampleUnrooted (.midnight firstCutoff) =
        .ok (.item ⟨"2025-1-2", "www.example.com/y", sampleItem.publishedAt⟩) ∧
      Url.parse "www.example.com/y" = .error .noBase ∧
      Link.resolve sampleUnrooted.baseUrl sampleUnrooted.realUrl "www.example.com/y" =
        .ok "www.example.comwww.example.com/y" := by
  exact ⟨by decide +kernel, by decide +kernel, by decide +kernel, by decide +kernel⟩

end Sample

end Endpoints

end PageWatch
