import PageWatch.Proofs.Extraction.BasePath
import PageWatch.Proofs.Extraction.Endpoints
import PageWatch.Proofs.Url.Hosts

/-!
# Origins of endpoints

What a site puts before a relative link is closed: the scheme, the host and the number of
the site stand in front, and the slash after them ends the authority before the first
character of the link. So nothing in a link can name another host.
-/

set_option autoImplicit false

namespace PageWatch.Link

/-- The host of a site and its number, as they stand before links. -/
def siteAuthority (u : Url) (host : Url.Host) : List Char :=
  host.text ++ match u.portNumber with
    | some n => ':' :: Text.decimal n
    | none => []

theorem origin_eq (u : Url) (host : Url.Host) :
    origin u host = u.scheme ++ "://".toList ++ siteAuthority u host :=
  List.append_assoc ..

variable {base link : String} {realUrl : Option String} {u : Url} {host : Url.Host}

theorem inert_siteAuthority (inert : Url.Inert host.text) :
    Url.Inert (siteAuthority u host) := by
  apply inert.append
  cases u.portNumber with
  | none => exact .nil
  | some n => exact .cons rfl (Url.inert_decimal n)

theorem stem_prefix (basePath link : List Char) : stem basePath <+: joinOnce basePath link := by
  by_cases root : stem basePath = []
  · rw [root]
    exact List.nil_prefix
  · rw [joinOnce_eq root]
    exact List.prefix_append _ _

theorem resolve_eq_joined (parsed : Url.parse base = .ok u) (found : u.host = some host)
    (absent : realUrl = none ∨ realUrl = some "") (relative : Url.parse link = .error .noBase)
    (endpoint : String) :
    resolve base realUrl link = .ok endpoint ↔
      u.checkRelative link = .ok () ∧
        endpoint = String.ofList (origin u host ++ joinOnce u.path link.toList) := by
  have unled : realUrl.filter (!·.isEmpty) = none := by
    rcases absent with rfl | rfl <;> rfl
  simp only [resolve, parsed, relative, unled, found, Except.mapError, bind, Except.bind]
  cases u.checkRelative link with
  | error e => simp
  | ok =>
    constructor
    · intro joined
      exact ⟨rfl, (Except.ok.inj joined).symm⟩
    · rintro ⟨-, rfl⟩
      rfl

/-- A relative link stays on the site. It is resolved if it can be put onto the base at all, and
then the endpoint has the scheme, the host and the number of the base, and behind them a path that
begins with a slash and with the base path. The authority ends with the number whatever the link is,
and there is no user in it; if the root of the site is read as a URL with a host, the endpoint is
read as one of the same site. -/
theorem stays_on_site (parsed : Url.parse base = .ok u) (found : u.host = some host)
    (absent : realUrl = none ∨ realUrl = some "") (relative : Url.parse link = .error .noBase) :
    ((∃ endpoint, resolve base realUrl link = .ok endpoint) ↔ u.checkRelative link = .ok ()) ∧
      ∀ endpoint, resolve base realUrl link = .ok endpoint →
        (∃ path, endpoint.toList = u.scheme ++ "://".toList ++ siteAuthority u host ++ path ∧
            path.head? = some '/' ∧ stem u.path <+: path ∧
            ∀ k, Url.authority k (siteAuthority u host ++ path) = siteAuthority u host) ∧
          host.text ≠ [] ∧ '@' ∉ siteAuthority u host ∧
          (∀ n, u.portNumber = some n → Url.defaultPort? u.scheme ≠ some n) ∧
          ∀ start, Url.parse (root u host) = .ok start → start.host ≠ none →
            ∃ v, Url.parse endpoint = .ok v ∧ start.SameSite v := by
  have resolves := resolve_eq_joined parsed found absent relative
  constructor
  · constructor
    · rintro ⟨endpoint, resolved⟩
      exact ((resolves endpoint).mp resolved).1
    · intro fine
      exact ⟨_, (resolves _).mpr ⟨fine, rfl⟩⟩
  intro endpoint resolved
  obtain ⟨-, rfl⟩ := (resolves endpoint).mp resolved
  have some_host : u.host ≠ none := by simp [found]
  have path : u.HasPath := (Url.parse_form parsed).2 some_host
  have settled : Url.Settled u := Url.settled_of_parse parsed
  obtain ⟨named, inert⟩ := settled.host host found
  have authority := inert_siteAuthority (u := u) inert
  obtain ⟨more, starts⟩ := joinOnce_starts path.starts link.toList
  refine ⟨⟨joinOnce u.path link.toList, ?_, ?_, stem_prefix .., fun k => ?_⟩, named,
    authority.not_mem_at, settled.portNumber, fun start whole some_start => ?_⟩
  · rw [String.toList_ofList, origin_eq]
  · rw [starts]
    rfl
  · have slash : k.ends '/' = true := rfl
    rw [starts]
    exact Url.authority_closed (authority.not_ends k) slash more
  · have last : (root u host).toList.getLast? = some '/' := by simp [root]
    rw [starts, origin_append_cons]
    exact Url.parse_append whole some_start last (String.ofList more)

theorem stays_on_site_sample :
    Url.parse "news://h:8080/a/" =
        .ok ⟨"news".toList, some (.name ['h']), some 8080, "/a/".toList, false⟩ ∧
      Url.parse "//evil@x:99/b" = .error .noBase ∧
      resolve "news://h:8080/a/" none "//evil@x:99/b" = .ok "news://h:8080/a/evil@x:99/b" ∧
      (∃ path, "news://h:8080/a/evil@x:99/b".toList = "news://h:8080".toList ++ path ∧
        path.head? = some '/' ∧ "/a".toList <+: path) ∧
      ∃ v, Url.parse "news://h:8080/a/evil@x:99/b" = .ok v ∧
        Url.SameSite ⟨"news".toList, some (.name ['h']), some 8080, ['/'], false⟩ v := by
  have parsed : Url.parse "news://h:8080/a/" =
      .ok ⟨"news".toList, some (.name ['h']), some 8080, "/a/".toList, false⟩ := by decide +kernel
  have relative : Url.parse "//evil@x:99/b" = .error .noBase := by decide +kernel
  have resolved : resolve "news://h:8080/a/" none "//evil@x:99/b" =
      .ok "news://h:8080/a/evil@x:99/b" := by decide +kernel
  have start : Url.parse "news://h:8080/" =
      .ok ⟨"news".toList, some (.name ['h']), some 8080, ['/'], false⟩ := by decide +kernel
  have main := stays_on_site parsed rfl (.inl rfl) relative
  obtain ⟨⟨path, split, starts, based, -⟩, -, -, -, again⟩ := main.2 _ resolved
  exact ⟨parsed, relative, resolved, ⟨path, split, starts, based⟩, again _ start nofun⟩

end PageWatch.Link
