import PageWatch.Proofs.Data.Results
import PageWatch.Proofs.Url.Schemes

/-!
# Authorities that are closed

Where the authority of a URL has come to its end, nothing that is added can make it
anything else. So a URL with a host that ends in a slash stays a URL of the same site.
-/

set_option autoImplicit false

namespace PageWatch.Url

open Text

/-- A URL of the same site. A file loses its host where the path begins with a drive. -/
structure SameSite (u v : Url) : Prop where
  scheme : v.scheme = u.scheme
  host : v.host = u.host ∨ v.scheme = "file".toList ∧ v.host = none
  portNumber : v.portNumber = u.portNumber

def Kind.ends (k : Kind) (c : Char) : Bool := k.isSlash c || endsPath c

section Closed

variable {k : Kind} {c : Char} {before : List Char}

theorem authority_closed (before_ends : ∀ d ∈ before, k.ends d = false) (ends : k.ends c = true)
    (after : List Char) : authority k (before ++ c :: after) = before := by
  have stops : (!k.ends c) = false := by simp [ends]
  have all : ∀ d ∈ before, (!k.ends d) = true := fun d mem => by simp [before_ends d mem]
  exact (takeWhile_append_cons (p := fun d => !k.ends d) stops all after).1

theorem withoutUser_closed (before_ends : ∀ d ∈ before, k.ends d = false) (ends : k.ends c = true)
    {hasUser : Bool} {after rest : List Char}
    (h : withoutUser k (before ++ c :: after) = .ok (hasUser, rest)) :
    ∃ tail, rest = tail ++ c :: after ∧
      ∀ other, withoutUser k (before ++ c :: other) = .ok (hasUser, tail ++ c :: other) := by
  have cut (n : Nat) (after : List Char) : (before ++ c :: after).drop (before.length - n) =
      before.drop (before.length - n) ++ c :: after :=
    List.drop_append_of_le_length (Nat.sub_le _ _)
  have nonempty (xs after : List Char) : (xs ++ c :: after).isEmpty = false := by
    cases xs <;> rfl
  unfold withoutUser at h ⊢
  simp only [authority_closed before_ends ends, cut, nonempty] at h ⊢
  by_cases user : before.contains '@' = true
  · simp only [user, if_true] at h ⊢
    split at h
    · cases h
    · rename_i fine
      obtain ⟨rfl, rfl⟩ := Prod.mk.inj (Except.ok.inj h)
      refine ⟨_, rfl, fun other => ?_⟩
      rw [if_neg fine]
  · simp only [user] at h ⊢
    obtain ⟨rfl, rfl⟩ := Prod.mk.inj (Except.ok.inj h)
    exact ⟨before, rfl, fun other => rfl⟩

theorem hostLength_closed (ends : k.ends c = true) (inBrackets : Bool) (after : List Char) :
    hostLength k inBrackets (before ++ c :: after) = hostLength k inBrackets before := by
  induction before generalizing inBrackets with
  | nil =>
    have stops : (c == ':' && !inBrackets || k.isSlash c || endsPath c) = true := by
      rw [Bool.or_assoc]
      exact Bool.or_eq_true_iff.mpr (.inr ends)
    simp only [List.nil_append, hostLength, stops, if_true]
  | cons d before ih => rw [List.cons_append, hostLength, hostLength, ih]

theorem hostLength_le (k : Kind) (inBrackets : Bool) (cs : List Char) :
    hostLength k inBrackets cs ≤ cs.length := by
  induction cs generalizing inBrackets with
  | nil => exact Nat.le_refl 0
  | cons c cs ih =>
    rw [hostLength, List.length_cons]
    split
    · exact Nat.zero_le _
    · have shorter := ih (c == '[' || (inBrackets && c != ']'))
      omega

theorem Kind.eq_of_ends (ends : k.ends c = true) : c = '/' ∨ c = '\\' ∨ endsPath c = true := by
  simp only [Kind.ends, Kind.isSlash, Bool.or_eq_true, Bool.and_eq_true, beq_iff_eq] at ends
  rcases ends with (slash | ⟨slash, -⟩) | path
  · exact .inl slash
  · exact .inr (.inl slash)
  · exact .inr (.inr path)

theorem portFrom_closed (ends : k.ends c = true) {n : Nat} {any : Bool} {after rest : List Char}
    {number : Option Nat} (h : portFrom n any (before ++ c :: after) = .ok (number, rest))
    (other : List Char) : ∃ rest', portFrom n any (before ++ c :: other) = .ok (number, rest') := by
  have stops : isDigit c = false ∧ (c == '/' || c == '\\' || endsPath c) = true := by
    rcases Kind.eq_of_ends ends with rfl | rfl | path
    · decide
    · decide
    · simp only [endsPath, Bool.or_eq_true, beq_iff_eq] at path
      rcases path with rfl | rfl <;> decide
  induction before generalizing n any with
  | nil =>
    simp only [List.nil_append, portFrom, stops.1, stops.2] at h ⊢
    obtain ⟨rfl, rfl⟩ := Prod.mk.inj (Except.ok.inj h)
    exact ⟨_, rfl⟩
  | cons d before ih =>
    simp only [List.cons_append, portFrom] at h ⊢
    split at h
    · rename_i digit
      rw [if_pos digit]
      split at h
      · cases h
      · rename_i small
        rw [if_neg small]
        exact ih h
    · rename_i digit
      rw [if_neg digit]
      split at h
      · rename_i stops
        obtain ⟨rfl, rfl⟩ := Prod.mk.inj (Except.ok.inj h)
        rw [if_pos stops]
        exact ⟨_, rfl⟩
      · cases h

def portOf : List Char → Except UrlError (Option Nat × List Char)
  | ':' :: r => portFrom 0 false r
  | cs => .ok (none, cs)

def ofParts (scheme : List Char) (host : Host) (number : Option Nat) (last : List Char) : Url where
  scheme
  host := if isEmptyName host then none else some host
  portNumber := if number = defaultPort? scheme then none else number
  path := pathAfterHost (kindOf scheme) last
  isOpaque := false

def lacksHost (host : Host) (hasUser : Bool) (rest : List Char) : Bool :=
  isEmptyName host && (rest.head? = some ':' || hasUser)

def ofHost (scheme : List Char) (hasUser : Bool) (name rest : List Char) : Except UrlError Url :=
  hostOf (kindOf scheme) name >>= fun host =>
    if lacksHost host hasUser rest then .error .emptyHost
    else (portOf rest).map fun (number, last) => ofParts scheme host number last

theorem afterSlashes_eq (scheme cs : List Char) :
    afterSlashes scheme cs =
      withoutUser (kindOf scheme) cs >>= fun (hasUser, rest) =>
        ofHost scheme hasUser (rest.take (hostLength (kindOf scheme) false rest))
          (rest.drop (hostLength (kindOf scheme) false rest)) := by
  unfold afterSlashes ofHost
  refine congrArg (Except.bind _) (funext fun (hasUser, rest) => ?_)
  refine congrArg (Except.bind _) (funext fun host => ?_)
  simp only
  split
  · rename_i lacks
    exact (if_pos lacks).symm
  · rename_i lacks
    refine Eq.trans ?_ (if_neg lacks).symm
    generalize List.drop _ rest = cs
    split
    · rename_i r
      rw [portOf]
      cases portFrom 0 false r <;> rfl
    · rename_i plain
      rw [portOf.eq_2 cs plain]
      rfl

theorem ofHost_eq_ok {scheme name rest : List Char} {hasUser : Bool} {u : Url} :
    ofHost scheme hasUser name rest = .ok u ↔
      ∃ host, hostOf (kindOf scheme) name = .ok host ∧ lacksHost host hasUser rest = false ∧
        ∃ number last, portOf rest = .ok (number, last) ∧
          ofParts scheme host number last = u := by
  simp only [ofHost, bind_eq_ok]
  refine exists_congr fun host => and_congr_right fun _ => ?_
  cases lacksHost host hasUser rest with
  | true => simp
  | false => simp [map_eq_ok]

theorem portOf_closed (ends : k.ends c = true) {after rest : List Char} {number : Option Nat}
    (h : portOf (before ++ c :: after) = .ok (number, rest)) (other : List Char) :
    ∃ rest', portOf (before ++ c :: other) = .ok (number, rest') := by
  have apart : c ≠ ':' := by
    rintro rfl
    rcases Kind.eq_of_ends ends with h | h | h
    · cases h
    · cases h
    · cases h
  have plain (cs rest : List Char) (h : cs.head? ≠ some ':') : portOf cs = .ok (none, cs) := by
    apply portOf.eq_2
    rintro r rfl
    exact h rfl
  cases before with
  | nil =>
    rw [List.nil_append, plain _ [] (by simpa using apart)] at h ⊢
    obtain ⟨rfl, -⟩ := Prod.mk.inj (Except.ok.inj h)
    exact ⟨_, rfl⟩
  | cons d before =>
    by_cases colon : d = ':'
    · subst colon
      exact portFrom_closed ends h other
    · rw [plain _ [] (by simpa using colon)] at h ⊢
      obtain ⟨rfl, -⟩ := Prod.mk.inj (Except.ok.inj h)
      exact ⟨_, rfl⟩

theorem ofHost_closed {scheme name after : List Char} {hasUser : Bool} {u : Url}
    (ends : (kindOf scheme).ends c = true)
    (h : ofHost scheme hasUser name (before ++ c :: after) = .ok u) (other : List Char) :
    ∃ u', ofHost scheme hasUser name (before ++ c :: other) = .ok u' ∧ SameSite u u' := by
  obtain ⟨host, found, named, number, rest, port, rfl⟩ := ofHost_eq_ok.mp h
  obtain ⟨rest', port'⟩ := portOf_closed ends port other
  have named' : lacksHost host hasUser (before ++ c :: other) = false := by
    cases before <;> exact named
  refine ⟨_, ofHost_eq_ok.mpr ⟨host, found, named', number, rest', port', rfl⟩, ?_⟩
  exact ⟨rfl, .inl rfl, rfl⟩

theorem afterSlashes_closed {scheme after : List Char} {u : Url}
    (before_ends : ∀ d ∈ before, (kindOf scheme).ends d = false)
    (ends : (kindOf scheme).ends c = true)
    (h : afterSlashes scheme (before ++ c :: after) = .ok u) (other : List Char) :
    ∃ u', afterSlashes scheme (before ++ c :: other) = .ok u' ∧ SameSite u u' := by
  rw [afterSlashes_eq] at h
  obtain ⟨⟨hasUser, rest⟩, user, h⟩ := bind_eq_ok.mp h
  obtain ⟨tail, rfl, users⟩ := withoutUser_closed before_ends ends user
  have within := hostLength_le (kindOf scheme) false tail
  simp only [hostLength_closed ends, List.take_append_of_le_length within,
    List.drop_append_of_le_length within] at h
  obtain ⟨u', again, same⟩ := ofHost_closed ends h other
  refine ⟨u', ?_, same⟩
  rw [afterSlashes_eq, users other]
  refine bind_eq_ok.mpr ⟨_, rfl, ?_⟩
  simp only [hostLength_closed ends, List.take_append_of_le_length within,
    List.drop_append_of_le_length within]
  exact again

end Closed

theorem exists_end (k : Kind) {cs : List Char} (last : cs.getLast? = some '/') :
    ∃ before c after, cs = before ++ c :: after ∧ (∀ d ∈ before, k.ends d = false) ∧
      k.ends c = true := by
  have slash : k.ends '/' = true := by simp [Kind.ends, Kind.isSlash]
  cases rest : cs.dropWhile (!k.ends ·) with
  | nil =>
    have all := List.dropWhile_eq_nil_iff.mp rest '/' (List.mem_of_getLast? last)
    simp [slash] at all
  | cons c after =>
    refine ⟨cs.takeWhile (!k.ends ·), c, after, ?_, fun d mem => ?_, ?_⟩
    · rw [← rest, List.takeWhile_append_dropWhile]
    · simpa using List.mem_takeWhile_imp mem
    · have head := List.head?_dropWhile_not (!k.ends ·) cs
      rw [rest] at head
      simpa using head

theorem getLast?_of_suffix {α : Type} {xs ys : List α} {x : α} (suffix : ys <:+ xs)
    (nonempty : ys ≠ []) (last : xs.getLast? = some x) : ys.getLast? = some x := by
  obtain ⟨before, rfl⟩ := suffix
  obtain ⟨y, found⟩ := Option.ne_none_iff_exists'.mp (mt List.getLast?_eq_none_iff.mp nonempty)
  rwa [List.getLast?_append, found, Option.some_or, ← found] at last

variable {scheme rest : List Char} {u : Url}

theorem afterSlashes_nil (h : afterSlashes scheme [] = .ok u) : u.host = none := by
  have user : withoutUser (kindOf scheme) [] = .ok (false, []) := rfl
  rw [afterSlashes_eq, user] at h
  cases k : kindOf scheme with
  | other =>
    simp only [ofHost, k] at h
    obtain rfl := Except.ok.inj h
    rfl
  | web =>
    simp only [ofHost, k] at h
    cases h
  | file =>
    simp only [ofHost, k] at h
    cases h

theorem afterSlashes_append (host : u.host ≠ none) (h : afterSlashes scheme rest = .ok u)
    (last : rest ≠ [] → rest.getLast? = some '/') (more : List Char) :
    ∃ u', afterSlashes scheme (rest ++ more) = .ok u' ∧ SameSite u u' := by
  have nonempty : rest ≠ [] := by
    rintro rfl
    exact host (afterSlashes_nil h)
  obtain ⟨before, c, after, rfl, before_ends, ends⟩ := exists_end (kindOf scheme) (last nonempty)
  rw [List.append_assoc, List.cons_append]
  exact afterSlashes_closed before_ends ends h (after ++ more)

theorem fileHost_append (last : rest.getLast? = some '/') (more : List Char) :
    fileHost (rest ++ more) = fileHost rest := by
  obtain ⟨before, c, after, rfl, before_ends, ends⟩ := exists_end .file last
  have same : authority .file (before ++ c :: after ++ more) =
      authority .file (before ++ c :: after) := by
    rw [List.append_assoc, List.cons_append, authority_closed before_ends ends,
      authority_closed before_ends ends]
  simp only [fileHost, same]

theorem afterFileSlashes?_eq_some {r : List Char} (h : afterFileSlashes? rest = some r) :
    r <:+ rest ∧ ∀ more, afterFileSlashes? (rest ++ more) = some (r ++ more) := by
  unfold afterFileSlashes? at h
  split at h
  · rename_i a b r'
    split at h
    · rename_i both
      obtain rfl := Option.some.inj h
      exact ⟨⟨[a, b], rfl⟩, fun more => if_pos both⟩
    · cases h
  · cases h

theorem host_onDrive {host : Option Host} {onDrive : Bool}
    (kept : (if onDrive then none else host) ≠ none) (onDrive' : Bool) :
    (if onDrive' then none else host) = (if onDrive then none else host) ∨
      (if onDrive' then none else host) = none := by
  cases onDrive with
  | true => exact absurd rfl kept
  | false =>
    cases onDrive' with
    | true => exact .inr rfl
    | false => exact .inl rfl

theorem fileUrl_append (host : u.host ≠ none) (h : fileUrl rest = .ok u)
    (last : rest.getLast? = some '/') (more : List Char) :
    ∃ u', fileUrl (rest ++ more) = .ok u' ∧ SameSite u u' := by
  unfold fileUrl at h ⊢
  split at h
  · obtain rfl := Except.ok.inj h
    exact absurd rfl host
  · rename_i r slashes
    obtain ⟨host', found, h⟩ := bind_eq_ok.mp h
    have nonempty : r ≠ [] := by
      rintro rfl
      obtain rfl : none = host' := Except.ok.inj found
      obtain rfl := Except.ok.inj h
      simp at host
    obtain ⟨suffix, longer⟩ := afterFileSlashes?_eq_some slashes
    have again := fileHost_append (getLast?_of_suffix suffix nonempty last) more
    simp only [longer, again, found]
    obtain rfl := Except.ok.inj h
    exact ⟨_, rfl, rfl, (host_onDrive host _).imp_right fun lost => ⟨rfl, lost⟩, rfl⟩

theorem ofScheme_append (host : u.host ≠ none) (h : ofScheme scheme rest = .ok u)
    (last : rest.getLast? = some '/') (more : List Char) :
    ∃ u', ofScheme scheme (rest ++ more) = .ok u' ∧ SameSite u u' := by
  unfold ofScheme at h ⊢
  split at h
  · exact fileUrl_append host h last more
  · have suffix := List.dropWhile_suffix Kind.web.isSlash (l := rest)
    have nonempty : rest.dropWhile Kind.web.isSlash ≠ [] := by
      intro empty
      rw [empty] at h
      exact host (afterSlashes_nil h)
    rw [dropWhile_append_of_ne_nil more nonempty]
    exact afterSlashes_append host h (getLast?_of_suffix suffix · last) more
  · split at h
    · rename_i r
      have suffix : r <:+ '/' :: '/' :: r := ⟨['/', '/'], rfl⟩
      exact afterSlashes_append host h (getLast?_of_suffix suffix · last) more
    · obtain rfl := Except.ok.inj h
      exact absurd rfl host
    · obtain rfl := Except.ok.inj h
      exact absurd rfl host

/-- A URL with a host that ends in a slash stays a URL of the same site, whatever is added. -/
theorem parse_append {before : String} (parsed : parse before = .ok u) (host : u.host ≠ none)
    (last : before.toList.getLast? = some '/') (more : String) :
    ∃ u', parse (before ++ more) = .ok u' ∧ SameSite u u' := by
  obtain ⟨init, ends⟩ := List.getLast?_eq_some_iff.mp last
  have shorter : significant before.toList =
      (init.dropWhile isTrimmed).filter (!isIgnored ·) ++ ['/'] := by
    rw [ends]
    exact significant_append_cons rfl init []
  have longer : significant (before ++ more).toList = significant before.toList ++
      (more.toList.reverse.dropWhile isTrimmed).reverse.filter (!isIgnored ·) := by
    rw [shorter, String.toList_append, ends, List.append_assoc, List.append_assoc]
    exact significant_append_cons rfl init more.toList
  unfold parse at parsed ⊢
  rw [longer]
  cases split : splitScheme? (significant before.toList) with
  | none =>
    rw [split] at parsed
    cases parsed
  | some parts =>
    obtain ⟨scheme, rest⟩ := parts
    obtain ⟨name, form, -, -, -⟩ := splitScheme?_eq_some.mp split
    have slash : (':' :: rest).getLast? = some '/' := by
      have suffix : ':' :: rest <:+ significant before.toList := ⟨name, form.symm⟩
      exact getLast?_of_suffix suffix (by simp) (by simp [shorter])
    have nonempty : rest ≠ [] := by
      rintro rfl
      cases slash
    have last := getLast?_of_suffix ⟨[':'], rfl⟩ nonempty slash
    rw [split] at parsed
    rw [splitScheme?_append split]
    exact ofScheme_append host parsed last _

abbrev IsOwn (e : UrlError) : Prop := e ≠ .noBase ∧ e ≠ .opaqueBase

theorem withoutUser_error {k : Kind} {cs : List Char} {e : UrlError}
    (h : withoutUser k cs = .error e) : IsOwn e := by
  unfold withoutUser at h
  simp only at h
  split at h
  · split at h
    · cases h
      decide
    · cases h
  · cases h

theorem bracketed_error {cs : List Char} {e : UrlError} (h : bracketed cs = .error e) :
    IsOwn e := by
  unfold bracketed at h
  split at h
  · split at h
    · cases h
    · cases h
      decide
  · cases h
    decide

theorem domainHost_error {cs : List Char} {e : UrlError} (h : domainHost cs = .error e) :
    IsOwn e := by
  unfold domainHost at h
  split at h
  · exact bracketed_error h
  · split at h
    · cases h
      decide
    · cases h
      decide
    · split at h
      · split at h
        · cases h
        · cases h
          decide
      · cases h

theorem hostOf_error {k : Kind} {cs : List Char} {e : UrlError} (h : hostOf k cs = .error e) :
    IsOwn e := by
  unfold hostOf opaqueHost at h
  split at h
  · split at h
    · exact bracketed_error h
    · split at h
      · cases h
        decide
      · cases h
  · split at h
    · cases h
      decide
    · exact domainHost_error h

theorem portFrom_error {n : Nat} {any : Bool} {cs : List Char} {e : UrlError}
    (h : portFrom n any cs = .error e) : IsOwn e := by
  induction cs generalizing n any with
  | nil => cases h
  | cons c cs ih =>
    unfold portFrom at h
    split at h
    · simp only at h
      split at h
      · cases h
        decide
      · exact ih h
    · split at h
      · cases h
      · cases h
        decide

theorem portOf_error {cs : List Char} {e : UrlError} (h : portOf cs = .error e) : IsOwn e := by
  unfold portOf at h
  split at h
  · exact portFrom_error h
  · cases h

theorem ofHost_error {name : List Char} {hasUser : Bool} {e : UrlError}
    (h : ofHost scheme hasUser name rest = .error e) : IsOwn e := by
  rcases bind_eq_error.mp h with found | ⟨host, -, h⟩
  · exact hostOf_error found
  · split at h
    · cases h
      decide
    · exact portOf_error (map_eq_error.mp h)

theorem afterSlashes_error {e : UrlError} (h : afterSlashes scheme rest = .error e) :
    IsOwn e := by
  rw [afterSlashes_eq] at h
  rcases bind_eq_error.mp h with user | ⟨_, -, h⟩
  · exact withoutUser_error user
  · exact ofHost_error h

theorem fileHost_error {e : UrlError} (h : fileHost rest = .error e) : IsOwn e := by
  simp only [fileHost] at h
  split at h
  · cases h
  · rcases bind_eq_error.mp h with found | ⟨host, -, h⟩
    · exact domainHost_error found
    · cases h

theorem fileUrl_error {e : UrlError} (h : fileUrl rest = .error e) : IsOwn e := by
  unfold fileUrl at h
  split at h
  · cases h
  · rcases bind_eq_error.mp h with found | ⟨host, -, h⟩
    · exact fileHost_error found
    · cases h

theorem ofScheme_error {e : UrlError} (h : ofScheme scheme rest = .error e) : IsOwn e := by
  unfold ofScheme at h
  split at h
  · exact fileUrl_error h
  · exact afterSlashes_error h
  · split at h
    · exact afterSlashes_error h
    · cases h
    · cases h

theorem parse_eq_noBase {text : String} :
    parse text = .error .noBase ↔ splitScheme? (significant text.toList) = none := by
  unfold parse
  cases splitScheme? (significant text.toList) with
  | none => simp
  | some parts =>
    constructor
    · intro h
      exact absurd rfl (ofScheme_error h).1
    · intro h
      cases h

/-- What a text with the scheme is read as. -/
inductive Reading (scheme : List Char) : Url → Prop where
  | parts {name : List Char} {host : Host} (found : hostOf (kindOf scheme) name = .ok host)
      (number : Option Nat) (last : List Char) : Reading scheme (ofParts scheme host number last)
  | file {rest : List Char} {host : Option Host} (found : fileHost rest = .ok host)
      (onDrive : Bool) (last : List Char) :
      Reading scheme ⟨scheme, if onDrive then none else host, none, pathAfterHost .file last, false⟩
  | hostless (path : List Char) (isOpaque : Bool) :
      Reading scheme ⟨scheme, none, none, path, isOpaque⟩

theorem reading_of_afterSlashes (h : afterSlashes scheme rest = .ok u) : Reading scheme u := by
  rw [afterSlashes_eq] at h
  obtain ⟨⟨hasUser, rest⟩, -, h⟩ := bind_eq_ok.mp h
  obtain ⟨host, found, -, number, last, -, rfl⟩ := ofHost_eq_ok.mp h
  exact .parts found number last

theorem reading_of_fileUrl (h : fileUrl rest = .ok u) : Reading "file".toList u := by
  unfold fileUrl at h
  split at h
  · obtain rfl := Except.ok.inj h
    exact .hostless _ _
  · obtain ⟨host, found, h⟩ := bind_eq_ok.mp h
    obtain rfl := Except.ok.inj h
    exact .file found _ _

theorem kindOf_eq_file (h : kindOf scheme = .file) : scheme = "file".toList := by
  unfold kindOf at h
  split at h
  · assumption
  · split at h
    · cases h
    · cases h

theorem reading_of_ofScheme (h : ofScheme scheme rest = .ok u) : Reading scheme u := by
  unfold ofScheme at h
  split at h
  · rename_i file
    rw [kindOf_eq_file file]
    exact reading_of_fileUrl h
  · exact reading_of_afterSlashes h
  · split at h
    · exact reading_of_afterSlashes h
    · obtain rfl := Except.ok.inj h
      exact .hostless _ _
    · obtain rfl := Except.ok.inj h
      exact .hostless _ _

theorem Reading.scheme_eq (reading : Reading scheme u) : u.scheme = scheme := by
  cases reading <;> rfl

theorem reading_of_parse {text : String} (parsed : parse text = .ok u) :
    IsScheme u.scheme ∧ Reading u.scheme u := by
  unfold parse at parsed
  cases split : splitScheme? (significant text.toList) with
  | none =>
    rw [split] at parsed
    cases parsed
  | some parts =>
    rw [split] at parsed
    have reading := reading_of_ofScheme parsed
    rw [reading.scheme_eq]
    exact ⟨isScheme_of_splitScheme? split, reading⟩

def HasPath (u : Url) : Prop := u.isOpaque = false ∧ ∃ k cs, u.path = pathAfterHost k cs

theorem HasPath.starts (path : HasPath u) : u.path = [] ∨ ∃ more, u.path = '/' :: more := by
  obtain ⟨-, k, cs, path⟩ := path
  rw [path]
  simp only [pathAfterHost]
  split
  · exact .inl rfl
  · split
    · exact .inr ⟨_, rfl⟩
    · generalize (addSegments k [] _).reverse = segments
      cases segments with
      | nil => exact .inl rfl
      | cons first rest => exact .inr ⟨_, rfl⟩

theorem Reading.hasPath (reading : Reading scheme u) (host : u.host ≠ none) : HasPath u := by
  cases reading with
  | parts found number last => exact ⟨rfl, _, last, rfl⟩
  | file found onDrive last => exact ⟨rfl, .file, last, rfl⟩
  | hostless path isOpaque => exact absurd rfl host

theorem parse_form {text : String} (parsed : parse text = .ok u) :
    IsScheme u.scheme ∧ (u.host ≠ none → HasPath u) := by
  obtain ⟨isScheme, reading⟩ := reading_of_parse parsed
  exact ⟨isScheme, reading.hasPath⟩

theorem checkRelative_error {base : Url} {link : String} {e : UrlError}
    (closed : base.isOpaque = false) (h : checkRelative base link = .error e) : IsOwn e := by
  unfold checkRelative at h
  simp only [closed, Bool.false_eq_true, if_false] at h
  split at h
  · cases h
  · split at h
    · split at h
      · exact fileHost_error (map_eq_error.mp h)
      · cases h
    · split at h
      · exact afterSlashes_error (map_eq_error.mp h)
      · cases h

end PageWatch.Url
