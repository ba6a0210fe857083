import PageWatch.Proofs.Url.Authorities

/-!
# Written hosts

A host is written in visible characters, and none of them ends an authority or the user in
it: neither those that were kept from its name, nor those that stand for what cannot be
written, nor the digits of an address.
-/

set_option autoImplicit false

namespace PageWatch.Url

open Text

def endings : List Char := ['/', '\\', '?', '#', '@']

def isInert (c : Char) : Bool := 0x20 < c.toNat && !endings.contains c

def Inert (cs : List Char) : Prop := ∀ c ∈ cs, isInert c = true

namespace Inert

variable {cs ds : List Char}

theorem nil : Inert [] := fun _ mem => absurd mem List.not_mem_nil

theorem append (first : Inert cs) (second : Inert ds) : Inert (cs ++ ds) := by
  intro c mem
  rcases List.mem_append.mp mem with mem | mem
  · exact first c mem
  · exact second c mem

theorem cons {c : Char} (first : isInert c = true) (rest : Inert cs) : Inert (c :: cs) :=
  append (fun _ mem => List.mem_singleton.mp mem ▸ first) rest

theorem intercalate {pieces : List (List Char)} (separator : Inert ds)
    (all : ∀ piece ∈ pieces, Inert piece) : Inert (ds.intercalate pieces) := by
  induction pieces with
  | nil => exact nil
  | cons piece pieces ih =>
    have later : Inert (ds.intercalate pieces) := ih fun p mem => all p (List.mem_cons_of_mem _ mem)
    have first := all piece List.mem_cons_self
    cases pieces with
    | nil => simpa using first
    | cons next pieces =>
      rw [List.intercalate_cons_cons]
      exact (first.append separator).append later

theorem not_ends (inert : Inert cs) (k : Kind) : ∀ c ∈ cs, k.ends c = false := by
  intro c mem
  have fine := inert c mem
  simp only [isInert, endings, Bool.and_eq_true, Bool.not_eq_true', List.contains_eq_mem,
    decide_eq_false_iff_not, List.mem_cons, List.not_mem_nil, or_false, not_or] at fine
  simp [Kind.ends, Kind.isSlash, endsPath, fine]

theorem not_mem_at (inert : Inert cs) : '@' ∉ cs := by
  intro mem
  cases inert '@' mem

end Inert

theorem inert_toDigits {base : Nat} (two : 1 < base) (hexadecimal : base ≤ 16) (n : Nat) :
    Inert (Nat.toDigits base n) := by
  have digit : ∀ d < 16, isInert (Nat.digitChar d) = true := by decide
  induction n using Nat.strongRecOn with
  | ind n ih =>
    by_cases small : n < base
    · rw [Nat.toDigits_of_lt_base small]
      exact .cons (digit n (by omega)) .nil
    · have positive : 0 < base := by omega
      have shorter : n / base < n := Nat.div_lt_self (by omega) two
      have last : n % base < base := Nat.mod_lt n positive
      rw [Nat.toDigits_of_base_le two (by omega)]
      exact (ih (n / base) shorter).append (.cons (digit (n % base) (by omega)) .nil)

theorem inert_decimal (n : Nat) : Inert (decimal n) :=
  inert_toDigits (by decide) (by decide) n

theorem inert_shortAddressText (n : Nat) : Inert (shortAddressText n) := by
  refine .intercalate (.cons rfl .nil) fun piece mem => ?_
  obtain ⟨part, -, rfl⟩ := List.mem_map.mp mem
  exact inert_decimal part

theorem inert_longAddressText (pieces : List Nat) : Inert (longAddressText pieces) := by
  have written (ps : List Nat) : Inert ([':'].intercalate (ps.map hex)) := by
    refine .intercalate (.cons rfl .nil) fun piece mem => ?_
    obtain ⟨part, -, rfl⟩ := List.mem_map.mp mem
    exact inert_toDigits (by decide) (by decide) part
  unfold longAddressText
  simp only
  split
  · exact written pieces
  · exact ((written _).append (.cons rfl (.cons rfl .nil))).append (written _)

namespace Punycode

theorem inert_writeNumber (bias fuel q k : Nat) : Inert (writeNumber bias fuel q k) := by
  have digit : ∀ d < 36, isInert (digitChar d) = true := by decide
  have bounds (k : Nat) : 1 ≤ threshold bias k ∧ threshold bias k ≤ 26 := by
    unfold threshold
    omega
  induction fuel generalizing q k with
  | zero => exact .nil
  | succ fuel ih =>
    have := bounds k
    unfold writeNumber
    simp only
    split
    · exact .cons (digit q (by omega)) .nil
    · have rest : (q - threshold bias k) % (36 - threshold bias k) < 36 - threshold bias k :=
        Nat.mod_lt _ (by omega)
      exact .cons (digit _ (by omega)) (ih _ _)

theorem inert_pass {s : Writer} (inert : Inert s.output) (code c : Nat) :
    Inert (s.pass code c).output := by
  unfold Writer.pass
  split
  · exact inert
  · split
    · exact inert.append (inert_writeNumber _ _ _ _)
    · exact inert

theorem inert_foldl_pass {s : Writer} (inert : Inert s.output) (code : Nat) (text : List Nat) :
    Inert (text.foldl (Writer.pass code) s).output := by
  induction text generalizing s with
  | nil => exact inert
  | cons c text ih => exact ih (inert_pass inert code c)

theorem inert_run {s : Writer} (inert : Inert s.output) (text : List Nat) (previous : Nat)
    (codes : List Nat) : Inert (s.run text previous codes).output := by
  induction codes generalizing s previous with
  | nil => exact inert
  | cons code codes ih =>
    apply ih
    show Inert (text.foldl (Writer.pass code) _).output
    apply inert_foldl_pass
    exact inert

theorem inert_encode {text : List Nat}
    (plain : ∀ n ∈ text, n < 128 → isInert (Char.ofNat n) = true) : Inert (encode text) := by
  unfold encode
  refine (Inert.append ?_ ?_).append (inert_run ?_ _ _ _)
  · intro c mem
    obtain ⟨n, kept, rfl⟩ := List.mem_map.mp mem
    obtain ⟨mem, small⟩ := List.mem_filter.mp kept
    exact plain n mem (by simpa using small)
  · split
    · exact .nil
    · exact .cons rfl .nil
  · exact .nil

end Punycode

theorem inert_of_charactersFit {label : List Nat} (fit : charactersFit label = true) :
    ∀ n ∈ label, n < 128 → isInert (Char.ofNat n) = true := by
  have table : ∀ n < 128, 0x20 ≤ n → forbiddenInDomain.contains n = false →
      isInert (Char.ofNat n) = true := by decide
  intro n mem small
  have fine := List.all_eq_true.mp fit n mem
  simp only [Bool.and_eq_true, Bool.not_eq_true', decide_eq_true_eq] at fine
  exact table n small fine.1.2 fine.2

theorem charactersFit_of_shownLabel? {label shown : List Nat} (h : shownLabel? label = some shown) :
    charactersFit shown = true := by
  have first {l : List Nat} (fits : labelFits l = true) : charactersFit l = true := by
    simp only [labelFits, Bool.and_eq_true] at fits
    exact fits.1.1
  unfold shownLabel? at h
  split at h
  · split at h
    · cases h
    · split at h
      · cases h
      · split at h
        · cases h
        · rename_i fits
          obtain rfl := Option.some.inj h
          simp only [Bool.or_eq_true, Bool.not_eq_true', not_or, Bool.not_eq_false] at fits
          exact first fits.2
  · split at h
    · rename_i fits
      obtain rfl := Option.some.inj h
      exact first fits
    · cases h

theorem inert_asciiLabel {shown : List Nat} (fit : charactersFit shown = true) :
    Inert (asciiLabel shown) := by
  have plain := inert_of_charactersFit fit
  unfold asciiLabel
  split
  · rename_i ascii
    intro c mem
    obtain ⟨n, inside, rfl⟩ := List.mem_map.mp mem
    exact plain n inside (by simpa using List.all_eq_true.mp ascii n inside)
  · have mark : Inert "xn--".toList := .cons rfl (.cons rfl (.cons rfl (.cons rfl .nil)))
    exact mark.append (Punycode.inert_encode plain)

theorem inert_domainToAscii? {name written : List Char} (h : domainToAscii? name = some written) :
    Inert written := by
  obtain ⟨shown, each, h⟩ := Option.bind_eq_some_iff.mp h
  split at h
  · cases h
  · obtain rfl := Option.some.inj h
    refine .intercalate (.cons rfl .nil) fun piece mem => ?_
    obtain ⟨label, inside, rfl⟩ := List.mem_map.mp mem
    obtain ⟨source, -, found⟩ := exists_of_mapM_eq_some each label inside
    exact inert_asciiLabel (charactersFit_of_shownLabel? found)

theorem inert_percentByte (b : UInt8) : Inert (percentByte b) := by
  have digit : ∀ d < 16, isInert (upper (Nat.digitChar d)) = true := by decide
  have small : b.toNat < 256 := UInt8.toNat_lt_size b
  exact .cons rfl (.cons (digit _ (by omega)) (.cons (digit _ (by omega)) .nil))

theorem inert_percentEncode {cs : List Char}
    (plain : ∀ c ∈ cs, 0x20 ≤ c.toNat → isInert c = true) : Inert (percentEncode [] cs) := by
  intro c mem
  obtain ⟨d, hd, mem⟩ := List.mem_flatMap.mp mem
  split at mem
  · obtain ⟨b, -, mem⟩ := List.mem_flatMap.mp mem
    exact inert_percentByte b c mem
  · rename_i kept
    obtain rfl := List.mem_singleton.mp mem
    exact plain c hd (by omega)

theorem Host.text_ne_nil {host : Host} (named : isEmptyName host = false) : host.text ≠ [] := by
  cases host with
  | name labels =>
    rintro rfl
    cases named
  | short address =>
    intro empty
    have dot : '.' ∈ shortAddressText address := by
      unfold shortAddressText
      simp [List.intercalate_cons_cons]
    rw [show shortAddressText address = [] from empty] at dot
    cases dot
  | long pieces => exact List.cons_ne_nil _ _

theorem bracketed_eq_ok {cs : List Char} {host : Host} (h : bracketed cs = .ok host) :
    ∃ pieces, host = .long pieces := by
  unfold bracketed at h
  split at h
  · split at h
    · exact ⟨_, (Except.ok.inj h).symm⟩
    · cases h
  · cases h

theorem domainHost_eq_ok {cs : List Char} {host : Host} (h : domainHost cs = .ok host) :
    (∃ pieces, host = .long pieces) ∨ (∃ address, host = .short address) ∨
      ∃ name written, host = .name written ∧ written ≠ [] ∧ domainToAscii? name = some written := by
  unfold domainHost at h
  split at h
  · exact .inl (bracketed_eq_ok h)
  · split at h
    · cases h
    · cases h
    · rename_i nonempty found
      split at h
      · split at h
        · exact .inr (.inl ⟨_, (Except.ok.inj h).symm⟩)
        · cases h
      · obtain ⟨name, -, written⟩ := Option.bind_eq_some_iff.mp found
        exact .inr (.inr ⟨name, _, (Except.ok.inj h).symm, nonempty, written⟩)

theorem inert_long (pieces : List Nat) : Inert (Host.long pieces).text :=
  .cons rfl ((inert_longAddressText pieces).append (.cons rfl .nil))

theorem inert_domainHost {cs : List Char} {host : Host} (h : domainHost cs = .ok host) :
    isEmptyName host = false ∧ Inert host.text := by
  rcases domainHost_eq_ok h with
    ⟨pieces, rfl⟩ | ⟨address, rfl⟩ | ⟨name, text, rfl, nonempty, written⟩
  · exact ⟨rfl, inert_long pieces⟩
  · exact ⟨rfl, inert_shortAddressText address⟩
  · refine ⟨?_, inert_domainToAscii? written⟩
    cases text with
    | nil => exact absurd rfl nonempty
    | cons c text => rfl

theorem inert_opaqueHost {cs : List Char} {host : Host} (h : opaqueHost cs = .ok host) :
    Inert host.text := by
  have kept (c : Char) (visible : 0x20 ≤ c.toNat) (allowed : forbiddenInHost.contains c = false) :
      isInert c = true := by
    simp only [forbiddenInHost, List.contains_eq_mem, decide_eq_false_iff_not, List.mem_cons,
      List.not_mem_nil, or_false, not_or] at allowed
    have blank : c ≠ ' ' := by simp [allowed]
    have past : c.toNat ≠ 0x20 := fun same => blank (Char.toNat_inj.mp same)
    have within : 0x20 < c.toNat := by omega
    simp [isInert, endings, allowed, within]
  unfold opaqueHost at h
  split at h
  · obtain ⟨pieces, rfl⟩ := bracketed_eq_ok h
    exact inert_long pieces
  · split at h
    · cases h
    · rename_i fine
      obtain rfl := Except.ok.inj h
      simp only [List.any_eq_true, not_exists, not_and, Bool.not_eq_true] at fine
      exact inert_percentEncode fun c mem visible => kept c visible (fine c mem)

theorem inert_hostOf {k : Kind} {cs : List Char} {host : Host} (h : hostOf k cs = .ok host) :
    Inert host.text := by
  unfold hostOf at h
  split at h
  · exact inert_opaqueHost h
  · split at h
    · cases h
    · exact (inert_domainHost h).2

/-- What is kept of an authority: a host with a text, and a number unless the scheme stands for
it. -/
structure Settled (u : Url) : Prop where
  host : ∀ host, u.host = some host → host.text ≠ [] ∧ Inert host.text
  portNumber : ∀ n, u.portNumber = some n → defaultPort? u.scheme ≠ some n

variable {scheme rest : List Char} {u : Url}

theorem settled_ofParts {host : Host} (inert : Inert host.text) (number : Option Nat)
    (last : List Char) : Settled (ofParts scheme host number last) := by
  constructor
  · intro h found
    obtain ⟨named, same⟩ := Option.ite_none_left_eq_some.mp found
    obtain rfl := Option.some.inj same
    exact ⟨Host.text_ne_nil (Bool.eq_false_iff.mpr named), inert⟩
  · intro n found understood
    obtain ⟨apart, same⟩ := Option.ite_none_left_eq_some.mp found
    exact apart (same.trans understood.symm)

theorem inert_fileHost {host : Host} (h : fileHost rest = .ok (some host)) :
    host.text ≠ [] ∧ Inert host.text := by
  unfold fileHost at h
  simp only at h
  split at h
  · cases h
  · obtain ⟨host', found, h⟩ := bind_eq_ok.mp h
    split at h
    · cases h
    · obtain rfl := Option.some.inj (Except.ok.inj h)
      obtain ⟨named, inert⟩ := inert_domainHost found
      exact ⟨Host.text_ne_nil named, inert⟩

theorem Reading.settled (reading : Reading scheme u) : Settled u := by
  cases reading with
  | parts found number last => exact settled_ofParts (inert_hostOf found) number last
  | file found onDrive last =>
    constructor
    · intro kept same
      obtain ⟨-, rfl⟩ := Option.ite_none_left_eq_some.mp same
      exact inert_fileHost found
    · exact nofun
  | hostless path isOpaque =>
    constructor
    · exact nofun
    · exact nofun

theorem settled_of_parse {text : String} (parsed : parse text = .ok u) : Settled u :=
  (reading_of_parse parsed).2.settled

end PageWatch.Url
