import PageWatch.Network.Pages
import PageWatch.Proofs.Charset.Utf8

/-!
# Pages in UTF-8

The bytes of a text in UTF-8 look like a byte-order mark only where the text itself begins
with one. So a page in UTF-8 is read as it was written wherever nothing names another
charset for it. A byte-order mark overrules all names, and the name in a reply overrules
those in the page.
-/

set_option autoImplicit false

namespace PageWatch

namespace Charset

theorem foldl_advance (d : Decoder) (bytes : List UInt8) (s : d.State) (done : Output) :
    bytes.foldl d.advance (s, done) =
      ((bytes.foldl d.advance (s, [])).1, (bytes.foldl d.advance (s, [])).2 ++ done) := by
  induction bytes generalizing s done with
  | nil => rfl
  | cons b bytes ih =>
    have split (done : Output) : (b :: bytes).foldl d.advance (s, done) =
        bytes.foldl d.advance ((d.step s b).1, (d.step s b).2.reverse ++ done) := rfl
    rw [split, split [], ih, ih _ (_ ++ []), List.append_nil, List.append_assoc]

/-- Bytes after which a decoder is where it started are decoded by themselves. -/
theorem run_append {d : Decoder} {bytes rest : List UInt8} (out : Output)
    (back : bytes.foldl d.advance (d.start, []) = (d.start, out.reverse)) :
    d.run (bytes ++ rest) = out ++ d.run rest := by
  simp only [Decoder.run, List.foldl_append, back]
  rw [foldl_advance d rest d.start out.reverse]
  simp

theorem run_char (c : Char) (rest : List UInt8) :
    utf8Decoder.run (String.utf8EncodeChar c ++ rest) = some c :: utf8Decoder.run rest :=
  run_append [some c] (foldl_char c [])

theorem afterMark?_eq_some {bytes rest : List UInt8} {c : Charset}
    (found : afterMark? bytes = some (c, rest)) :
    bytes = String.utf8EncodeChar '\uFEFF' ++ rest ∨
      ∃ b, bytes = b :: (bytes.drop 1) ∧ utf8Step {} b = ({}, [none]) := by
  unfold afterMark? at found
  split at found
  · cases found
    exact .inl rfl
  · exact .inr ⟨0xFF, rfl, by decide⟩
  · exact .inr ⟨0xFE, rfl, by decide⟩
  · cases found

theorem afterMark?_toUTF8 {s : String} (unmarked : s.toList.head? ≠ some '\uFEFF') :
    afterMark? s.toUTF8.toList = none := by
  have decoded := run_toUTF8 s.toList
  rw [String.ofList_toList] at decoded
  cases found : afterMark? s.toUTF8.toList with
  | none => rfl
  | some mark =>
    -- The text is what its bytes decode to: they begin with the mark, or make up no character.
    exfalso
    rcases afterMark?_eq_some found with marked | ⟨b, first, bad⟩
    · rw [marked, run_char] at decoded
      cases text : s.toList with
      | nil => simp [text] at decoded
      | cons c r =>
        simp only [text, List.map_cons, List.cons.injEq, Option.some.injEq] at decoded
        exact unmarked (by rw [text, ← decoded.1]; rfl)
    · have here : utf8Decoder.run ([b] ++ s.toUTF8.toList.drop 1) = _ :=
        run_append [none] (foldl_of_step [] [] bad)
      rw [List.singleton_append, ← first, decoded] at here
      have mem : none ∈ s.toList.map some := here ▸ List.mem_cons_self
      simp at mem

theorem afterMark?_mark (bytes : List UInt8) :
    afterMark? (0xEF :: 0xBB :: 0xBF :: bytes) = some (utf8, bytes) := rfl

def namedBy (declared header : Option String) : Charset :=
  match header.bind ofLabel? with
  | some c => c
  | none => (declared.bind ofLabel?).getD utf8

def decodeIn (c : Charset) (page : List UInt8) : PageText :=
  let (charset, bytes) := (afterMark? page).getD (c, page)
  let out := charset.decoder.run bytes
  ⟨out.text, charset, out.hasErrors⟩

theorem decodePage_eq (page : List UInt8) (header : Option String) :
    decodePage page header = decodeIn (namedBy (declaredIn? page) header) page := rfl

theorem namedBy_of_label {label : String} {c : Charset} (known : ofLabel? label = some c)
    (declared : Option String) : namedBy declared (some label) = c := by
  simp only [namedBy, Option.bind_some, known]

theorem namedBy_eq_utf8 {declared header : Option String}
    (named : header.bind ofLabel? = some utf8 ∨
      header.bind ofLabel? = none ∧ ∀ c, declared.bind ofLabel? = some c → c = utf8) :
    namedBy declared header = utf8 := by
  unfold namedBy
  rcases named with known | ⟨unknown, declares⟩
  · rw [known]
  · rw [unknown]
    cases found : declared.bind ofLabel? with
    | none => rfl
    | some c => exact declares c found

theorem output_toUTF8 (s : String) :
    (utf8Decoder.run s.toUTF8.toList).text = s ∧
      (utf8Decoder.run s.toUTF8.toList).hasErrors = false := by
  have decoded := run_toUTF8 s.toList
  rw [String.ofList_toList] at decoded
  rw [decoded]
  constructor
  · simp [Output.text, Function.comp_def]
  · simp [Output.hasErrors]

theorem decodeIn_unmarked {s : String} (unmarked : s.toList.head? ≠ some '\uFEFF') :
    decodeIn utf8 s.toUTF8.toList = ⟨s, utf8, false⟩ := by
  obtain ⟨text, sound⟩ := output_toUTF8 s
  rw [decodeIn, afterMark?_toUTF8 unmarked]
  simp only [Option.getD_none, decoder, text, sound]

theorem decodeIn_marked (c : Charset) (s : String) :
    decodeIn c (0xEF :: 0xBB :: 0xBF :: s.toUTF8.toList) = ⟨s, utf8, false⟩ := by
  obtain ⟨text, sound⟩ := output_toUTF8 s
  rw [decodeIn, afterMark?_mark]
  simp only [Option.getD_some, decoder, text, sound]

/-- The page is read as a text, and nothing is logged about its bytes. -/
structure Shows (page : List UInt8) (header : Option String) (s : String) : Prop where
  decoded : decodePage page header = ⟨s, utf8, false⟩
  fetched : ∀ {m : Type → Type} [Monad m] [LawfulMonad m] (f : PageFetcher) (network : Network m)
    (log : LogEvent → m Unit) (url : String) (timeoutSecs : Nat) (reply : Reply) (served : m Unit),
    (network (f.request url timeoutSecs) = do
      served
      return .ok reply) →
    reply.isSuccess = true → reply.body = page → reply.charset? = header →
    f.fetch network log url timeoutSecs = do
      served
      return .ok s

theorem shows_of_decoded {page : List UInt8} {header : Option String} {s : String}
    (decoded : decodePage page header = ⟨s, utf8, false⟩) : Shows page header s := by
  refine ⟨decoded, ?_⟩
  rintro m _ _ f network log url timeoutSecs reply served answers success rfl rfl
  have replied : PageFetcher.ofReply url reply = .ok ⟨s, utf8, false⟩ := by
    rw [PageFetcher.ofReply, if_pos success, decoded]
  simp only [PageFetcher.fetch, answers, bind_assoc, pure_bind, replied]
  rfl

end Charset

open Charset in
/-- A page in UTF-8 that does not begin with a byte-order mark is read as it was written where the
reply names UTF-8, or names nothing that is known and the page declares nothing else that is known.
A page behind the mark of UTF-8 is so read whatever is named. And where the reply names a known
charset, what the page declares does not matter. -/
theorem utf8_page_survives :
    (∀ (s : String) (header : Option String), s.toList.head? ≠ some '\uFEFF' →
      (header.bind ofLabel? = some utf8 ∨ header.bind ofLabel? = none ∧
        ∀ c, (declaredIn? s.toUTF8.toList).bind ofLabel? = some c → c = utf8) →
      Shows s.toUTF8.toList header s) ∧
    (∀ (s : String) (header : Option String),
      Shows (0xEF :: 0xBB :: 0xBF :: s.toUTF8.toList) header s ∧
      ∀ declared, decodeIn (namedBy declared header) (0xEF :: 0xBB :: 0xBF :: s.toUTF8.toList) =
        ⟨s, utf8, false⟩) ∧
    ∀ (page : List UInt8) (label : String) (c : Charset), ofLabel? label = some c →
      decodePage page (some label) = decodeIn c page ∧
      ∀ declared, decodeIn (namedBy declared (some label)) page = decodePage page (some label) := by
  refine ⟨?_, ?_, ?_⟩
  · intro s header unmarked named
    apply shows_of_decoded
    rw [decodePage_eq, namedBy_eq_utf8 named]
    exact decodeIn_unmarked unmarked
  · intro s header
    refine ⟨shows_of_decoded ?_, fun declared => decodeIn_marked _ s⟩
    rw [decodePage_eq]
    exact decodeIn_marked _ s
  · intro page label c known
    rw [decodePage_eq, namedBy_of_label known]
    refine ⟨rfl, fun declared => ?_⟩
    rw [namedBy_of_label known]

open Charset in
theorem utf8_page_survives_unknown_label :
    "日本語".toList.head? ≠ some '\uFEFF' ∧ ofLabel? "no-such-charset" = none ∧
      (declaredIn? "日本語".toUTF8.toList).bind ofLabel? = none ∧
      Shows "日本語".toUTF8.toList (some "no-such-charset") "日本語" ∧
      ofLabel? "GBK" = some gbk ∧
      decodePage "日本語".toUTF8.toList (some "GBK") = decodeIn gbk "日本語".toUTF8.toList := by
  have unmarked : "日本語".toList.head? ≠ some '\uFEFF' := by decide +kernel
  have unknown : ofLabel? "no-such-charset" = none := by decide +kernel
  have undeclared : (declaredIn? "日本語".toUTF8.toList).bind ofLabel? = none := by decide +kernel
  have known : ofLabel? "GBK" = some gbk := by decide +kernel
  obtain ⟨named, -, overruled⟩ := utf8_page_survives
  refine ⟨unmarked, unknown, undeclared, ?_, known, (overruled _ "GBK" gbk known).1⟩
  exact named "日本語" (some "no-such-charset") unmarked
    (.inr ⟨unknown, fun c declared => by rw [undeclared] at declared; cases declared⟩)

end PageWatch
