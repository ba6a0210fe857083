import PageWatch.Proofs.Network.Rejections
import PageWatch.Proofs.Watch.Again

/-!
# Replies that are no objects

A service that takes a message may reply with anything. What is not the text of an object
is no rejection, unless it is a list that can be read in order as a code and a message.
Where it is none the message counts as sent, is recorded, and does not go out again; where
it is one nothing is recorded, and the message goes out again at every turn.
-/

set_option autoImplicit false

namespace PageWatch

namespace Json

variable {cs rest : List Char} {d : Datum}

theorem readNumber_ne_table {entries : List (String × Datum)} :
    readNumber cs ≠ some (.table entries, rest) := by
  intro read
  simp only [readNumber] at read
  split at read
  all_goals
    split at read
    · cases read
    · obtain ⟨fraction, -, read⟩ := Option.bind_eq_some_iff.mp read
      obtain ⟨exponent, -, read⟩ := Option.bind_eq_some_iff.mp read
      split_ifs at read <;> cases read

theorem eq_of_readWord {word : String} {d' : Datum} (read : readWord word d cs = some (d', rest)) :
    d' = d := by
  unfold readWord at read
  split_ifs at read
  cases read
  rfl

theorem readValue_table_iff {fuel : Nat} (read : readValue fuel cs = some (d, rest)) :
    (∃ entries, d = .table entries) ↔ ∃ r, skip cs = '\x7b' :: r := by
  cases fuel with
  | zero => cases read
  | succ fuel =>
    unfold readValue at read
    cases first : skip cs with
    | nil =>
      rw [first] at read
      cases read
    | cons c r =>
      rw [first] at read
      simp only at read
      by_cases brace : c = '\x7b'
      · subst brace
        rw [if_neg (by decide), if_neg (by decide), if_pos rfl] at read
        refine ⟨fun _ => ⟨r, rfl⟩, fun _ => ?_⟩
        split at read
        · cases read
          exact ⟨[], rfl⟩
        · obtain ⟨found, -, same⟩ := Option.map_eq_some_iff.mp read
          cases same
          exact ⟨found.1, rfl⟩
      · refine ⟨?_, by simp [brace]⟩
        rintro ⟨entries, rfl⟩
        exfalso
        rw [if_neg brace] at read
        split_ifs at read
        · obtain ⟨found, -, same⟩ := Option.map_eq_some_iff.mp read
          cases same
        · split at read
          · cases read
          · obtain ⟨found, -, same⟩ := Option.map_eq_some_iff.mp read
            cases same
        · cases eq_of_readWord read
        · cases eq_of_readWord read
        · cases eq_of_readWord read
        · exact readNumber_ne_table read

theorem read?_table_iff (read : read? cs = some d) :
    (∃ entries, d = .table entries) ↔ ∃ r, skip cs = '\x7b' :: r := by
  unfold read? at read
  split at read
  · split_ifs at read
    cases read
    apply readValue_table_iff
    assumption
  · cases read

theorem readOnly?_of_bare {names : List String} (bare : members? cs = none) :
    readOnly? names cs = some d ↔ read? cs = some d ∧ ∀ entries, d ≠ .table entries := by
  unfold readOnly?
  split
  · rename_i r brace
    refine ⟨?_, ?_⟩
    · rw [bare]
      rintro ⟨⟩
    · rintro ⟨read, other⟩
      obtain ⟨entries, same⟩ := (read?_table_iff read).mpr ⟨r, brace⟩
      exact absurd same (other entries)
  · rename_i unbraced
    refine ⟨fun read => ⟨read, ?_⟩, And.left⟩
    intro entries same
    obtain ⟨r, brace⟩ := (read?_table_iff read).mp ⟨entries, same⟩
    exact unbraced r brace

end Json

namespace Verdict

variable {v v' : Verdict} {d : Datum} {n : Int} {text : String} {body : String} {e : Failure}

theorem asCode_eq_ok : asCode d = .ok n ↔ Datum.isSigned n = true ∧ d = .integer n := by
  cases d with
  | integer m =>
    simp only [asCode]
    split_ifs with range
    · constructor
      · rintro ⟨⟩
        exact ⟨range, rfl⟩
      · rintro ⟨-, ⟨⟩⟩
        rfl
    · constructor
      · rintro ⟨⟩
      · rintro ⟨range', ⟨⟩⟩
        exact absurd range' range
  | _ => simp [asCode, Datum.wrongType]

theorem readCode_eq_ok (first : v.code = none) :
    readCode v d = .ok v' ↔
      ∃ n, Datum.isSigned n = true ∧ d = .integer n ∧ { v with code := some n } = v' := by
  simp only [readCode, first, bind_eq_ok, asCode_eq_ok, pure_eq_ok, and_assoc]

theorem readMessage_eq_ok (first : v.message = none) :
    readMessage v d = .ok v' ↔ ∃ text, d = .text text ∧ { v with message := some text } = v' := by
  have asText (text : String) : d.asText .json = .ok text ↔ d = .text text := by
    cases d <;> simp [Datum.asText, Datum.wrongType]
  simp only [readMessage, first, bind_eq_ok, asText, pure_eq_ok]

theorem ofDatum_list {items : List Datum} :
    ofDatum (.list items) = .ok v ↔
      items = [] ∧ {} = v ∨
        (∃ n, Datum.isSigned n = true ∧ items = [.integer n] ∧ { code := some n } = v) ∨
          ∃ n text, Datum.isSigned n = true ∧ items = [.integer n, .text text] ∧
            { code := some n, message := some text } = v := by
  match items with
  | [] => simp [ofDatum, Datum.asRecord, Datum.readInOrder, Datum.firstMissing]
  | [d] =>
    have read : ofDatum (.list [d]) = .ok v ↔ readCode {} d = .ok v := by
      simp [ofDatum, Datum.asRecord, Datum.readInOrder, Datum.firstMissing, placeFields, bind_eq_ok]
    simp [read, readCode_eq_ok]
  | [d, d'] =>
    have read : ofDatum (.list [d, d']) = .ok v ↔
        ∃ v', readCode {} d = .ok v' ∧ readMessage v' d' = .ok v := by
      simp [ofDatum, Datum.asRecord, Datum.readInOrder, Datum.firstMissing, placeFields, bind_eq_ok]
    rw [read]
    constructor
    · rintro ⟨v', code, message⟩
      obtain ⟨n, range, rfl, rfl⟩ := (readCode_eq_ok rfl).mp code
      obtain ⟨text, rfl, rfl⟩ := (readMessage_eq_ok rfl).mp message
      exact .inr (.inr ⟨n, text, range, rfl, rfl⟩)
    · rintro (⟨⟨⟩, -⟩ | ⟨n, -, ⟨⟩, -⟩ | ⟨n, text, range, ⟨⟩, rfl⟩)
      exact ⟨{ code := some n }, (readCode_eq_ok rfl).mpr ⟨n, range, rfl, rfl⟩,
        (readMessage_eq_ok rfl).mpr ⟨text, rfl, rfl⟩⟩
  | _ :: _ :: _ :: _ =>
    simp [ofDatum, Datum.asRecord, Datum.readInOrder, Datum.firstMissing, placeFields, bind_eq_ok]

/-- The body is a list of a code other than zero and perhaps of a message. -/
structure Listed (body : String) (n : Int) (text : String) : Prop where
  range : Datum.isSigned n = true
  nonzero : n ≠ 0
  items : Json.read? body.toList = some (.list [.integer n]) ∧ text = "" ∨
    Json.read? body.toList = some (.list [.integer n, .text text])

theorem ofText?_of_bare (bare : Json.members? body.toList = none) :
    ofText? body = some v ↔
      ∃ d, Json.read? body.toList = some d ∧ (∀ entries, d ≠ .table entries) ∧
        ofDatum d = .ok v := by
  have toOption (x : Decoded Verdict) : x.toOption = some v ↔ x = .ok v := by
    cases x <;> simp [Except.toOption]
  simp only [ofText?, Option.bind_eq_some_iff, Json.readOnly?_of_bare bare, toOption, and_assoc]

/-- What has a code other than zero and is no object is a list. -/
theorem rejects_iff_listed (bare : Json.members? body.toList = none) :
    (∃ v, ofText? body = some v ∧ v.code.getD 0 = n ∧ v.message.getD "" = text ∧ n ≠ 0) ↔
      Listed body n text := by
  constructor
  · rintro ⟨v, found, rfl, rfl, nonzero⟩
    obtain ⟨d, read, other, decoded⟩ := (ofText?_of_bare bare).mp found
    cases d with
    | list items =>
      rcases ofDatum_list.mp decoded with
        ⟨rfl, rfl⟩ | ⟨n, range, rfl, rfl⟩ | ⟨n, text, range, rfl, rfl⟩
      · exact absurd rfl nonzero
      · exact ⟨range, nonzero, .inl ⟨read, rfl⟩⟩
      · exact ⟨range, nonzero, .inr read⟩
    | table entries => exact absurd rfl (other entries)
    | moment =>
      cases decoded
      exact absurd rfl nonzero
    | _ => cases decoded
  · rintro ⟨range, nonzero, ⟨read, rfl⟩ | read⟩
    · exact ⟨{ code := some n }, (ofText?_of_bare bare).mpr ⟨_, read, nofun,
        ofDatum_list.mpr (.inr (.inl ⟨n, range, rfl, rfl⟩))⟩, rfl, rfl, nonzero⟩
    · exact ⟨{ code := some n, message := some text }, (ofText?_of_bare bare).mpr ⟨_, read, nofun,
        ofDatum_list.mpr (.inr (.inr ⟨n, text, range, rfl, rfl⟩))⟩, rfl, rfl, nonzero⟩

end Verdict

section Reply

variable {body : String} {e : Failure}

theorem checkReply_eq_error :
    checkReply body = .error e ↔ ∃ n text,
      (∃ v, Verdict.ofText? body = some v ∧ v.code.getD 0 = n ∧ v.message.getD "" = text ∧
        n ≠ 0) ∧ e = .notify (rejectionText n text) := by
  unfold checkReply
  cases found : Verdict.ofText? body with
  | none => simp
  | some v =>
    simp only
    split_ifs with zero
    · constructor
      · rintro ⟨⟩
      · rintro ⟨n, text, ⟨v, ⟨⟩, rfl, -, nonzero⟩, -⟩
        exact absurd zero nonzero
    · constructor
      · rintro ⟨⟩
        exact ⟨_, _, ⟨v, rfl, rfl, rfl, zero⟩, rfl⟩
      · rintro ⟨n, text, ⟨v, ⟨⟩, rfl, rfl, -⟩, rfl⟩
        rfl

theorem checkReply_of_bare (bare : Json.members? body.toList = none) :
    checkReply body = .error e ↔
      ∃ n text, Verdict.Listed body n text ∧ e = .notify (rejectionText n text) := by
  simp only [checkReply_eq_error, Verdict.rejects_iff_listed bare]

theorem checkReply_eq_ok_of_bare (bare : Json.members? body.toList = none)
    (unlisted : ∀ n text, ¬ Verdict.Listed body n text) : checkReply body = .ok () := by
  cases checked : checkReply body with
  | ok done => rfl
  | error e =>
    obtain ⟨n, text, listed, -⟩ := (checkReply_of_bare bare).mp checked
    exact absurd listed (unlisted n text)

end Reply

namespace Answers

variable (answers : Answers) (c : Config) (translates : Bool) (site : RuleSet) (i : Item)

/-- The message about the item goes out where it is news. It is recorded then, and while it is
recorded it does not go out again. -/
structure SendsOnce : Prop where
  first : ∀ world : World, world.store.get? site.name ≠ some i.endpoint →
    (Chain.ofSite c translates site).run answers.collaborators world =
      (.ok (.notified (answers.titled c translates i)),
        { store := world.store.put site.name i.endpoint
          accepted := world.accepted ++
            [(answers.titled c translates i).message c.notifier.template site.name] })
  again : ∀ world : World, world.store.get? site.name = some i.endpoint →
    (Chain.ofSite c translates site).run answers.collaborators world = (.ok .unchanged, world)

/-- The message about the item is refused where it is news. Nothing is recorded, and so it is news
at the next turn. -/
def SendsInVain (e : Failure) : Prop :=
  ∀ world : World, world.store.get? site.name ≠ some i.endpoint →
    (Chain.ofSite c translates site).run answers.collaborators world = (.error e, world)

variable {answers c translates site i}

theorem Serves.run_eq (serves : answers.Serves site) (world : World)
    {result : Except Failure Outcome}
    (verdict : answers.verdict c translates site (.ok (world.store.get? site.name)) = result) :
    (Chain.ofSite c translates site).run answers.collaborators world =
      (result,
        { store := world.store.putAll
            ((Outcome.notified? result).map fun i => (site.name, i.endpoint)).toList
          accepted := world.accepted ++ ((Outcome.notified? result).map
            fun i => i.message c.notifier.template site.name).toList }) := by
  rw [← serves.known_eq] at verdict
  rw [run_eq_of_verdict world verdict, leaves, recorded, serves.write]

theorem isNews_iff {endpoint : String} {held : Option String} :
    isNews endpoint (.ok held) = true ↔ held ≠ some endpoint := by
  cases held <;> simp [isNews]

theorem verdict_of_item (found : answers.examined c site = .ok (.item i)) (held : Option String) :
    answers.verdict c translates site (.ok held) =
      if held = some i.endpoint then .ok .unchanged
      else answers.announced c site (answers.titled c translates i) := by
  simp only [verdict, found, isNews_iff]
  split_ifs <;> simp_all

theorem sendsOnce (serves : answers.Serves site)
    (found : answers.examined c site = .ok (.item i))
    (accepts : ∀ message, answers.acceptance message = .ok ()) :
    answers.SendsOnce c translates site i where
  first world news := by
    have verdict : answers.verdict c translates site (.ok (world.store.get? site.name)) =
        .ok (.notified (answers.titled c translates i)) := by
      rw [verdict_of_item found, if_neg news, announced, accepts]
      rfl
    rw [serves.run_eq world verdict]
    simp [Outcome.notified?, Fingerprints.putAll]
  again world known := by
    have verdict : answers.verdict c translates site (.ok (world.store.get? site.name)) =
        .ok .unchanged := by
      rw [verdict_of_item found, if_pos known]
    rw [serves.run_eq world verdict]
    simp [Outcome.notified?, Fingerprints.putAll]

theorem sendsInVain {e : Failure} (serves : answers.Serves site)
    (found : answers.examined c site = .ok (.item i))
    (refuses : ∀ message, answers.acceptance message = .error e) :
    answers.SendsInVain c translates site i e := by
  intro world news
  have verdict : answers.verdict c translates site (.ok (world.store.get? site.name)) =
      .error e := by
    rw [verdict_of_item found, if_neg news, announced, refuses]
    rfl
  rw [serves.run_eq world verdict]
  simp [Outcome.notified?, Fingerprints.putAll]

end Answers

/-- A reply that is not the text of an object is a rejection exactly when it is a list of a code
other than zero and perhaps of a message. Where it is none the service has accepted the message,
which is recorded and not sent again; where it is one the message is sent again at every turn. -/
theorem bare_reply_rejects_iff_listed {body : String} (bare : Json.members? body.toList = none) :
    (∀ e, checkReply body = .error e ↔
      ∃ n text, Verdict.Listed body n text ∧ e = .notify (rejectionText n text)) ∧
    ∀ reply : Reply, reply.isSuccess = true → reply.text = body →
      (∀ {m : Type → Type} [Monad m] [LawfulMonad m] (webhook : Webhook) (network : Network m)
          (served : String → m Unit),
        (∀ message, network (webhook.request message) = do
          served message
          return .ok reply) →
        ∀ message, webhook.send network message = do
          served message
          return checkReply body) ∧
      ∀ (answers : Answers) (c : Config) (translates : Bool) (site : RuleSet) (i : Item),
        answers.Serves site → answers.examined c site = .ok (.item i) →
        (∀ message, answers.acceptance message = Webhook.ofReply reply) →
        ((∀ n text, ¬ Verdict.Listed body n text) → answers.SendsOnce c translates site i) ∧
          ∀ n text, Verdict.Listed body n text →
            answers.SendsInVain c translates site i (.notify (rejectionText n text)) := by
  refine ⟨fun e => checkReply_of_bare bare, ?_⟩
  rintro reply success rfl
  have heard : Webhook.ofReply reply = checkReply reply.text := if_pos success
  refine ⟨fun webhook network served answers => Webhook.send_of_reply success answers, ?_⟩
  intro answers c translates site i serves found replies
  refine ⟨fun unlisted => ?_, fun n text listed => ?_⟩
  · apply Answers.sendsOnce serves found
    intro message
    rw [replies, heard, checkReply_eq_ok_of_bare bare unlisted]
  · apply Answers.sendsInVain serves found
    intro message
    rw [replies, heard]
    exact (checkReply_of_bare bare).mpr ⟨n, text, listed, rfl⟩

section Sample

open Watching

def replyingAnswers (reply : Reply) : Answers :=
  { sampleAnswers with acceptance := fun _ => Webhook.ofReply reply }

theorem replyingAnswers_examined (reply : Reply) :
    (replyingAnswers reply).examined (sampleConfig 1 []) (sampleSite "A") =
      .ok (.item sampleItem) := by
  have cutoff : (sampleConfig 1 []).cutoffTime = .midnight firstCutoff := rfl
  simp only [Answers.examined, replyingAnswers, sampleAnswers, cutoff, sample_extract,
    Except.mapError]

theorem replyingAnswers_serves (reply : Reply) (site : RuleSet) :
    (replyingAnswers reply).Serves site := ⟨rfl, rfl⟩

theorem replyingAnswers_acceptance (reply : Reply) (message : String) :
    (replyingAnswers reply).acceptance message = Webhook.ofReply reply := rfl

def voidReply : Reply := { body := Url.bytes "[5,null]".toList }

theorem void_unlisted (n : Int) (text : String) : ¬ Verdict.Listed "[5,null]" n text := by
  have bare : Json.members? "[5,null]".toList = none := by decide +kernel
  have unread : Verdict.ofText? "[5,null]" = none := by decide +kernel
  intro listed
  obtain ⟨v, found, -⟩ := (Verdict.rejects_iff_listed bare).mpr listed
  rw [unread] at found
  cases found

theorem bare_reply_rejects_iff_listed_void :
    Json.members? "[5,null]".toList = none ∧ voidReply.isSuccess = true ∧
      voidReply.text = "[5,null]" ∧ checkReply "[5,null]" = .ok () ∧
      (replyingAnswers voidReply).Serves (sampleSite "A") ∧
      (replyingAnswers voidReply).examined (sampleConfig 1 []) (sampleSite "A") =
        .ok (.item sampleItem) ∧
      (replyingAnswers voidReply).SendsOnce (sampleConfig 1 []) false (sampleSite "A")
        sampleItem := by
  have bare : Json.members? "[5,null]".toList = none := by decide +kernel
  have success : voidReply.isSuccess = true := by decide
  have carries : voidReply.text = "[5,null]" := by decide +kernel
  have serves := replyingAnswers_serves voidReply (sampleSite "A")
  have found := replyingAnswers_examined voidReply
  obtain ⟨rejects, heard⟩ := bare_reply_rejects_iff_listed bare
  obtain ⟨-, turns⟩ := heard voidReply success carries
  obtain ⟨once, -⟩ := turns (replyingAnswers voidReply) (sampleConfig 1 []) false (sampleSite "A")
    sampleItem serves found (replyingAnswers_acceptance voidReply)
  refine ⟨bare, success, carries, ?_, serves, found, once void_unlisted⟩
  cases checked : checkReply "[5,null]" with
  | ok done => rfl
  | error e =>
    obtain ⟨n, text, listed, -⟩ := (rejects e).mp checked
    exact absurd listed (void_unlisted n text)

end Sample

/-- A list of a single number is taken for a rejection. -/
theorem list_taken_for_rejection :
    Json.members? "[5]".toList = none ∧ Verdict.Listed "[5]" 5 "" ∧
      checkReply "[5]" = .error (.notify (rejectionText 5 "")) := by
  have bare : Json.members? "[5]".toList = none := by decide +kernel
  have read : Verdict.ofText? "[5]" = some { code := some 5 } := by decide +kernel
  refine ⟨bare, (Verdict.rejects_iff_listed bare).mp ⟨_, read, rfl, rfl, by decide⟩, ?_⟩
  rw [checkReply, read]
  rfl

end PageWatch
