import PageWatch.Proofs.Data.Results
import PageWatch.Proofs.Watch.Unsent

/-!
# Rejected messages

A service says in its reply that it rejects a message, and the reply is taken for a
rejection when it can be read as one: when it has one code and at most one message,
which is a text. Then the message counts as not sent, and nothing is recorded.
-/

set_option autoImplicit false

namespace PageWatch

section Lists

variable {α β γ : Type}

theorem foldlM_filter_mapM (picked : β → Bool) (read : β → Option γ) (put : α → γ → Option α)
    (items : List β) (a : α) :
    ((items.filter picked).mapM read).bind (fun all => all.foldlM put a) =
      items.foldlM (fun a b => if picked b then (read b).bind (put a) else some a) a := by
  induction items generalizing a with
  | nil => rfl
  | cons b rest ih =>
    rw [List.foldlM_cons, List.filter_cons]
    split
    · rw [List.mapM_cons]
      cases read b with
      | none => rfl
      | some c =>
        rw [Option.bind_some]
        cases put' : put a c with
        | none => cases (rest.filter picked).mapM read <;> simp [put']
        | some a' =>
          refine Eq.trans ?_ (ih a')
          cases (rest.filter picked).mapM read <;> simp [put']
    · exact ih a

def once (known given : Option α) : Option (Option α) :=
  if known.isSome then none else given.map some

theorem foldlM_once {read : α → Option β} {items : List α} {b? : Option β} :
    items.foldlM (fun known a => once known (read a)) none = some b? ↔
      items = [] ∧ b? = none ∨ ∃ a b, items = [a] ∧ read a = some b ∧ b? = some b := by
  match items with
  | [] =>
    constructor
    · intro same
      exact .inl ⟨rfl, (Option.some.inj same).symm⟩
    · rintro (⟨-, rfl⟩ | ⟨a, b, none, -⟩)
      · rfl
      · cases none
  | [a] =>
    cases found : read a with
    | none => simp [once, found]
    | some b =>
      simp only [List.foldlM_cons, List.foldlM_nil, found, once]
      grind
  | a :: a' :: rest => cases found : read a <;> simp [once, found]

end Lists

theorem Json.readOnly?_of_members {names : List String} {cs : List Char}
    {members : List Json.Member} (object : Json.members? cs = some members) :
    Json.readOnly? names cs =
      ((members.filter (names.contains ·.1)).mapM Json.Member.read?).map .table := by
  unfold Json.readOnly?
  split
  · rw [object]
    exact (Option.map_eq_bind ..).symm
  · rename_i none
    unfold Json.members? at object
    split at object
    · exact absurd (by assumption) (none _)
    · cases object

namespace Verdict

def codeNames : List String := ["code", "StatusCode"]

def messageNames : List String := ["msg", "StatusMessage"]

variable (members : List Json.Member)

def codes : List Json.Member := members.filter (codeNames.contains ·.1)

def messages : List Json.Member := members.filter (messageNames.contains ·.1)

def codeIn? (m : Json.Member) : Option Int := (Json.read? m.2).bind fun d => (asCode d).toOption

def textIn? (m : Json.Member) : Option String :=
  (Json.read? m.2).bind fun d => (d.asText .json).toOption

def readMember (v : Verdict) (m : Json.Member) : Option Verdict :=
  if (entryFields.map (·.1)).contains m.1 then
    m.read?.bind fun entry => (Datum.readEntry entryFields v entry).toOption
  else some v

variable {members} {v v' : Verdict} {m : Json.Member}

theorem ofText?_eq_readMembers {body : String} (object : Json.members? body.toList = some members) :
    ofText? body = members.foldlM readMember {} := by
  have decode : ∀ entries : List (String × Datum), (ofDatum (.table entries)).toOption =
      entries.foldlM (fun v entry => (Datum.readEntry entryFields v entry).toOption) {} := by
    intro entries
    rw [← toOption_foldlM]
    simp [ofDatum, Datum.asRecord, Datum.firstMissing]
  rw [ofText?, Json.readOnly?_of_members object, Option.bind_map]
  simp only [Function.comp_def, decode]
  exact foldlM_filter_mapM ..

theorem readMember_of_find {field : Datum.Field Verdict}
    (found : entryFields.find? (·.1 == m.1) = some field) :
    readMember v m = (Json.read? m.2).bind fun d => (field.2 v d).toOption := by
  have picked : (entryFields.map (·.1)).contains m.1 := by
    have same : field.1 = m.1 := by simpa using List.find?_some found
    rw [List.contains_iff_mem, ← same]
    exact List.mem_map_of_mem (List.mem_of_find?_eq_some found)
  rw [readMember, if_pos picked, Json.Member.read?, Option.bind_map]
  simp only [Function.comp_def, Datum.readEntry, found]

theorem readMember_once {γ : Type} {read : Verdict → Datum → Decoded Verdict}
    {value : Datum → Decoded γ} {known : Option γ} {put : Option γ → Verdict}
    (found : entryFields.find? (·.1 == m.1) = some (m.1, read))
    (again : ∀ d b, known = some b → (read v d).toOption = none)
    (first : ∀ d, known = none → read v d = (fun b => put (some b)) <$> value d) :
    readMember v m = (once known ((Json.read? m.2).bind fun d => (value d).toOption)).map put := by
  rw [readMember_of_find found]
  cases known with
  | some b =>
    cases Json.read? m.2 with
    | none => rfl
    | some d => exact again d b rfl
  | none =>
    rw [once, if_neg nofun, Option.map_map, Option.map_bind]
    refine congrArg (Option.bind _) (funext fun d => ?_)
    simp only [first d rfl]
    exact toOption_map _ (value d)

theorem readMember_code (isCode : codeNames.contains m.1) :
    readMember v m = (once v.code (codeIn? m)).map fun code => { v with code } := by
  have known : m.1 = "code" ∨ m.1 = "StatusCode" := by simpa [codeNames] using isCode
  have found : entryFields.find? (·.1 == m.1) = some (m.1, readCode) := by
    rcases known with same | same <;> simp [same, entryFields]
  refine readMember_once found ?_ ?_
  · intro d n code
    simp [readCode, code, Except.toOption]
  · intro d code
    simp only [readCode, code]
    rfl

theorem readMember_message (isMessage : messageNames.contains m.1) :
    readMember v m = (once v.message (textIn? m)).map fun message => { v with message } := by
  have known : m.1 = "msg" ∨ m.1 = "StatusMessage" := by simpa [messageNames] using isMessage
  have found : entryFields.find? (·.1 == m.1) = some (m.1, readMessage) := by
    rcases known with same | same <;> simp [same, entryFields]
  refine readMember_once found ?_ ?_
  · intro d text message
    simp [readMessage, message, Except.toOption]
  · intro d message
    simp only [readMessage, message]
    rfl

theorem codes_cons (m : Json.Member) (rest : List Json.Member) :
    codes (m :: rest) = if codeNames.contains m.1 then m :: codes rest else codes rest :=
  List.filter_cons

theorem messages_cons (m : Json.Member) (rest : List Json.Member) :
    messages (m :: rest) =
      if messageNames.contains m.1 then m :: messages rest else messages rest :=
  List.filter_cons

theorem readMember_other (noCode : ¬ codeNames.contains m.1)
    (noMessage : ¬ messageNames.contains m.1) : readMember v m = some v := by
  rw [readMember, if_neg]
  simp [codeNames, messageNames, entryFields] at *
  grind

theorem readMembers_eq (members : List Json.Member) (v : Verdict) :
    members.foldlM readMember v =
      ((codes members).foldlM (fun code m => once code (codeIn? m)) v.code).bind fun code =>
        ((messages members).foldlM (fun message m => once message (textIn? m)) v.message).map
          fun message => { code, message } := by
  induction members generalizing v with
  | nil => rfl
  | cons m rest ih =>
    rw [List.foldlM_cons]
    by_cases isCode : codeNames.contains m.1
    · have noMessage : ¬ messageNames.contains m.1 := by
        simp [codeNames, messageNames] at *
        grind
      rw [readMember_code isCode, codes_cons, if_pos isCode, messages_cons, if_neg noMessage,
        List.foldlM_cons]
      cases once v.code (codeIn? m) with
      | none => rfl
      | some code => exact ih { v with code }
    by_cases isMessage : messageNames.contains m.1
    · rw [readMember_message isMessage, codes_cons, if_neg isCode, messages_cons,
        if_pos isMessage, List.foldlM_cons]
      cases once v.message (textIn? m) with
      | none => simp
      | some message => exact ih { v with message }
    · rw [readMember_other isCode isMessage, codes_cons, if_neg isCode, messages_cons,
        if_neg isMessage]
      exact ih v

/-- A reply that can be read as a rejection: it has one code, and no message or one that is a
text. -/
structure Legible (members : List Json.Member) : Prop where
  code : ∃ m, codes members = [m]
  message : messages members = [] ∨
    ∃ m text, messages members = [m] ∧ Json.read? m.2 = some (.text text)

theorem textIn?_eq_some {text : String} :
    textIn? m = some text ↔ Json.read? m.2 = some (.text text) := by
  rw [textIn?]
  cases Json.read? m.2 with
  | none => simp
  | some d => cases d <;> simp [Datum.asText, Datum.wrongType, Except.toOption]

variable {body : String} {n : Int}

/-- What is read of a reply with a code. -/
theorem ofText?_eq_some_iff (object : Json.members? body.toList = some members)
    (mem : m ∈ codes members) (code : codeIn? m = some n) :
    ofText? body = some v ↔ codes members = [m] ∧ v.code = some n ∧
      (messages members = [] ∧ v.message = none ∨
        ∃ m' text, messages members = [m'] ∧ textIn? m' = some text ∧ v.message = some text) := by
  rw [ofText?_eq_readMembers object, readMembers_eq, Option.bind_eq_some_iff]
  constructor
  · rintro ⟨code', codes', rest⟩
    obtain ⟨message, messages', rfl⟩ := Option.map_eq_some_iff.mp rest
    rcases foldlM_once.mp codes' with ⟨none, -⟩ | ⟨m', n', one, read, rfl⟩
    · rw [none] at mem
      cases mem
    · obtain rfl : m = m' := by simpa [one] using mem
      refine ⟨one, ?_, foldlM_once.mp messages'⟩
      rw [← read, code]
  · rintro ⟨one, code', message⟩
    refine ⟨v.code, foldlM_once.mpr (.inr ⟨m, n, one, code, code'⟩), ?_⟩
    exact Option.map_eq_some_iff.mpr ⟨v.message, foldlM_once.mpr message, rfl⟩

theorem legible_iff (object : Json.members? body.toList = some members)
    (mem : m ∈ codes members) (code : codeIn? m = some n) :
    Legible members ↔ ∃ message, ofText? body = some ⟨some n, message⟩ := by
  constructor
  · rintro ⟨⟨m', one⟩, message⟩
    obtain rfl : m = m' := by simpa [one] using mem
    rcases message with empty | ⟨m', text, single, read⟩
    · exact ⟨none, (ofText?_eq_some_iff object mem code).mpr ⟨one, rfl, .inl ⟨empty, rfl⟩⟩⟩
    · exact ⟨some text, (ofText?_eq_some_iff object mem code).mpr
        ⟨one, rfl, .inr ⟨m', text, single, textIn?_eq_some.mpr read, rfl⟩⟩⟩
  · rintro ⟨message, found⟩
    obtain ⟨one, -, message⟩ := (ofText?_eq_some_iff object mem code).mp found
    refine ⟨⟨m, one⟩, ?_⟩
    rcases message with ⟨empty, -⟩ | ⟨m', text, single, read, -⟩
    · exact .inl empty
    · exact .inr ⟨m', text, single, textIn?_eq_some.mp read⟩

theorem ofText?_of_not_legible (object : Json.members? body.toList = some members)
    (mem : m ∈ codes members) (code : codeIn? m = some n) (illegible : ¬ Legible members) :
    ofText? body = none := by
  rw [Option.eq_none_iff_forall_ne_some]
  intro v found
  obtain ⟨-, same, -⟩ := (ofText?_eq_some_iff object mem code).mp found
  refine illegible ((legible_iff object mem code).mpr ⟨v.message, ?_⟩)
  rw [found, ← same]

end Verdict

section Reply

variable {body : String} {members : List Json.Member} {m : Json.Member} {n : Int}

def rejectionText (n : Int) (text : String) : String :=
  "webhook rejected message (code " ++ toString n ++ "): " ++ text

theorem checkReply_of_legible (object : Json.members? body.toList = some members)
    (mem : m ∈ Verdict.codes members) (code : Verdict.codeIn? m = some n) (nonzero : n ≠ 0)
    (legible : Verdict.Legible members) :
    ∃ text, checkReply body = .error (.notify (rejectionText n text)) := by
  obtain ⟨message, found⟩ := (Verdict.legible_iff object mem code).mp legible
  refine ⟨message.getD "", ?_⟩
  simp only [checkReply, found, Option.getD_some, if_neg nonzero]
  rfl

theorem checkReply_of_not_legible (object : Json.members? body.toList = some members)
    (mem : m ∈ Verdict.codes members) (code : Verdict.codeIn? m = some n)
    (illegible : ¬ Verdict.Legible members) : checkReply body = .ok () := by
  rw [checkReply, Verdict.ofText?_of_not_legible object mem code illegible]

end Reply

section Heard

variable {m : Type → Type} [Monad m] [LawfulMonad m] {served : String → m Unit} {e : Failure}

theorem Webhook.send_of_reply {webhook : Webhook} {network : Network m} {reply : Reply}
    (success : reply.isSuccess = true)
    (answers : ∀ message, network (webhook.request message) = do
      served message
      return .ok reply) (message : String) :
    webhook.send network message = do
      served message
      return checkReply reply.text := by
  have heard : ofReply reply = checkReply reply.text := if_pos success
  simp only [send, answers, bind_assoc, pure_bind, heard]

theorem Webhook.send_of_rejected {webhook : Webhook} {network : Network m} {reply : Reply}
    (success : reply.isSuccess = true) (rejected : checkReply reply.text = .error e)
    (answers : ∀ message, network (webhook.request message) = do
      served message
      return .ok reply) (message : String) :
    webhook.send network message = do
      served message
      return .error e := by
  rw [send_of_reply success answers, rejected]

open CommandLine

theorem CommandLine.Watcher.refuses_of_sends {h : Host m} {log : Logger m} {w : Watcher}
    (sends : ∀ message, w.webhook.send h.network message = do
      served message
      return .error e) : (w.collaborators h log).Refuses := by
  intro message
  refine ⟨StateT.lift (do served message; return e), ?_⟩
  have lifted : (w.collaborators h log).send message =
    StateT.lift (w.webhook.send h.network message) := rfl
  refine StateT.ext fun store => ?_
  simp [lifted, sends]

end Heard

theorem Verdict.mem_codes_of_named {members : List Json.Member} {m : Json.Member}
    (mem : m ∈ members) (named : m.1 = "code" ∨ m.1 = "StatusCode") : m ∈ codes members := by
  refine List.mem_filter.mpr ⟨mem, ?_⟩
  simpa [codeNames] using named

theorem Verdict.codeIn?_of_reads {m : Json.Member} {n : Int}
    (reads : Json.read? m.2 = some (.integer n)) (range : Datum.isSigned n = true) :
    codeIn? m = some n := by
  simp [codeIn?, reads, asCode, range, Except.toOption]

open CommandLine

/-- A reply with a code other than zero is taken for a rejection exactly when it has no other code
and at most one message, which is a text. The message then counts as not sent and nothing is
recorded, and otherwise it counts as sent. -/
theorem rejected_iff_legible {body : String} {members : List Json.Member} {member : Json.Member}
    {n : Int} (object : Json.members? body.toList = some members) (mem : member ∈ members)
    (named : member.1 = "code" ∨ member.1 = "StatusCode")
    (reads : Json.read? member.2 = some (.integer n)) (range : Datum.isSigned n = true)
    (nonzero : n ≠ 0) :
    (checkReply body = .ok () ↔ ¬ Verdict.Legible members) ∧
      (Verdict.Legible members → ∃ text,
        checkReply body = .error (.notify (rejectionText n text)) ∧
        ∀ {m : Type → Type} [Monad m] [LawfulMonad m] (h : Host m) (log : Logger m) (w : Watcher)
          (reply : Reply) (served : String → m Unit), reply.isSuccess = true → reply.text = body →
          (∀ message, h.network (w.webhook.request message) = do
            served message
            return .ok reply) →
          (∀ message, w.webhook.send h.network message = do
            served message
            return .error (.notify (rejectionText n text))) ∧
          ∀ c translates site,
            (∀ record, (Chain.ofSite c translates site).run { w.collaborators h log with record } =
              (Chain.ofSite c translates site).run (w.collaborators h log)) ∧
            Keeps ((Chain.ofSite c translates site).run (w.collaborators h log))) := by
  have code := Verdict.codeIn?_of_reads reads range
  have isCode := Verdict.mem_codes_of_named mem named
  constructor
  · constructor
    · intro accepted legible
      obtain ⟨text, rejected⟩ := checkReply_of_legible object isCode code nonzero legible
      rw [rejected] at accepted
      cases accepted
    · exact checkReply_of_not_legible object isCode code
  · intro legible
    obtain ⟨text, rejected⟩ := checkReply_of_legible object isCode code nonzero legible
    refine ⟨text, rejected, ?_⟩
    intro m _ _ h log w reply served success carries answers
    have sends := Webhook.send_of_rejected success (carries ▸ rejected) answers
    have refuses : (w.collaborators h log).Refuses := Watcher.refuses_of_sends sends
    refine ⟨sends, fun c translates site => ⟨?_, ?_⟩⟩
    · intro record
      exact Chain.Unsent.run_eq (Chain.ofSite_isAt fun _ _ => nofun) refuses record
    · exact w.keeps_unsent h log c translates site refuses

def replying (reply : Reply) : Host Id where
  disk := { read := fun _ => .error .missing, perform := fun _ => .ok () }
  network _ := .ok reply
  variableOf _ := none
  print _ := ()
  display _ := ()
  pause _ := false

def frozen : String :=
  "\x7b\"data\":[null,\"\\ud800\"],\"StatusCode\":-7,\"StatusMessage\":\"frozen\"\x7d"

def frozenMembers : List Json.Member :=
  [("data", "[null,\"\\ud800\"]".toList), ("StatusCode", "-7".toList),
   ("StatusMessage", "\"frozen\"".toList)]

def frozenReply : Reply := { body := Url.bytes frozen.toList }

def frozenWatcher : Watcher where
  config := { sites := [] }
  pages := ⟨"reader"⟩
  webhook := ⟨"http://hooks.example/bot", 10⟩
  translator := none

theorem frozen_legible : Verdict.Legible frozenMembers where
  code := ⟨("StatusCode", "-7".toList), by decide +kernel⟩
  message := .inr ⟨("StatusMessage", "\"frozen\"".toList), "frozen", by decide +kernel, by rfl⟩

theorem rejected_iff_legible_frozen :
    Json.members? frozen.toList = some frozenMembers ∧
      ("StatusCode", "-7".toList) ∈ frozenMembers ∧
      Json.read? "-7".toList = some (.integer (-7)) ∧ Datum.isSigned (-7) = true ∧
      checkReply frozen ≠ .ok () ∧
      (∃ text, frozenWatcher.webhook.send (replying frozenReply).network "news" =
        .error (.notify (rejectionText (-7) text))) ∧
      ∀ site, Keeps ((Chain.ofSite frozenWatcher.config false site).run
        (frozenWatcher.collaborators (replying frozenReply) fun _ => ())) := by
  have object : Json.members? frozen.toList = some frozenMembers := by decide +kernel
  have mem : ("StatusCode", "-7".toList) ∈ frozenMembers := by decide +kernel
  have reads : Json.read? "-7".toList = some (.integer (-7)) := by rfl
  have range : Datum.isSigned (-7) = true := by decide
  have carries : frozenReply.text = frozen := by decide +kernel
  obtain ⟨accepted, rejected⟩ :=
    rejected_iff_legible object mem (.inr rfl) reads range (by decide)
  obtain ⟨text, -, heard⟩ := rejected frozen_legible
  obtain ⟨sends, keeps⟩ := heard (replying frozenReply) (fun _ => ()) frozenWatcher frozenReply
    (fun _ => ()) (by decide) carries fun _ => rfl
  refine ⟨object, mem, reads, range, fun sent => accepted.mp sent frozen_legible, ?_, ?_⟩
  · exact ⟨text, sends "news"⟩
  · intro site
    exact (keeps frozenWatcher.config false site).2

/-- A reply with a code other than zero that is not taken for a rejection, for its message is no
text. -/
theorem rejection_taken_for_sent :
    Json.members? "\x7b\"code\":1,\"msg\":5\x7d".toList = some [("code", ['1']), ("msg", ['5'])] ∧
      Json.read? ['1'] = some (.integer 1) ∧ Datum.isSigned 1 = true ∧
      checkReply "\x7b\"code\":1,\"msg\":5\x7d" = .ok () := by
  have unread : Verdict.ofText? "\x7b\"code\":1,\"msg\":5\x7d" = none := by decide +kernel
  refine ⟨by decide +kernel, by rfl, by decide, ?_⟩
  rw [checkReply, unread]

end PageWatch
