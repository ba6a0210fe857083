import PageWatch.CommandLine.Program
import PageWatch.Proofs.Watch.Acts

/-!
# Messages that are not sent

An endpoint is recorded after a message about it was accepted. So where no message is
accepted nothing is recorded, and the store stays as it is.
-/

set_option autoImplicit false

namespace PageWatch

section Refused

variable {c : Config} {translates : Bool} {site : RuleSet}

def Stage.Unsent (stage : Stage) : Prop := ∀ i title, stage ≠ .recording i title

theorem Stage.Goes.unsent {stage next : Stage} {a : Act}
    (goes : Goes c translates site stage a next)
    (unaccepted : ∀ message, a ≠ .send message (.ok ())) : next.Unsent := by
  intro i title same
  cases goes with
  | accepted => exact unaccepted _ rfl
  | news =>
    unfold withNews at same
    split at same <;> cases same
  | _ => cases same

abbrev Chain.Unsent (c : Config) (translates : Bool) (site : RuleSet) :
    Chain (Except Failure Outcome) → Prop :=
  Chain.IsAt c translates site Stage.Unsent

theorem Chain.Unsent.step {chain rest : Chain (Except Failure Outcome)} {a : Act}
    (unsent : chain.Unsent c translates site) (step : Chain.Step chain a rest)
    (unaccepted : ∀ message, a ≠ .send message (.ok ())) : rest.Unsent c translates site :=
  IsAt.step unsent step fun _ _ _ goes => goes.unsent unaccepted

theorem Chain.Unsent.not_record {name endpoint : String}
    {next : Except Failure Unit → Chain (Except Failure Outcome)} :
    ¬ (Chain.record name endpoint next).Unsent c translates site := by
  intro unsent
  refine IsAt.not_step unsent (.record name endpoint next (.ok ())) (fun _ => nofun) ?_
  intro stage later before goes
  cases goes
  exact before _ _ rfl

variable {m : Type → Type} [Monad m] [LawfulMonad m] {w : Collaborators m}

def Collaborators.Refuses (w : Collaborators m) : Prop :=
  ∀ message, ∃ refused : m Failure, w.send message = Except.error <$> refused

/-- Where no message is accepted, nothing is recorded: it does not matter what recording does. -/
theorem Chain.Unsent.run_eq {chain : Chain (Except Failure Outcome)}
    (unsent : chain.Unsent c translates site) (refuses : w.Refuses)
    (record : (site endpoint : String) → m (Except Failure Unit)) :
    chain.run { w with record } = chain.run w := by
  induction chain with
  | done result => rfl
  | fetch url timeoutSecs next ih =>
    exact bind_congr fun answer =>
      ih answer (unsent.step (.fetch url timeoutSecs next answer) fun _ => nofun)
  | lookup name next ih =>
    exact bind_congr fun answer => ih answer (unsent.step (.lookup name next answer) fun _ => nofun)
  | translate text language next ih =>
    exact bind_congr fun answer =>
      ih answer (unsent.step (.translate text language next answer) fun _ => nofun)
  | send message next ih =>
    obtain ⟨refused, sends⟩ := refuses message
    simp only [Chain.run, sends, bind_map_left]
    exact bind_congr fun e =>
      ih (.error e) (unsent.step (.send message next (.error e)) fun _ => nofun)
  | record name endpoint next ih => exact absurd unsent not_record
  | log event next ih => exact bind_congr fun _ => ih (unsent.step (.log event next) fun _ => nofun)

end Refused

section Keeping

variable {m : Type → Type} [Monad m] [LawfulMonad m] {α β : Type}

/-- A program that leaves the store as it is. -/
def Keeps (x : StateT Store m α) : Prop :=
  ∀ store, ∃ y : m α, x.run store = (fun a => (a, store)) <$> y

theorem Keeps.pure (a : α) : Keeps (pure a : StateT Store m α) := by
  intro store
  exact ⟨Pure.pure a, by simp⟩

theorem Keeps.lift (y : m α) : Keeps (StateT.lift y : StateT Store m α) := by
  intro store
  exact ⟨y, by simp⟩

theorem Keeps.bind {x : StateT Store m α} {f : α → StateT Store m β} (first : Keeps x)
    (next : ∀ a, Keeps (f a)) : Keeps (x >>= f) := by
  intro store
  obtain ⟨y, same⟩ := first store
  obtain ⟨z, later⟩ := Classical.axiomOfChoice fun a => next a store
  refine ⟨y >>= z, ?_⟩
  rw [StateT.run_bind, same, bind_map_left, map_bind]
  exact bind_congr fun a => later a

theorem Chain.run_keeps {w : Collaborators (StateT Store m)} (chain : Chain α)
    (fetch : ∀ url timeoutSecs, Keeps (w.fetch url timeoutSecs))
    (lookup : ∀ site, Keeps (w.lookup site))
    (translate : ∀ text language, Keeps (w.translate text language))
    (send : ∀ message, Keeps (w.send message))
    (record : ∀ site endpoint, Keeps (w.record site endpoint))
    (log : ∀ event, Keeps (w.log event)) : Keeps (chain.run w) := by
  induction chain with
  | done result => exact .pure result
  | fetch url timeoutSecs next ih => exact (fetch url timeoutSecs).bind ih
  | lookup site next ih => exact (lookup site).bind ih
  | translate text language next ih => exact (translate text language).bind ih
  | send message next ih => exact (send message).bind ih
  | record site endpoint next ih => exact (record site endpoint).bind ih
  | log event next ih => exact (log event).bind fun _ => ih

open CommandLine

theorem CommandLine.Watcher.keeps_unsent (h : Host m) (log : Logger m) (w : Watcher) (c : Config)
    (translates : Bool) (site : RuleSet) (refuses : (w.collaborators h log).Refuses) :
    Keeps ((Chain.ofSite c translates site).run (w.collaborators h log)) := by
  have unsent : (Chain.ofSite c translates site).Unsent c translates site :=
    Chain.ofSite_isAt fun _ _ => nofun
  rw [← unsent.run_eq refuses fun _ _ => return .ok ()]
  refine Chain.run_keeps _ (fun _ _ => .lift _) ?_ ?_ (fun _ => .lift _) (fun _ _ => .pure _)
    fun _ => .lift _
  · intro name store
    exact ⟨pure (.ok (store.get? name)), by simp [Watcher.collaborators]⟩
  · intro text language
    simp only [Watcher.collaborators]
    cases w.translator with
    | none => exact .pure _
    | some t => exact .lift _

end Keeping

end PageWatch
