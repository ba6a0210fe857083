import Mathlib.Data.List.Induction

/-!
# Paths

A path goes from state to state, and tells what happened on the way, the last event at
the end.
-/

set_option autoImplicit false

namespace PageWatch

variable {σ ε : Type} {Step : σ → ε → σ → Prop}

inductive Path (Step : σ → ε → σ → Prop) (s : σ) : List ε → σ → Prop where
  | start : Path Step s [] s
  | more {events : List ε} {s' s'' : σ} {e : ε} (path : Path Step s events s')
      (step : Step s' e s'') : Path Step s (events ++ [e]) s''

namespace Path

variable {s s' s'' : σ} {before after : List ε}

theorem append (first : Path Step s before s') (last : Path Step s' after s'') :
    Path Step s (before ++ after) s'' := by
  induction last with
  | start => simpa using first
  | more path step ih =>
    rw [← List.append_assoc]
    exact ih.more step

theorem single {e : ε} (step : Step s e s') : Path Step s [e] s' := Path.start.more step

theorem cons {e : ε} (step : Step s e s') (path : Path Step s' after s'') :
    Path Step s (e :: after) s'' :=
  (single step).append path

theorem last_step {events : List ε} {e : ε} (path : Path Step s (events ++ [e]) s') :
    ∃ middle, Path Step s events middle ∧ Step middle e s' := by
  generalize whole : events ++ [e] = all at path
  cases path with
  | start => simp at whole
  | more path step =>
    obtain ⟨rfl, same⟩ := List.append_inj' whole rfl
    obtain rfl : e = _ := by simpa using same
    exact ⟨_, path, step⟩

theorem split (path : Path Step s (before ++ after) s') :
    ∃ middle, Path Step s before middle ∧ Path Step middle after s' := by
  induction after using List.reverseRecOn generalizing s' with
  | nil => exact ⟨s', by simpa using path, .start⟩
  | append_singleton after e ih =>
    rw [← List.append_assoc] at path
    obtain ⟨last, path, step⟩ := path.last_step
    obtain ⟨middle, first, between⟩ := ih path
    exact ⟨middle, first, between.more step⟩

theorem split_cons {e : ε} (path : Path Step s (before ++ e :: after) s') :
    ∃ middle next, Path Step s before middle ∧ Step middle e next ∧ Path Step next after s' := by
  rw [List.append_cons] at path
  obtain ⟨next, first, last⟩ := path.split
  obtain ⟨middle, first, step⟩ := first.last_step
  exact ⟨middle, next, first, step, last⟩

end Path

end PageWatch
