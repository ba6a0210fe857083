/-!
# Results that may be errors

A computation that succeeds has succeeded at each of its steps, and one that fails has
failed at one of them.
-/

set_option autoImplicit false

namespace PageWatch

variable {ε ε' α β : Type}

theorem bind_eq_ok {x : Except ε α} {f : α → Except ε β} {b : β} :
    (x >>= f) = .ok b ↔ ∃ a, x = .ok a ∧ f a = .ok b := by
  cases x <;> simp [bind, Except.bind]

theorem bind_check_eq_ok {x : Except ε Unit} {f : Unit → Except ε β} {b : β} :
    (x >>= f) = .ok b ↔ x = .ok () ∧ f () = .ok b := by
  rw [bind_eq_ok]
  exact ⟨fun ⟨_, done, h⟩ => ⟨done, h⟩, fun ⟨done, h⟩ => ⟨(), done, h⟩⟩

theorem bind_eq_error {x : Except ε α} {f : α → Except ε β} {e : ε} :
    (x >>= f) = .error e ↔ x = .error e ∨ ∃ a, x = .ok a ∧ f a = .error e := by
  cases x <;> simp [bind, Except.bind]

theorem map_eq_ok {x : Except ε α} {f : α → β} {b : β} :
    x.map f = .ok b ↔ ∃ a, x = .ok a ∧ f a = b := by
  cases x <;> simp [Except.map]

theorem map_eq_error {x : Except ε α} {f : α → β} {e : ε} : x.map f = .error e ↔ x = .error e := by
  cases x <;> simp [Except.map]

theorem mapError_eq_ok {x : Except ε α} {f : ε → ε'} {a : α} :
    x.mapError f = .ok a ↔ x = .ok a := by
  cases x with
  | error e => exact ⟨nofun, nofun⟩
  | ok b => exact ⟨fun h => congrArg Except.ok (Except.ok.inj h),
      fun h => congrArg Except.ok (Except.ok.inj h)⟩

theorem mapError_eq_error {x : Except ε α} {f : ε → ε'} {e' : ε'} :
    x.mapError f = .error e' ↔ ∃ e, x = .error e ∧ f e = e' := by
  cases x with
  | error e => exact ⟨fun h => ⟨e, rfl, Except.error.inj h⟩,
      fun ⟨_, same, h⟩ => congrArg Except.error (Except.error.inj same ▸ h)⟩
  | ok a => exact ⟨nofun, nofun⟩

@[simp] theorem throw_eq_ok (e : ε) (a : α) : (throw e : Except ε α) = .ok a ↔ False := by
  simp [throw, throwThe, MonadExceptOf.throw]

@[simp] theorem pure_eq_ok (a b : α) : (pure a : Except ε α) = .ok b ↔ a = b := by
  simp [pure, Except.pure]

theorem exists_of_mapM {f : α → Except ε β} {items : List α} {results : List β}
    (h : items.mapM f = .ok results) : ∀ b ∈ results, ∃ a ∈ items, f a = .ok b := by
  induction items generalizing results with
  | nil =>
    obtain rfl := Except.ok.inj h
    simp
  | cons a rest ih =>
    rw [List.mapM_cons] at h
    obtain ⟨b, first, h⟩ := bind_eq_ok.mp h
    obtain ⟨later, others, h⟩ := bind_eq_ok.mp h
    obtain rfl := Except.ok.inj h
    intro b' mem
    rcases List.mem_cons.mp mem with rfl | mem
    · exact ⟨a, List.mem_cons_self .., first⟩
    · obtain ⟨a', mem', found⟩ := ih others b' mem
      exact ⟨a', List.mem_cons_of_mem a mem', found⟩

theorem exists_of_mapM_eq_some {f : α → Option β} {items : List α} {results : List β}
    (h : items.mapM f = some results) : ∀ b ∈ results, ∃ a ∈ items, f a = some b := by
  induction items generalizing results with
  | nil =>
    obtain rfl := Option.some.inj h
    simp
  | cons a rest ih =>
    rw [List.mapM_cons] at h
    obtain ⟨b, first, h⟩ := Option.bind_eq_some_iff.mp h
    obtain ⟨later, others, h⟩ := Option.bind_eq_some_iff.mp h
    obtain rfl := Option.some.inj h
    intro b' mem
    rcases List.mem_cons.mp mem with rfl | mem
    · exact ⟨a, List.mem_cons_self .., first⟩
    · obtain ⟨a', mem', found⟩ := ih others b' mem
      exact ⟨a', List.mem_cons_of_mem a mem', found⟩

theorem foldlM_cons_ok {f : α → β → Except ε α} {b : β} {rest : List β} {a a' a'' : α}
    (first : f a b = .ok a') (later : rest.foldlM f a' = .ok a'') :
    (b :: rest).foldlM f a = .ok a'' := by
  rw [List.foldlM_cons]
  exact bind_eq_ok.mpr ⟨a', first, later⟩

theorem foldlM_append_ok {f : α → β → Except ε α} {front rest : List β} {a a' a'' : α}
    (first : front.foldlM f a = .ok a') (later : rest.foldlM f a' = .ok a'') :
    (front ++ rest).foldlM f a = .ok a'' := by
  rw [List.foldlM_append]
  exact bind_eq_ok.mpr ⟨a', first, later⟩

theorem toOption_map (f : α → β) (x : Except ε α) : (f <$> x).toOption = x.toOption.map f := by
  cases x <;> rfl

theorem toOption_foldlM (f : α → β → Except ε α) (items : List β) (a : α) :
    (items.foldlM f a).toOption = items.foldlM (fun a b => (f a b).toOption) a := by
  induction items generalizing a with
  | nil => rfl
  | cons b rest ih =>
    rw [List.foldlM_cons, List.foldlM_cons]
    cases f a b with
    | error e => rfl
    | ok a' => exact ih a'

end PageWatch
