import ChartCompiler.Log.Trace

/-!
# Outcomes of logged computations

What a computation returns or fails with, apart from the records it writes. `Run.Returns` and
`Run.Fails` of a composed computation are told by those of its steps.
-/

namespace ChartCompiler

theorem bind_eq_ok_iff (first : Except Failure α) (next : α → Except Failure β)
    (value : β) :
    (first >>= next) = .ok value ↔ ∃ middle, first = .ok middle ∧ next middle = .ok value := by
  cases first with
  | error failure => simp [bind, Except.bind]
  | ok middle => simp [bind, Except.bind]

theorem eq_ok_of_toOption {outcome : Except Failure α} {value : α}
    (found : outcome.toOption = some value) : outcome = .ok value := by
  cases outcome with
  | error failure => cases found
  | ok other => exact congrArg Except.ok (Option.some.inj found)

theorem ok_bind (value : α) (next : α → Except Failure β) : (.ok value >>= next) = next value := rfl

namespace Run

/-- Whether a computation ends with a result, whatever it writes to the log. -/
def Returns (run : Run α) (value : α) : Prop := run.outcome = .ok value

theorem Returns.unique {run : Run α} {left right : α} (first : run.Returns left)
    (second : run.Returns right) : left = right :=
  Except.ok.inj (first.symm.trans second)

/-- What is true of some result is true of the result. -/
theorem Returns.exists_iff {run : Run α} {value : α} (returned : run.Returns value)
    (holds : α → Prop) : (∃ result, run.Returns result ∧ holds result) ↔ holds value :=
  ⟨fun ⟨_, other, held⟩ => returned.unique other ▸ held, fun held => ⟨value, returned, held⟩⟩

/-- Whether there is a result with a property is found by running the computation. -/
instance (run : Run α) (holds : α → Prop) [DecidablePred holds] :
    Decidable (∃ value, run.Returns value ∧ holds value) :=
  match returned : run.outcome with
  | .ok value => decidable_of_iff (holds value) (Returns.exists_iff returned holds).symm
  | .error _ => isFalse fun ⟨_, other, _⟩ => nomatch returned.symm.trans other

@[simp] theorem returns_pure (value other : α) :
    (Pure.pure value : Run α).Returns other ↔ value = other :=
  ⟨fun equal => Except.ok.inj equal, fun equal => congrArg Except.ok equal⟩

@[simp] theorem returns_bind (first : Run α) (next : α → Run β) (value : β) :
    (first >>= next).Returns value ↔
      ∃ middle, first.Returns middle ∧ (next middle).Returns value := by
  change (Run.bind first next).outcome = .ok value ↔ _
  unfold Run.bind Returns
  cases first.outcome with
  | error failure => simp
  | ok middle => simp

@[simp] theorem returns_lift (outcome : Except Failure α) (value : α) :
    (liftM outcome : Run α).Returns value ↔ outcome = .ok value := Iff.rfl

@[simp] theorem returns_fail (failure : Failure) (value : α) :
    ¬ (Run.fail failure : Run α).Returns value := nofun

@[simp] theorem returns_warn (source : LogSource) (text : String) (value : Unit) :
    (Run.warn source text).Returns value := rfl

@[simp] theorem returns_info (source : LogSource) (text : String) (value : Unit) :
    (Run.info source text).Returns value := rfl

@[simp] theorem returns_debug (source : LogSource) (text : String) (value : Unit) :
    (Run.debug source text).Returns value := rfl

/-- A trace changes nothing but the log. -/
@[simp] theorem returns_traced (source : LogSource) (name arguments : String)
    (outline? : α → Option Outline) (step : Run α) (value : α) :
    (Run.traced source name arguments outline? step).Returns value ↔ step.Returns value := by
  unfold Run.traced Returns
  cases step.outcome <;> simp

theorem pure_bind (value : α) (next : α → Run β) : (Pure.pure value >>= next) = next value := rfl

theorem bind_assoc (run : Run α) (next : α → Run β) (last : β → Run γ) :
    run >>= next >>= last = run >>= fun value => next value >>= last := by
  change Run.bind (Run.bind run next) last = Run.bind run fun value => Run.bind (next value) last
  rcases run with ⟨records, outcome⟩
  cases outcome with
  | error failure => rfl
  | ok value =>
      unfold Run.bind
      dsimp only
      cases (next value).outcome with
      | error failure => rfl
      | ok middle => simp [List.append_assoc]

theorem lift_bind_of_eq {outcome : Except Failure α} {value : α} (returned : outcome = .ok value)
    (next : α → Run β) : (liftM outcome >>= next) = next value := by
  rw [returned]
  rfl

/-- What follows on a step matters for its result only. -/
theorem bind_congr {run : Run α} {next other : α → Run β}
    (same : ∀ value, run.Returns value → next value = other value) :
    run >>= next = run >>= other := by
  change Run.bind run next = Run.bind run other
  unfold Run.bind
  split
  · rfl
  · next value returned => rw [same value returned]

/-- Whether a computation ends with a failure. -/
def Fails (run : Run α) (failure : Failure) : Prop := run.outcome = .error failure

theorem Returns.not_fails {run : Run α} {value : α} (returned : run.Returns value)
    (failure : Failure) : ¬ run.Fails failure :=
  fun failed => nomatch returned.symm.trans failed

@[simp] theorem fails_pure (value : α) (failure : Failure) :
    ¬ (Pure.pure value : Run α).Fails failure := nofun

/-- A step fails, or what follows on its result. -/
@[simp] theorem fails_bind (first : Run α) (next : α → Run β) (failure : Failure) :
    (first >>= next).Fails failure ↔
      first.Fails failure ∨ ∃ middle, first.Returns middle ∧ (next middle).Fails failure := by
  change (Run.bind first next).outcome = .error failure ↔ _
  unfold Run.bind Fails Returns
  cases first.outcome with
  | error failure => simp
  | ok middle => simp

@[simp] theorem fails_lift (outcome : Except Failure α) (failure : Failure) :
    (liftM outcome : Run α).Fails failure ↔ outcome = .error failure := Iff.rfl

@[simp] theorem fails_warn (source : LogSource) (text : String) (failure : Failure) :
    ¬ (Run.warn source text).Fails failure := nofun

@[simp] theorem fails_info (source : LogSource) (text : String) (failure : Failure) :
    ¬ (Run.info source text).Fails failure := nofun

@[simp] theorem fails_debug (source : LogSource) (text : String) (failure : Failure) :
    ¬ (Run.debug source text).Fails failure := nofun

@[simp] theorem fails_traced (source : LogSource) (name arguments : String)
    (outline? : α → Option Outline) (step : Run α) (failure : Failure) :
    (Run.traced source name arguments outline? step).Fails failure ↔ step.Fails failure := by
  unfold Run.traced Fails
  cases step.outcome <;> simp

/-! ## Numbers that are too large -/

/-- Whether a computation fails because a number is too large if one is, and returns a result if none
is. -/
def Settles (run : Run α) (huge : Prop) (value : α) : Prop :=
  (huge ∧ run.Fails .numberTooLarge) ∨ (¬ huge ∧ run.Returns value)

namespace Settles

variable {run : Run α} {huge other later : Prop} {value : α} {next : α → Run β} {result : β}

theorem congr (settled : run.Settles huge value) (same : huge ↔ other) : run.Settles other value :=
  propext same ▸ settled

theorem of_returns (returned : run.Returns value) : run.Settles False value :=
  .inr ⟨id, returned⟩

theorem bind (first : run.Settles huge value) (following : (next value).Settles later result) :
    (run >>= next).Settles (huge ∨ later) result := by
  rcases first with ⟨large, failed⟩ | ⟨small, returned⟩
  · exact .inl ⟨.inl large, (fails_bind _ _ _).mpr (.inl failed)⟩
  · rcases following with ⟨large, failed⟩ | ⟨others, given⟩
    · exact .inl ⟨.inr large, (fails_bind _ _ _).mpr (.inr ⟨value, returned, failed⟩)⟩
    · exact .inr ⟨not_or.mpr ⟨small, others⟩, (returns_bind _ _ _).mpr ⟨value, returned, given⟩⟩

/-- A step that cannot fail. -/
theorem then_returns (first : run.Settles huge value) (following : (next value).Returns result) :
    (run >>= next).Settles huge result := by
  have settled := first.bind (of_returns following)
  rwa [or_false] at settled

/-- A first step that cannot fail. -/
theorem of_returns_bind (first : run.Returns value) (following : (next value).Settles huge result) :
    (run >>= next).Settles huge result := by
  have settled := (of_returns first).bind following
  rwa [false_or] at settled

theorem exists_then (settled : run.Settles huge value)
    (rest : ∃ result, (next value).Returns result) :
    ∃ result, (run >>= next).Settles huge result :=
  rest.imp fun _ returned => settled.then_returns returned

theorem eq_of_returns {other : α} (settled : run.Settles huge value)
    (returned : run.Returns other) : other = value := by
  rcases settled with ⟨_, failed⟩ | ⟨_, given⟩
  · exact absurd failed (returned.not_fails _)
  · exact returned.unique given

end Settles

/-- Whether a computation fails because a number is too large if one is, and ends with some result
if none is. -/
def CompletesUnless (run : Run α) (huge : Prop) : Prop :=
  (huge ∧ run.Fails .numberTooLarge) ∨ (¬ huge ∧ ∃ value, run.Returns value)

namespace CompletesUnless

variable {run : Run α} {huge other later : Prop} {value : α} {next : α → Run β}

theorem congr (completes : run.CompletesUnless huge) (same : huge ↔ other) :
    run.CompletesUnless other := propext same ▸ completes

theorem of_returns (returned : run.Returns value) : run.CompletesUnless False :=
  .inr ⟨id, value, returned⟩

theorem bind (first : run.CompletesUnless huge)
    (following : ∀ value, run.Returns value → (next value).CompletesUnless later) :
    (run >>= next).CompletesUnless (huge ∨ later) := by
  rcases first with ⟨large, failed⟩ | ⟨small, value, returned⟩
  · exact .inl ⟨.inl large, (fails_bind _ _ _).mpr (.inl failed)⟩
  · rcases following value returned with ⟨large, failed⟩ | ⟨others, result, given⟩
    · exact .inl ⟨.inr large, (fails_bind _ _ _).mpr (.inr ⟨value, returned, failed⟩)⟩
    · exact .inr ⟨not_or.mpr ⟨small, others⟩, result,
        (returns_bind _ _ _).mpr ⟨value, returned, given⟩⟩

/-- A first step that cannot fail. -/
theorem of_returns_bind (first : run.Returns value)
    (following : (next value).CompletesUnless huge) : (run >>= next).CompletesUnless huge := by
  refine ((of_returns first).bind fun again returned => ?_).congr (iff_of_eq (false_or huge))
  exact returned.unique first ▸ following

theorem lift_bind {outcome : Except Failure α} {next : α → Except Failure β}
    (first : (liftM outcome : Run α).CompletesUnless huge)
    (following : ∀ value, outcome = .ok value →
      (liftM (next value) : Run β).CompletesUnless later) :
    (liftM (outcome >>= next) : Run β).CompletesUnless (huge ∨ later) := by
  have steps : ((liftM outcome : Run α) >>= fun value => (liftM (next value) : Run β)).CompletesUnless
      (huge ∨ later) := first.bind following
  cases outcome with
  | error failure => exact steps
  | ok value => exact steps

/-- Items that are looked at one after the other. -/
theorem lift_mapM {step : α → Except Failure β} {large : α → Prop} {items : List α}
    (each : ∀ item ∈ items, (liftM (step item) : Run β).CompletesUnless (large item)) :
    (liftM (items.mapM step) : Run (List β)).CompletesUnless (∃ item ∈ items, large item) := by
  induction items with
  | nil =>
      have done : (liftM (List.mapM step []) : Run (List β)).Returns [] := rfl
      exact (of_returns done).congr (by simp)
  | cons item rest induction =>
      rw [List.mapM_cons]
      have others := induction fun other inside => each other (List.mem_cons_of_mem _ inside)
      have first := each item List.mem_cons_self
      refine (first.lift_bind fun result _ =>
        others.lift_bind fun results _ => of_returns rfl).congr ?_
      simp

end CompletesUnless

end Run

end ChartCompiler
