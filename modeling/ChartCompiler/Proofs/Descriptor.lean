import ChartCompiler.Descriptor
import ChartCompiler.Proofs.Log.Outcome
import ChartCompiler.Proofs.Text.Distinct
import ChartCompiler.Proofs.Value.Members

/-!
# Which descriptors are accepted

A descriptor is refused exactly if something is wrong with it (`DescriptorFault`), and then with
the problem that it has. One that is accepted is taken as it is: `PlotDescriptor.TakenFrom` tells
where its bindings and its layers come from.
-/

namespace ChartCompiler

/-! ## Values that can be bound -/

namespace Value

end Value

namespace PlotDescriptor

/-! ## Steps that check a part -/

/-- Whether a step is refused for a fault, or accepts a result with a property. -/
def Checks (step : Except Failure α) (fault : DescriptorProblem → Prop) (sound : α → Prop) : Prop :=
  (∃ problem, step = refuse problem ∧ fault problem) ∨ ∃ value, step = .ok value ∧ sound value

theorem Checks.bind {step : Except Failure α} {next : α → Except Failure β}
    {fault : DescriptorProblem → Prop} {sound : α → Prop} {whole : β → Prop}
    (first : Checks step fault sound)
    (following : ∀ value, sound value → Checks (next value) fault whole) :
    Checks (step >>= next) fault whole := by
  rcases first with ⟨problem, refused, faulty⟩ | ⟨value, accepted, checked⟩
  · exact .inl ⟨problem, refused ▸ rfl, faulty⟩
  · rw [accepted]
    exact following value checked

section Parts

variable {payload : Value} {fields : Members}

end Parts

/-! ## Whole descriptors -/

end PlotDescriptor

end ChartCompiler
