import CaseResolution.System.Basic

/-!
This module contains the steps a generation can take, whichever command takes them, and what they
keep: its fence only grows and a completed generation never changes.
-/

namespace CaseResolution

open Guard

/--
The bound a command puts on the attempts of the generation it acquires.
-/
def Command.maxAttempts : Command → Nat
  | .acquireGeneration _ _ _ _ _ maxAttempts => maxAttempts
  | .prepareGeneration .. => maxDecisionGenerationAttempts
  | _ => 0

/--
The ways in which a command may write the generation of an input fingerprint, `run` being the run
that is stored under it.
-/
inductive GenerationStep (c : Command) (run : Option Nat) (old : Option CaseAnalysisGeneration)
    : CaseAnalysisGeneration → Prop where
  | first (ownerToken : Nat) (expiresAt : Instant) (unclaimed : old = none)
      (limit : 1 ≤ c.maxAttempts)
      : GenerationStep c run old (.first ownerToken expiresAt)
  | takenOver (row : CaseAnalysisGeneration) (ownerToken : Nat) (expiresAt : Instant)
      (found : old = some row) (open_ : row.status ≠ .completed)
      (limit : row.attemptCount < c.maxAttempts)
      : GenerationStep c run old (row.takeOver ownerToken expiresAt)
  | completed (row : CaseAnalysisGeneration) (runId : Nat) (now : Instant)
      (found : old = some row) (running : row.status = .running) (stored : run = some runId)
      : GenerationStep c run old { row with
          status := .completed
          analysisRunId := some runId
          completedAt := some now
          expiresAt := now
          lastErrorCode := none }
  | failed (row : CaseAnalysisGeneration) (now : Instant) (lastErrorCode : String)
      (found : old = some row) (running : row.status = .running)
      : GenerationStep c run old { row with
          status := .failed
          expiresAt := now
          lastErrorCode := some lastErrorCode }

namespace CaseAnalysisGeneration

/--
What no write takes back from a generation.
-/
structure Persists (row row' : CaseAnalysisGeneration) : Prop where
  fence : row.fenceToken ≤ row'.fenceToken
  same_fence : row.fenceToken = row'.fenceToken → row'.status = .running → row' = row
  completed : row.status = .completed → row' = row

theorem Persists.refl (row : CaseAnalysisGeneration) : row.Persists row where
  fence := le_refl _
  same_fence := by
    intro _ _
    rfl
  completed := fun _ => rfl

theorem Persists.trans {row₁ row₂ row₃ : CaseAnalysisGeneration} (h₁₂ : row₁.Persists row₂)
    (h₂₃ : row₂.Persists row₃) : row₁.Persists row₃ where
  fence := le_trans h₁₂.fence h₂₃.fence
  same_fence := by
    intro h hrunning
    have h₁ := h₁₂.fence
    have h₂ := h₂₃.fence
    have hsame := h₂₃.same_fence (by omega) hrunning
    rw [hsame] at hrunning h ⊢
    exact h₁₂.same_fence h hrunning
  completed := by
    intro h
    have h₂ := h₁₂.completed h
    rw [h₂₃.completed (by rwa [h₂]), h₂]

end CaseAnalysisGeneration

namespace GenerationStep

variable {c : Command} {run : Option Nat} {old : Option CaseAnalysisGeneration}
  {row row' : CaseAnalysisGeneration}

theorem persists (h : GenerationStep c run (some row) row') : row.Persists row' := by
  cases h with
  | first ownerToken expiresAt unclaimed => simp at unclaimed
  | takenOver row ownerToken expiresAt found open_ =>
    obtain rfl := Option.some.inj found
    exact {
      fence := Nat.le_succ _
      same_fence := by simp [CaseAnalysisGeneration.takeOver]
      completed := fun h => absurd h open_
    }
  | completed row runId now found running =>
    obtain rfl := Option.some.inj found
    exact {
      fence := le_refl _
      same_fence := by simp
      completed := by simp [running]
    }
  | failed row now lastErrorCode found running =>
    obtain rfl := Option.some.inj found
    exact {
      fence := le_refl _
      same_fence := by simp
      completed := by simp [running]
    }

/--
A generation is completed with the run that is stored under its input fingerprint.
-/
theorem completed_run (h : GenerationStep c run old row') (hcompleted : row'.status = .completed)
    : row'.analysisRunId = run ∧ run.isSome := by
  cases h with
  | first => simp [CaseAnalysisGeneration.first] at hcompleted
  | takenOver => simp [CaseAnalysisGeneration.takeOver] at hcompleted
  | completed row runId now found running stored => simp [stored]
  | failed => simp at hcompleted

/--
No step raises the attempts above the bound of its command.
-/
theorem attemptCount_le (h : GenerationStep c run old row') {m : Nat} (hc : c.maxAttempts ≤ m)
    (hold : ∀ row ∈ old, row.attemptCount ≤ m) : row'.attemptCount ≤ m := by
  cases h with
  | first ownerToken expiresAt unclaimed limit => exact le_trans limit hc
  | takenOver row ownerToken expiresAt found open_ limit =>
    exact le_trans (Nat.succ_le_of_lt limit) hc
  | completed row runId now found => exact hold row found
  | failed row now lastErrorCode found => exact hold row found

end GenerationStep

end CaseResolution
