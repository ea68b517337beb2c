import CaseResolution.System.Reachable

/-!
This module contains the fences of generation leases: each lease of an input fingerprint has a
greater fence than the ones before it, at most one worker completes it, and a worker whose lease is
stale changes nothing.
-/

namespace CaseResolution

open Guard Store

/--
The lease a command hands out.
-/
def Output.lease : Output → Option DecisionGenerationLease
  | .generation _ (.leased lease _) => some lease
  | .preparation (.plan plan) => some plan.lease
  | _ => none

/--
The case a command leases the generation of.
-/
def Command.leasedCase : Command → Option Nat
  | .acquireGeneration _ _ caseId .. => some caseId
  | .prepareGeneration _ _ _ _ caseId .. => some caseId
  | _ => none

namespace Store

/--
No worker can complete or release the generation under the lease.
-/
structure Stale [Digest] (s : Store) (caseId : Nat) (lease : DecisionGenerationLease) : Prop where
  persist : ∀ now actor plan analysis resolution t brief, plan.lease = lease
    → s.persistGeneration now actor caseId plan analysis resolution ≠ .ok (t, brief)
  release : ∀ now plan errorCode t released, plan.lease = lease
    → s.releaseGeneration now caseId plan errorCode = .ok (t, released) → t = s ∧ released = false

section

variable [Digest] {s : Store} {c : Command} {caseId : Nat} {inputFingerprint : String}
  {lease : DecisionGenerationLease}

/--
The command hands out a lease to generate the brief of the input fingerprint.
-/
def Leases (s : Store) (c : Command) (caseId : Nat) (lease : DecisionGenerationLease) : Prop :=
  c.leasedCase = some caseId
    ∧ ∃ t output, service.step s c = .ok (t, output) ∧ output.lease = some lease

/--
The command completes the generation of the input fingerprint.
-/
def Completes (s : Store) (c : Command) (caseId : Nat) (inputFingerprint : String) : Prop :=
  ∃ now actor plan analysis resolution t brief,
    c = .persistGeneration now actor caseId plan analysis resolution
      ∧ plan.inputFingerprint = inputFingerprint
      ∧ s.persistGeneration now actor caseId plan analysis resolution = .ok (t, brief)

/--
The row a lease was taken from.
-/
structure Grants (s t : Store) (caseId : Nat) (inputFingerprint : String)
    (lease : DecisionGenerationLease) (maxAttempts : Nat) (row : CaseAnalysisGeneration)
    : Prop where
  found : t.generations caseId inputFingerprint = some row
  taken : lease = row.lease inputFingerprint
  running : row.status = .running
  attempt : row.attemptCount ≤ maxAttempts
  fence : ∀ old, s.generations caseId inputFingerprint = some old → old.fenceToken < row.fenceToken

omit [Digest] in
theorem acquireGeneration_grants {t : Store} {now : Instant}
    {ownerToken leaseSeconds maxAttempts : Nat}
    {reservation : GenerationReservation inputFingerprint}
    (h : s.acquireGeneration now ownerToken caseId inputFingerprint leaseSeconds maxAttempts
      = .ok (t, reservation)) {hfingerprint : lease.inputFingerprint = inputFingerprint}
    (hleased : reservation = .leased lease hfingerprint)
    : ∃ row, s.Grants t caseId inputFingerprint lease maxAttempts row := by
  rcases acquireGeneration_eq_ok h with ⟨_, _, _, _, _, _, hcompleted⟩ | ⟨row, rfl, hlease, hrow⟩
  . rw [hleased] at hcompleted
    simp at hcompleted
  . rw [hleased] at hlease
    cases hlease
    refine ⟨row, ?_⟩
    rcases hrow with ⟨hnone, hlimit, rfl⟩ | ⟨existing, hexisting, _, hattempt, rfl⟩
    . exact {
        found := by simp [setGeneration]
        taken := rfl
        running := rfl
        attempt := hlimit
        fence := by simp [hnone]
      }
    . exact {
        found := by simp [setGeneration]
        taken := rfl
        running := rfl
        attempt := hattempt
        fence := by
          intro old hold
          obtain rfl := Option.some.inj (hexisting.symm.trans hold)
          exact Nat.lt_succ_self _
      }

/--
A lease names the running row it was taken from, with a fence beyond the row it replaced.
-/
theorem Leases.grants (h : s.Leases c caseId lease)
    : ∃ row, s.Grants (service.next s c) caseId lease.inputFingerprint lease c.maxAttempts row := by
  obtain ⟨hcase, t, output, hstep, hlease⟩ := h
  rw [Machine.next_of_ok hstep]
  cases c <;> simp only [Command.leasedCase, Option.some.injEq, reduceCtorEq] at hcase
  case acquireGeneration now ownerToken caseId inputFingerprint leaseSeconds maxAttempts =>
    subst hcase
    obtain ⟨reservation, hacquired, rfl⟩ := answer_eq_ok.mp hstep
    cases reservation with
    | completed => simp [Output.lease] at hlease
    | leased lease' hfingerprint =>
      obtain rfl : lease' = lease := by simpa [Output.lease] using hlease
      rw [hfingerprint]
      exact acquireGeneration_grants hacquired rfl
  case prepareGeneration =>
    subst hcase
    obtain ⟨preparation, hprepared, rfl⟩ := answer_eq_ok.mp hstep
    obtain ⟨_, _, _, _, _, _, _, _, _, _, _, _, hfound⟩ := prepareGeneration_eq_ok hprepared
    rcases hfound with ⟨_, _, rfl, _⟩ | ⟨_, _, hreserved⟩
    . simp [Output.lease] at hlease
    rcases reserveGeneration_eq_ok hreserved with ⟨_, _, rfl, _⟩ | ⟨plan, rfl, _, hacquired⟩
    . simp [Output.lease] at hlease
    . obtain rfl : plan.lease = lease := by simpa [Output.lease] using hlease
      rw [plan.lease_inputFingerprint]
      obtain ⟨row, hgrants⟩ := acquireGeneration_grants hacquired rfl
      exact ⟨row, { hgrants with }⟩

theorem createOrGetBrief_generations (hs : s.Sound) {t : Store}
    {command : DecisionBriefCreate} {brief : DecisionBrief}
    (h : s.createOrGetBrief caseId command = .ok (t, brief)) : t.generations = s.generations := by
  rcases createOrGetBrief_eq_ok hs.history h with ⟨rfl, _⟩ | ⟨_, _, _, hrec⟩
  . rfl
  . exact hrec.generations

/--
What completing a generation leaves behind.
-/
theorem Completes.completed (hs : s.Sound) (h : s.Completes c caseId inputFingerprint)
    : (∃ row, s.generations caseId inputFingerprint = some row ∧ row.status = .running)
        ∧ ∃ row, (service.next s c).generations caseId inputFingerprint = some row
          ∧ row.status = .completed := by
  obtain ⟨now, actor, plan, analysis, resolution, t, brief, rfl, rfl, hpersist⟩ := h
  rw [Machine.next_of_ok (answer_eq_ok.mpr ⟨brief, hpersist, rfl⟩)]
  obtain ⟨stored, hstored, hcompleted⟩ := persistGeneration_eq_ok hpersist
  obtain ⟨row, hheld, rfl⟩ := completeGeneration_eq_ok hcompleted
  obtain ⟨hrow, _, _, hrunning⟩ := heldGeneration_eq_some.mp hheld
  rw [plan.lease_inputFingerprint] at hrow
  refine ⟨⟨row, ?_, hrunning⟩, ?_⟩
  . rw [← createOrGetBrief_generations hs hstored, hrow]
  . simp [setGeneration, plan.lease_inputFingerprint]

/--
A lease whose row does not run under its fence is stale.
-/
theorem stale_of_not_held (hs : s.Sound)
    (h : ∀ row, s.generations caseId lease.inputFingerprint = some row → row.status = .running
      → row.fenceToken ≠ lease.fenceToken) : s.Stale caseId lease := by
  have hnone : s.heldGeneration caseId lease = none := by
    rw [Option.eq_none_iff_forall_ne_some]
    intro row hheld
    obtain ⟨hrow, _, hfence, hrunning⟩ := heldGeneration_eq_some.mp hheld
    exact h row hrow hrunning hfence
  constructor
  . rintro now actor plan analysis resolution t brief rfl hpersist
    obtain ⟨stored, hstored, hcompleted⟩ := persistGeneration_eq_ok hpersist
    obtain ⟨row, hheld, _⟩ := completeGeneration_eq_ok hcompleted
    unfold heldGeneration at hheld hnone
    rw [createOrGetBrief_generations hs hstored, hnone] at hheld
    simp at hheld
  . rintro now plan errorCode t released rfl hrelease
    rcases failGeneration_eq_ok hrelease with ⟨_, rfl, rfl⟩ | ⟨row, hheld, _⟩
    . exact ⟨rfl, rfl⟩
    . rw [hnone] at hheld
      simp at hheld

end

end Store

section

variable [Digest]

/--
Every command keeps what it has to of a generation.
-/
theorem Writes.generation_persists {c : Command} {s t : Store} (h : Writes c s t) {caseId : Nat}
    {inputFingerprint : String} {row : CaseAnalysisGeneration}
    (hrow : s.generations caseId inputFingerprint = some row)
    : ∃ row', t.generations caseId inputFingerprint = some row' ∧ row.Persists row' := by
  induction h with
  | refl => exact ⟨row, hrow, .refl row⟩
  | tail _ hwrite ih =>
    obtain ⟨row₁, hrow₁, hpersists⟩ := ih
    rcases hwrite.generation_origin caseId inputFingerprint with
      hsame | ⟨row₂, hrow₂, hstep⟩
    . exact ⟨row₁, hsame.trans hrow₁, hpersists⟩
    . rw [hrow₁] at hstep
      exact ⟨row₂, hrow₂, hpersists.trans hstep.persists⟩

/--
No command raises the attempts of a generation above its own bound.
-/
theorem Writes.generation_attempts {c : Command} {s t : Store} (h : Writes c s t) {caseId : Nat}
    {inputFingerprint : String} {m : Nat} (hc : c.maxAttempts ≤ m)
    (hs : ∀ row ∈ s.generations caseId inputFingerprint, row.attemptCount ≤ m)
    : ∀ row ∈ t.generations caseId inputFingerprint, row.attemptCount ≤ m := by
  induction h with
  | refl => exact hs
  | tail _ hwrite ih =>
    intro row hrow
    rcases hwrite.generation_origin caseId inputFingerprint with
      hsame | ⟨row', hrow', hstep⟩
    . exact ih row (by rwa [← hsame])
    . rw [hrow'] at hrow
      obtain rfl := Option.some.inj hrow
      exact hstep.attemptCount_le hc ih

namespace InitialStore

variable (init : InitialStore) (commands : List Command) {caseId : Nat} {inputFingerprint : String}

theorem generation_persists (more : List Command) {row : CaseAnalysisGeneration}
    (hrow : (init.after commands).generations caseId inputFingerprint = some row)
    : ∃ row', (init.after (commands ++ more)).generations caseId inputFingerprint = some row'
        ∧ row.Persists row' := by
  induction more using List.reverseRecOn with
  | nil => exact ⟨row, by simpa using hrow, .refl row⟩
  | append_singleton more c ih =>
    obtain ⟨row₁, hrow₁, hpersists⟩ := ih
    have hwrites := next_writes (init.after_sound (commands ++ more)) c
    obtain ⟨row₂, hrow₂, hpersists'⟩ := Writes.generation_persists hwrites hrow₁
    refine ⟨row₂, ?_, hpersists.trans hpersists'⟩
    rw [← List.append_assoc, after_concat]
    exact hrow₂

theorem generation_attempts {m : Nat} (hm : ∀ c ∈ commands, c.maxAttempts ≤ m)
    : ∀ row ∈ (init.after commands).generations caseId inputFingerprint, row.attemptCount ≤ m := by
  induction commands using List.reverseRecOn with
  | nil => simp [after, init.generations_empty]
  | append_singleton commands c ih =>
    rw [after_concat]
    refine Writes.generation_attempts (next_writes (init.after_sound commands) c) (hm c (by simp)) ?_
    exact ih fun d hd => hm d (List.mem_append_left _ hd)

end InitialStore

/--
The run is the only one stored for the case under the input fingerprint.
-/
def Store.OnlyRun (s : Store) (caseId : Nat) (inputFingerprint : String) (runId : Nat) : Prop :=
  ∀ (j : Nat), (∃ run, s.runs[j]? = some run ∧ run.caseId = caseId
    ∧ run.inputFingerprint = inputFingerprint) ↔ j = runId

omit [Digest] in
theorem Store.Sound.onlyRun {s : Store} (hs : s.Sound) {caseId runId : Nat} {inputFingerprint : String}
    (h : s.findRun caseId inputFingerprint = some runId) : s.OnlyRun caseId inputFingerprint runId := by
  obtain ⟨run, hrun, hcase, hfingerprint⟩ := findRun_eq_some h
  intro j
  constructor
  . rintro ⟨other, hother, hcase', hfingerprint'⟩
    exact hs.history.run_unique j runId other run hother hrun (hcase'.trans hcase.symm)
      (hfingerprint'.trans hfingerprint.symm)
  . rintro rfl
    exact ⟨run, hrun, hcase, hfingerprint⟩

/--
The attempts of a generation stay within the bound its workers give, a completed generation stays as
it is and names the only run of its input fingerprint, each lease has a greater fence than the ones
before it and is stale once its row has moved on, and one worker at most completes a generation.
-/
theorem generation_fenced (init : InitialStore) (commands : List Command) (caseId : Nat)
    (inputFingerprint : String)
    : (∀ row, (init.after commands).generations caseId inputFingerprint = some row
          → (∀ m, (∀ c ∈ commands, c.maxAttempts ≤ m) → row.attemptCount ≤ m)
            ∧ (row.status = .completed
              → (∀ more, (init.after (commands ++ more)).generations caseId inputFingerprint
                  = some row)
                ∧ ∃ runId, row.analysisRunId = some runId
                  ∧ (init.after commands).OnlyRun caseId inputFingerprint runId))
        ∧ (∀ pre c post lease, commands = pre ++ c :: post → (init.after pre).Leases c caseId lease
          → lease.inputFingerprint = inputFingerprint
          → lease.attempt ≤ c.maxAttempts
            ∧ ((init.after commands).generations caseId inputFingerprint
                ≠ (init.after (pre ++ [c])).generations caseId inputFingerprint
              → (init.after commands).Stale caseId lease)
            ∧ ∀ mid d tail later, post = mid ++ d :: tail
              → (init.after (pre ++ c :: mid)).Leases d caseId later
              → later.inputFingerprint = inputFingerprint → lease.fenceToken < later.fenceToken)
        ∧ ∀ pre c mid d tail, commands = pre ++ c :: (mid ++ d :: tail)
          → (init.after pre).Completes c caseId inputFingerprint
          → ¬ (init.after (pre ++ c :: mid)).Completes d caseId inputFingerprint := by
  refine ⟨?_, ?_, ?_⟩
  . intro row hrow
    refine ⟨fun m hm => init.generation_attempts commands hm row hrow, ?_⟩
    intro hcompleted
    refine ⟨?_, ?_⟩
    . intro more
      obtain ⟨row', hrow', hpersists⟩ := init.generation_persists commands more hrow
      rw [hrow', hpersists.completed hcompleted]
    . have hs := init.after_sound commands
      obtain ⟨hrun, hsome⟩ := hs.generations caseId inputFingerprint row hrow hcompleted
      obtain ⟨runId, hrunId⟩ := Option.isSome_iff_exists.mp hsome
      exact ⟨runId, hrunId, hs.onlyRun (hrun.symm.trans hrunId)⟩
  . rintro pre c post lease rfl hleases rfl
    obtain ⟨row, hgrants⟩ := hleases.grants
    have hfence : lease.fenceToken = row.fenceToken := by rw [hgrants.taken]; rfl
    have hattempt : lease.attempt = row.attemptCount := by rw [hgrants.taken]; rfl
    have hrow : (init.after (pre ++ [c])).generations caseId lease.inputFingerprint = some row := by
      rw [init.after_concat]
      exact hgrants.found
    -- the row of the lease persists from here on
    have hlater : ∀ more, ∃ row', (init.after (pre ++ c :: more)).generations caseId
        lease.inputFingerprint = some row' ∧ row.Persists row' := by
      intro more
      simpa using init.generation_persists (pre ++ [c]) more hrow
    refine ⟨by rw [hattempt]; exact hgrants.attempt, ?_, ?_⟩
    . intro hmoved
      refine stale_of_not_held (init.after_sound _) ?_
      intro row' hrow' hrunning hsame
      obtain ⟨row₁, hrow₁, hpersists⟩ := hlater post
      obtain rfl := Option.some.inj (hrow'.symm.trans hrow₁)
      have hkept := hpersists.same_fence (by rw [← hfence, hsame]) hrunning
      exact hmoved (by rw [hrow', hrow, hkept])
    . rintro mid d tail later rfl hleases' hfingerprint
      obtain ⟨row', hgrants'⟩ := hleases'.grants
      obtain ⟨row₁, hrow₁, hpersists⟩ := hlater mid
      have hfence' : later.fenceToken = row'.fenceToken := by rw [hgrants'.taken]; rfl
      have hlt := hgrants'.fence row₁ (by rw [hfingerprint, hrow₁])
      have hle := hpersists.fence
      omega
  . rintro pre c mid d tail rfl hcompletes hcompletes'
    obtain ⟨_, row, hrow, hcompleted⟩ := hcompletes.completed (init.after_sound pre)
    obtain ⟨⟨row', hrow', hrunning⟩, _⟩ := hcompletes'.completed (init.after_sound _)
    rw [← init.after_concat] at hrow
    obtain ⟨row₁, hrow₁, hpersists⟩ := init.generation_persists (pre ++ [c]) mid hrow
    rw [List.append_assoc, List.singleton_append, hrow'] at hrow₁
    obtain rfl := Option.some.inj hrow₁
    rw [hpersists.completed hcompleted, hcompleted] at hrunning
    simp at hrunning

end

namespace Sample

attribute [local instance] Digest.checksum

/--
One worker prepares the brief of the refund and does not come back in time, another takes over.
-/
def takeOver : List Command :=
  [.prepareGeneration 0 7 manager engine 0 1 (resolution "A"),
    .prepareGeneration (seconds 60) 8 manager engine 0 1 (resolution "A")]

theorem takeOver_leases : initial.store.Leases takeOver[0] 0 (plan "A" "EVD-0" 7).lease := by
  refine ⟨rfl, ?_⟩
  have hlease : ∃ answered ∈ (service.step initial.store takeOver[0]).toOption,
      answered.2.lease = some (plan "A" "EVD-0" 7).lease := by
    decide +kernel
  obtain ⟨⟨t, output⟩, hstep, hlease⟩ := hlease
  exact ⟨t, output, toOption_eq_some.mp hstep, hlease⟩

theorem takeOver_moved : (initial.after takeOver).generations 0 (inputFingerprint "A" "EVD-0")
    ≠ (initial.after (takeOver.take 1)).generations 0 (inputFingerprint "A" "EVD-0") := by
  decide +kernel

/--
The lease of the first worker is stale.
-/
theorem generation_fenced_takenOver
    : (initial.after takeOver).Stale 0 (plan "A" "EVD-0" 7).lease := by
  obtain ⟨_, hfenced, _⟩ := generation_fenced initial takeOver 0 (inputFingerprint "A" "EVD-0")
  obtain ⟨_, hstale, _⟩ := hfenced [] _ (takeOver.drop 1) _ rfl takeOver_leases rfl
  exact hstale takeOver_moved

end Sample

end CaseResolution
