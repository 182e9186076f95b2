import Airfi.Entries.FlowChanges
import Airfi.Entries.SetupFreshness
import Mathlib.Algebra.BigOperators.Group.Finset.Basic
import Mathlib.Algebra.Order.BigOperators.Group.Finset

/-!
# Every scheduled reload is carried out

What the setups, unloads and reloads of the entries still have to do.  A
failed unload is final; no other entry is ever stuck on the way.  Each
successful step leaves less to do, and when nothing is left every entry whose
unloads have succeeded is loaded with its current client.
-/

namespace Airfi

/-! ## One entry -/

/-- Setups, unloads and reloads go on, and what they await succeeds. -/
def RuntimeAction.Succeeds : RuntimeAction → Prop
  | .setup | .construct | .refreshed true | .platformsSetUp true
  | .platformsUnloaded true | .reload => True
  | .refreshed false | .platformsSetUp false | .platformsUnloaded false
  | .unload | .scheduleReload => False

/-- The steps from the stage to a loaded entry. -/
def SetupStage.remaining (reloading : Bool) : SetupStage → Nat
  | .loaded _ | .failedUnload => 0
  | .forwarding _ => 1
  | .refreshing _ => 2
  | .ensuring => 3
  | .notLoaded | .setupRetry | .setupError => 4
  | .unloading _ => if reloading then 4 else 5

namespace EntryRuntime

variable {entry : ConfigEntry} {runtime next : EntryRuntime}
  {action : RuntimeAction}

/-- The steps until the entry is loaded and no reload of it is pending. -/
def work (runtime : EntryRuntime) : Nat :=
  5 * runtime.pendingReloads + runtime.stage.remaining runtime.reloading

/-- No reload is pending, and the entry is loaded or will never be again. -/
def Settled (runtime : EntryRuntime) : Prop :=
  runtime.pendingReloads = 0 ∧
    (runtime.stage = .failedUnload ∨
      ∃ client, runtime.stage = .loaded client)

theorem remaining_of_idle (idle : runtime.Idle) (reloading : Bool) :
    runtime.stage.remaining reloading = 4 := by
  rcases idle with stage | stage | stage <;> rw [stage] <;> rfl

/-- Each successful step leaves less to do. -/
theorem work_of_step (constructible : entry.client ≠ none)
    (succeeds : action.Succeeds)
    (stepped : runtime.step entry action = some next) :
    next.work < runtime.work := by
  cases change_of_step stepped with
  | began idle =>
      simp only [work, remaining_of_idle idle]
      simp only [goTo, SetupStage.remaining]
      omega
  | constructed stage given =>
      simp only [work, goTo, stage, SetupStage.remaining]
      omega
  | unconstructed stage absent => exact absurd absent constructible
  | refreshed stage =>
      simp only [work, goTo, stage, SetupStage.remaining]
      omega
  | loaded stage =>
      simp only [work, finish, stage, SetupStage.remaining]
      omega
  | restarted stage reloading =>
      simp only [work, goTo, stage, reloading, SetupStage.remaining, if_true]
      omega
  | unloaded stage unloading =>
      simp only [work, finish, stage, unloading, SetupStage.remaining,
        Bool.false_eq_true, if_false]
      omega
  | reloads pending stage =>
      simp only [work, reload, pending, stage, SetupStage.remaining, if_true]
      omega
  | reloadsIdle pending idle =>
      simp only [work, pending, remaining_of_idle idle]
      simp only [reload, SetupStage.remaining]
      omega
  | refused pending stage =>
      simp only [work, pending]
      omega
  | unrefreshed stage => exact succeeds.elim
  | notSetUp stage => exact succeeds.elim
  | unloads stage => exact succeeds.elim
  | notUnloaded stage => exact succeeds.elim
  | scheduled => exact succeeds.elim

/-- A successful step neither enters nor leaves a failed unload. -/
theorem failedUnload_of_step (succeeds : action.Succeeds)
    (stepped : runtime.step entry action = some next) :
    next.stage = .failedUnload ↔ runtime.stage = .failedUnload := by
  cases change_of_step stepped with
  | began idle =>
      rcases idle with stage | stage | stage <;> simp [goTo, stage]
  | constructed stage given => simp [goTo, stage]
  | unconstructed stage absent => simp [finish, stage]
  | refreshed stage => simp [goTo, stage]
  | loaded stage => simp [finish, stage]
  | restarted stage reloading => simp [goTo, stage]
  | unloaded stage unloading => simp [finish, stage]
  | reloads pending stage => simp [reload, stage]
  | reloadsIdle pending idle =>
      rcases idle with stage | stage | stage <;> simp [reload, stage]
  | refused pending stage => exact Iff.rfl
  | unrefreshed stage => exact succeeds.elim
  | notSetUp stage => exact succeeds.elim
  | unloads stage => exact succeeds.elim
  | notUnloaded stage => exact succeeds.elim
  | scheduled => exact Iff.rfl

end EntryRuntime

/-! ## All entries -/

/-- An entry that the flows have made gives a client. -/
theorem EntriesCoherent.constructible {entries : List ConfigEntry}
    (coherent : EntriesCoherent entries) {entry : ConfigEntry}
    (member : entry ∈ entries) : entry.client ≠ none := by
  have hasPort : ∃ port, entry.data.port = some port := by
    rcases coherent.identity entry member with
      ⟨serial, -, -, atDefault⟩ | ⟨-, port, given, -⟩
    · exact ⟨defaultPort, atDefault⟩
    · exact ⟨port, given⟩
  obtain ⟨port, given⟩ := hasPort
  rw [ConfigEntry.client, ConfigEntry.clientWith, given]
  exact Option.some_ne_none _

def SetupAction.Succeeds : SetupAction → Prop
  | .entry _ action => action.Succeeds
  | .flow _ => False

namespace SetupState

variable {state next : SetupState} {action : SetupAction}

/-- The steps until every entry is settled. -/
def work (state : SetupState) : Nat :=
  ∑ id ∈ Finset.range state.flows.nextEntry, (state.runtimes id).work

/-- The same unloads have failed. -/
def SameFailures (first second : SetupState) : Prop :=
  ∀ id, (first.runtimes id).stage = .failedUnload ↔
    (second.runtimes id).stage = .failedUnload

/-- A successful step changes no entry, fails no unload and leaves less to
do. -/
theorem Current.work_of_step (current : state.Current)
    (succeeds : action.Succeeds)
    (stepped : state.step action = some next) :
    next.flows = state.flows ∧ next.SameFailures state ∧
      next.work < state.work := by
  cases action with
  | flow action => exact succeeds.elim
  | entry id action =>
      obtain ⟨entry, runtime, -, member, rfl, runtimeStepped, rfl⟩ :=
        of_step_entry stepped
      have less := EntryRuntime.work_of_step
        (current.coherent.entries.constructible member) succeeds
        runtimeStepped
      refine ⟨rfl, ?_, ?_⟩
      · intro other
        by_cases same : other = entry.entryId
        · simp only [setRuntime, same, Function.update_self]
          exact EntryRuntime.failedUnload_of_step succeeds runtimeStepped
        · simp only [setRuntime, Function.update_of_ne same]
      apply Finset.sum_lt_sum
      · intro other known
        by_cases same : other = entry.entryId
        · simp only [setRuntime, same, Function.update_self]
          exact Nat.le_of_lt less
        · simp only [setRuntime, Function.update_of_ne same]
          exact Nat.le_refl _
      · refine ⟨entry.entryId, Finset.mem_range.mpr
          (current.coherent.known entry member), ?_⟩
        simp only [setRuntime, Function.update_self]
        exact less

/-- So much is left to do from this state, whose entries and whose failed
unloads are those of the start. -/
structure Budget (start state : SetupState) (bound : Nat) : Prop where
  current : state.Current
  flows : state.flows = start.flows
  failures : state.SameFailures start
  work : state.work ≤ bound

theorem Budget.step {start : SetupState} {bound : Nat}
    (budget : Budget start state bound) (succeeds : action.Succeeds)
    (stepped : state.step action = some next) :
    Budget start next next.work ∧ next.work + 1 ≤ bound := by
  obtain ⟨same, failures, less⟩ := budget.current.work_of_step succeeds stepped
  refine ⟨⟨budget.current.step stepped, same.trans budget.flows, ?_,
    Nat.le_refl _⟩, Nat.le_trans less budget.work⟩
  intro id
  exact (failures id).trans (budget.failures id)

end SetupState

end Airfi
