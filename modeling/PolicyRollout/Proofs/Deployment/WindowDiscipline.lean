import Mathlib.Data.List.Perm.Subperm
import PolicyRollout.Proofs.Deployment.Progress
/-!
The discipline of the window.  Whatever the platform answers and in whatever
order, entities enter the window in their order, each only after the one a
whole window ahead of it has been reported; and a failed call stops the tier
within one window of the first entity that failed.
-/
namespace PolicyRollout

/-- How entities have passed through the window of a run: `closed` are those
whose result has been taken. -/
structure TierRun.Passing (window : Nat) (tier : Tier) (closed : List Slot) (log : History)
    (r : TierRun) : Prop where
  order : (closed ++ r.window).map Slot.seat ++ r.waiting = tier.seats
  taken : r.outcomes = closed.filterMap Slot.outcome? ∧ r.failure = closed.findSome? Slot.failure?
  /-- An admitted entity is less than a window behind those whose result has been taken. -/
  near : ∀ slot ∈ r.window, slot.index < closed.length + window
  /-- Nothing happens for an entity a whole window behind another before all of that one. -/
  spaced : log.Pairwise fun later earlier => ∀ i j, later.entity? = some i →
    earlier.entity? = some j → j < i + window
  outstanding : ∀ indexes : List Nat, indexes.Nodup →
    (∀ index ∈ indexes, History.Awaits index log) → indexes.length ≤ window

/-- The entities of a tier of some size for which calls were made: the first `count`. -/
structure History.Attempted (window size count : Nat) (log : History) : Prop where
  calls_iff : ∀ index, History.Calls index log ↔ index < count
  le_size : count ≤ size
  /-- The first entity that failed was attempted, and at most a window from it on. -/
  failing : ∀ index, History.Fails index log → (∀ earlier < index, ¬ History.Fails earlier log) →
    index < count ∧ count ≤ index + window
  complete : (∀ index, ¬ History.Fails index log) → count = size

namespace TierRun

variable {platform : Platform} {options : DeploymentOptions} {tier : Tier} {before : History}
  {closed attempted passed : List Slot} {log : History} {r : TierRun}

theorem Sound.passing (hsound : Sound platform options tier before closed log r) :
    r.Passing options.window tier closed log where
  order := hsound.enrolled
  taken := ⟨hsound.outcomes, hsound.failure⟩
  near := by
    intro slot hslot
    have hlt := hsound.enrolled.index_lt (List.mem_append_right closed hslot)
    have hwidth := hsound.width
    rw [List.length_append] at hlt
    omega
  spaced := hsound.recorded.spaced
  outstanding := by
    intro indexes hnodup hawaits
    have hsub : indexes ⊆ r.window.map Slot.index := fun index hindex =>
      hsound.mem_window_of_awaits (hawaits index hindex)
    have hle := (hnodup.subperm hsub).length_le
    rw [List.length_map] at hle
    exact Nat.le_trans hle hsound.width

namespace Concluded

theorem seats_getElem?
    (hconcluded : Concluded platform options tier before attempted passed log r) {k : Nat}
    {slot : Slot} (hslot : attempted[k]? = some slot) :
    slot.index = k ∧ tier.entities.toList[k]? = some slot.entity := by
  have hlt : k < attempted.length := (List.getElem?_eq_some_iff.mp hslot).1
  apply hconcluded.all.seats_getElem?
  rw [List.getElem?_append_left hlt, hslot]

theorem index_lt (hconcluded : Concluded platform options tier before attempted passed log r)
    {slot : Slot} (hslot : slot ∈ attempted) : slot.index < attempted.length := by
  obtain ⟨k, hk⟩ := List.mem_iff_getElem?.mp hslot
  rw [(hconcluded.seats_getElem? hk).1]
  exact (List.getElem?_eq_some_iff.mp hk).1

theorem mem_slots (hconcluded : Concluded platform options tier before attempted passed log r)
    {slot : Slot} : slot ∈ (attempted ++ passed) ++ r.window ↔ slot ∈ attempted ++ passed := by
  rw [hconcluded.empty, List.append_nil]

theorem recorded (hconcluded : Concluded platform options tier before attempted passed log r) :
    Recorded platform (.ofTier tier) options r.calls (attempted ++ passed) log := by
  have hrecorded := hconcluded.sound.recorded
  rw [hconcluded.empty, List.append_nil] at hrecorded
  exact hrecorded

/-- An attempted entity has an outcome or a failed call. -/
theorem phase_of_mem (hconcluded : Concluded platform options tier before attempted passed log r)
    {slot : Slot} (hslot : slot ∈ attempted) :
    (∃ outcome, slot.phase = .done outcome) ∨ ∃ source, slot.phase = .failed source := by
  have hmem := List.mem_append_left passed hslot
  have hfinal := hconcluded.sound.final slot hmem
  have hskipped := hconcluded.sound.flagged.active slot (hconcluded.mem_slots.mpr hmem)
    (hconcluded.active slot hslot)
  cases hphase : slot.phase with
  | done outcome => exact Or.inl ⟨outcome, rfl⟩
  | failed source => exact Or.inr ⟨source, rfl⟩
  | skipped => contradiction
  | _ => simp [hphase, Phase.isFinal] at hfinal

theorem isIdle_of_mem (hconcluded : Concluded platform options tier before attempted passed log r)
    {slot : Slot} (hslot : slot ∈ attempted) : slot.phase.isIdle = false := by
  rcases hconcluded.phase_of_mem hslot with ⟨outcome, hphase⟩ | ⟨source, hphase⟩
  · rw [hphase]; rfl
  · rw [hphase]; rfl

theorem calls_iff (hconcluded : Concluded platform options tier before attempted passed log r)
    (index : Nat) : History.Calls index log ↔ index < attempted.length := by
  have hsound := hconcluded.sound
  constructor
  · intro hcalls
    obtain ⟨serial, call, hcall⟩ := hcalls
    obtain ⟨slot, hslot, rfl⟩ := hsound.exists_slot hcall rfl
    rcases List.mem_append.mp (hconcluded.mem_slots.mp hslot) with hattempted | hpassed
    · exact hconcluded.index_lt hattempted
    · exact absurd ⟨serial, call, hcall⟩
        (hsound.not_calls_of_skip hslot (hconcluded.idle slot hpassed))
  · intro hlt
    have hmem := List.getElem_mem hlt
    have hindex := (hconcluded.seats_getElem? (List.getElem?_eq_getElem hlt)).1
    have htrail := hsound.recorded.trail attempted[index]
      (hconcluded.mem_slots.mpr (List.mem_append_left _ hmem))
    rw [hindex] at htrail
    obtain ⟨serial, hcall⟩ := htrail.validated (hconcluded.isIdle_of_mem hmem)
    exact History.calls_iff_about.mpr ⟨serial, _, hcall⟩

/-- Without a failed call no entity is passed over. -/
theorem passed_eq_nil (hconcluded : Concluded platform options tier before attempted passed log r)
    (hfails : ∀ index, ¬ History.Fails index log) : passed = [] := by
  apply List.eq_nil_iff_forall_not_mem.mpr
  intro slot hslot
  have hsound := hconcluded.sound
  have hfailed := hsound.flagged.cause slot
    (hconcluded.mem_slots.mpr (List.mem_append_right _ hslot)) (hconcluded.idle slot hslot)
  obtain ⟨index, hindex⟩ := hsound.failed_iff_fails.mp hfailed
  exact hfails index hindex

theorem size_eq (hconcluded : Concluded platform options tier before attempted passed log r) :
    attempted.length + passed.length = tier.entities.size := by
  have hlength := hconcluded.all.length_add
  simpa using hlength

/-- A tier stops within one window of each entity that failed. -/
theorem lt_and_le_of_fails
    (hconcluded : Concluded platform options tier before attempted passed log r) {index : Nat}
    (hfails : History.Fails index log) :
    index < attempted.length ∧ attempted.length ≤ index + options.window := by
  have hsound := hconcluded.sound
  obtain ⟨slot, hslot, rfl, hfailed⟩ := (hsound.fails_iff index).mp hfails
  have hcalls : History.Calls slot.index log := by
    have htrail := hsound.recorded.trail slot hslot
    obtain ⟨serial, hcall⟩ := htrail.validated (Phase.isIdle_of_isFailed hfailed)
    exact History.calls_iff_about.mpr ⟨serial, _, hcall⟩
  have hlt := (hconcluded.calls_iff slot.index).mp hcalls
  refine ⟨hlt, ?_⟩
  -- The last attempted entity is less than a window behind the failed one.
  have hlast : attempted.length - 1 < attempted.length := by omega
  have hmem := List.getElem_mem hlast
  have hindex := (hconcluded.seats_getElem? (List.getElem?_eq_getElem hlast)).1
  have hnear := hsound.flagged.near _
    (hconcluded.mem_slots.mpr (List.mem_append_left _ hmem)) (hconcluded.active _ hmem)
    slot hslot hfailed
  rw [hindex] at hnear
  omega

theorem attempted_of (hconcluded : Concluded platform options tier before attempted passed log r) :
    History.Attempted options.window tier.entities.size attempted.length log where
  calls_iff := hconcluded.calls_iff
  le_size := by
    have hsize := hconcluded.size_eq
    omega
  failing := fun index hfails _ => hconcluded.lt_and_le_of_fails hfails
  complete := by
    intro hfails
    have hsize := hconcluded.size_eq
    rw [hconcluded.passed_eq_nil hfails] at hsize
    simpa using hsize

end Concluded

/-- Entities from a position on are to be skipped, since a call has failed. -/
def Barred (bound : Nat) (closed : List Slot) (_log : History) (r : TierRun) : Prop :=
  r.failed = true ∧ ∀ slot ∈ closed ++ r.window, bound ≤ slot.index → slot.skip = true

theorem barred_kept (platform : Platform) (bound : Nat) : Kept platform (Barred bound) where
  moved := by
    intro closed log r moving dest calls added hbarred _ _ _
    refine ⟨by simp [brought, setPhase, hbarred.1], ?_⟩
    intro slot hslot hbound
    rcases List.mem_append.mp hslot with hclosed | hwindow
    · exact hbarred.2 slot (List.mem_append_left _ hclosed) hbound
    · obtain ⟨old, hold, rfl⟩ := List.mem_map.mp
        (show slot ∈ r.window.map (Slot.set moving.index dest) from hwindow)
      rw [Slot.set_skip]
      exact hbarred.2 old (List.mem_append_right _ hold) (by simpa using hbound)
  drained := by
    intro closed log r hbarred
    rw [drain_eq]
    refine ⟨hbarred.1, ?_⟩
    change ∀ slot ∈ (closed ++ r.finished) ++ r.unfinished, _
    rw [List.append_assoc, finished_append_unfinished]
    exact hbarred.2
  refilled := by
    intro closed log r hbarred
    refine ⟨hbarred.1, ?_⟩
    intro slot hslot hbound
    rw [refill_eq, ← List.append_assoc] at hslot
    rcases List.mem_append.mp hslot with hold | hnew
    · exact hbarred.2 slot hold hbound
    · rw [(mem_admitted hnew).1, hbarred.1]

/-- An entity that is still waiting when a call has failed never makes a call. -/
theorem Sound.not_calls_of_waiting
    (hsound : Sound platform options tier before closed log r)
    (hfails : ∃ index, History.Fails index log) (later : List Nat) {log' : History}
    (hlog : (r.run platform later).history = log' ++ before) {seat : Nat × Entity}
    (hseat : seat ∈ r.waiting) : ¬ History.Calls seat.1 log' := by
  have hbarred : Barred (closed ++ r.window).length closed log r := by
    refine ⟨hsound.failed_iff_fails.mpr hfails, ?_⟩
    intro slot hslot hbound
    exact absurd (hsound.enrolled.index_lt hslot) (Nat.not_lt.mpr hbound)
  have hbound : (closed ++ r.window).length ≤ seat.1 := by
    obtain ⟨k, hk⟩ := List.mem_iff_getElem?.mp hseat
    have hget : tier.seats[(closed ++ r.window).length + k]? = some seat := by
      rw [← hsound.enrolled, List.getElem?_append_right (by simp)]
      simpa using hk
    rw [Tier.seats_getElem?, Option.map_eq_some_iff] at hget
    obtain ⟨e, _, rfl⟩ := hget
    exact Nat.le_add_right ..
  obtain ⟨closed', log'', hsound', hbarred'⟩ :=
    ((sound_kept platform options tier before).and
      (barred_kept platform (closed ++ r.window).length)).run later ⟨hsound, hbarred⟩
  have heq : log' = log'' := List.append_cancel_right (hlog.symm.trans hsound'.history_eq)
  rw [heq]
  intro hcalls
  obtain ⟨serial, call, hcall⟩ := hcalls
  obtain ⟨slot, hslot, hindex⟩ := hsound'.exists_slot hcall rfl
  rw [← hindex] at hbound hcall
  exact hsound'.not_calls_of_skip hslot (hbarred'.2 slot hslot hbound) ⟨serial, call, hcall⟩

/-- For every platform and every order of moves: entities pass through the
window in their order and at most a window of them wait for answers; once a call
has failed, entities that are still waiting make no call; and when the run is
over, which it can always become, the attempted entities are the first ones, at
most a window from the first that failed on, and all of them if none failed. -/
theorem window_discipline (platform : Platform) (options : DeploymentOptions) (tier : Tier)
    (calls : Nat) (before : History) (schedule : List Nat) :
    let r := (TierRun.start options tier calls before).run platform schedule
    ∃ closed log, r.history = log ++ before ∧
      r.Passing options.window tier closed log ∧
      ((∃ index, History.Fails index log) → ∀ later log',
        (r.run platform later).history = log' ++ before →
          ∀ seat ∈ r.waiting, ¬ History.Calls seat.1 log') ∧
      (r.isOver = true →
        ∃ count, History.Attempted options.window tier.entities.size count log) ∧
      ∃ later, (r.run platform later).isOver = true := by
  intro r
  obtain ⟨closed, log, hsound⟩ := run_sound platform options tier calls before schedule
  have hsettled : r.Settled := run_settled platform schedule (start_settled ..)
  refine ⟨closed, log, hsound.history_eq, hsound.passing, ?_, ?_, hsound.exists_isOver hsettled⟩
  · intro hfails later log' hlog seat hseat
    exact hsound.not_calls_of_waiting hfails later hlog hseat
  · intro hover
    obtain ⟨attempted, passed, hconcluded⟩ := hsound.concluded hsettled hover
    exact ⟨attempted.length, hconcluded.attempted_of⟩

end TierRun

end PolicyRollout
