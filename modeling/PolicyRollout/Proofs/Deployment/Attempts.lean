import PolicyRollout.Proofs.Deployment.Reached
/-!
Which entities of a tier were attempted.  The slots that were not to be skipped
come first, and when a run is over each of them has been validated and has
either an outcome or a failed call.
-/
namespace PolicyRollout

/-- A list whose members have a property from some place on, cut at that place. -/
theorem exists_cut {α : Type} {p : α → Bool} {l : List α}
    (horder : l.Pairwise fun first second => p first = true → p second = true) :
    ∃ front back, l = front ++ back ∧ (∀ a ∈ front, p a = false) ∧ ∀ a ∈ back, p a = true := by
  refine ⟨l.takeWhile (!p ·), l.dropWhile (!p ·), List.takeWhile_append_dropWhile.symm, ?_, ?_⟩
  · intro a ha
    simpa using List.mem_takeWhile_imp ha
  · have hback := horder.sublist (List.dropWhile_sublist (!p ·))
    have hhead := List.head?_dropWhile_not (!p ·) l
    cases hdrop : l.dropWhile (!p ·) with
    | nil => simp
    | cons first rest =>
        rw [hdrop] at hback hhead
        have hfirst : p first = true := by simpa using hhead
        intro a ha
        rcases List.mem_cons.mp ha with rfl | hrest
        · exact hfirst
        · exact (List.pairwise_cons.mp hback).1 a hrest hfirst

namespace TierRun

namespace Sound

variable {platform : Platform} {options : DeploymentOptions} {tier : Tier} {before : History}
  {closed : List Slot} {log : History} {r : TierRun}

/-- All that is about an entity is about one that was admitted. -/
theorem exists_slot (hsound : Sound platform options tier before closed log r) {o : Occurrence}
    (ho : o ∈ log) {index : Nat} (hindex : o.entity? = some index) :
    ∃ slot ∈ closed ++ r.window, slot.index = index := by
  rcases hsound.recorded.known o ho with ⟨event, rfl⟩ | ⟨slot, hslot, hentity⟩
  · simp [Occurrence.entity?] at hindex
  · rw [hentity, Option.some_inj] at hindex
    exact ⟨slot, hslot, hindex⟩

theorem fails_iff (hsound : Sound platform options tier before closed log r) (index : Nat) :
    History.Fails index log ↔
      ∃ slot ∈ closed ++ r.window, slot.index = index ∧ slot.phase.isFailed = true := by
  constructor
  · intro hfails
    obtain ⟨serial, outturn, ho, hfailure⟩ := hfails
    obtain ⟨slot, hslot, rfl⟩ := hsound.exists_slot ho rfl
    refine ⟨slot, hslot, rfl, (hsound.recorded.trail slot hslot).failed_iff.mp ?_⟩
    exact ⟨serial, outturn, History.mem_about_iff.mpr ⟨ho, rfl⟩, hfailure⟩
  · rintro ⟨slot, hslot, rfl, hfailed⟩
    exact History.fails_iff_about.mpr ((hsound.recorded.trail slot hslot).failed_iff.mpr hfailed)

/-- The flag is set exactly when a call has failed. -/
theorem failed_iff_fails (hsound : Sound platform options tier before closed log r) :
    r.failed = true ↔ ∃ index, History.Fails index log := by
  rw [hsound.flagged.failed_iff]
  constructor
  · rintro ⟨slot, hslot, hfailed⟩
    exact ⟨slot.index, (hsound.fails_iff slot.index).mpr ⟨slot, hslot, rfl, hfailed⟩⟩
  · rintro ⟨index, hfails⟩
    obtain ⟨slot, hslot, _, hfailed⟩ := (hsound.fails_iff index).mp hfails
    exact ⟨slot, hslot, hfailed⟩

/-- An entity that waits for an answer is in the window. -/
theorem mem_window_of_awaits (hsound : Sound platform options tier before closed log r)
    {index : Nat} (hawaits : History.Awaits index log) : index ∈ r.window.map Slot.index := by
  obtain ⟨serial, call, hcall, hunanswered⟩ := hawaits
  obtain ⟨slot, hslot, rfl⟩ := hsound.exists_slot hcall rfl
  rcases List.mem_append.mp hslot with hclosed | hwindow
  · have htrail := hsound.recorded.trail slot hslot
    obtain ⟨outturn, hanswer⟩ := htrail.answered_of_isFinal (hsound.final slot hclosed)
      (History.mem_about_iff.mpr ⟨hcall, rfl⟩)
    exact absurd (History.mem_about_iff.mp hanswer).1 (hunanswered _ _)
  · exact List.mem_map_of_mem hwindow

/-- An entity that was to be skipped makes no call. -/
theorem not_calls_of_skip (hsound : Sound platform options tier before closed log r) {slot : Slot}
    (hslot : slot ∈ closed ++ r.window) (hskip : slot.skip = true) :
    ¬ History.Calls slot.index log := by
  intro hcalls
  have htrail := hsound.recorded.trail slot hslot
  obtain ⟨serial, call, hcall⟩ := History.calls_iff_about.mp hcalls
  rw [htrail.eq_nil_of_isIdle (hsound.flagged.idle slot hslot hskip)] at hcall
  contradiction

end Sound

/-- The end of a run of a tier: the entities that were attempted, in their
order, and those that were passed over behind them. -/
structure Concluded (platform : Platform) (options : DeploymentOptions) (tier : Tier)
    (before : History) (attempted passed : List Slot) (log : History) (r : TierRun) : Prop where
  sound : Sound platform options tier before (attempted ++ passed) log r
  empty : r.window = []
  all : Enrolled tier (attempted ++ passed) []
  active : ∀ slot ∈ attempted, slot.skip = false
  idle : ∀ slot ∈ passed, slot.skip = true

theorem window_eq_nil_of_isOver {r : TierRun} (hover : r.isOver = true) : r.window = [] :=
  List.isEmpty_iff.mp hover

theorem Sound.exists_concluded {platform : Platform} {options : DeploymentOptions} {tier : Tier}
    {before : History} {closed : List Slot} {log : History} {r : TierRun}
    (hsound : Sound platform options tier before closed log r) (hsettled : r.Settled)
    (hover : r.isOver = true) :
    ∃ attempted passed, closed = attempted ++ passed ∧
      Concluded platform options tier before attempted passed log r := by
  have hwindow := window_eq_nil_of_isOver hover
  have hwaiting : r.waiting = [] := by
    refine hsettled.full.resolve_right fun hfull => ?_
    rw [hwindow, DeploymentOptions.window] at hfull
    simp at hfull
  have hflagged := hsound.flagged
  have henrolled := hsound.enrolled
  rw [hwindow, List.append_nil] at hflagged henrolled
  rw [hwaiting] at henrolled
  obtain ⟨attempted, passed, rfl, hactive, hidle⟩ := exists_cut hflagged.order
  exact ⟨attempted, passed, rfl, hsound, hwindow, henrolled, hactive, hidle⟩

theorem Sound.concluded {platform : Platform} {options : DeploymentOptions} {tier : Tier}
    {before : History} {closed : List Slot} {log : History} {r : TierRun}
    (hsound : Sound platform options tier before closed log r) (hsettled : r.Settled)
    (hover : r.isOver = true) :
    ∃ attempted passed, Concluded platform options tier before attempted passed log r := by
  obtain ⟨attempted, passed, _, hconcluded⟩ := hsound.exists_concluded hsettled hover
  exact ⟨attempted, passed, hconcluded⟩

theorem result_eq_ok_iff {r : TierRun} {report : TierReport} :
    r.result = .ok report ↔ r.failure = none ∧ report = r.report := by
  unfold result
  cases hfailure : r.failure with
  | none => simp [eq_comm]
  | some failure => simp

theorem run_append (platform : Platform) (first second : List Nat) (r : TierRun) :
    r.run platform (first ++ second) = (r.run platform first).run platform second :=
  List.foldl_append

/-- A run of a tier that began after so many calls and this history. -/
def Reached (platform : Platform) (options : DeploymentOptions) (tier : Tier) (calls : Nat)
    (before : History) (r : TierRun) : Prop :=
  ∃ schedule, r = (TierRun.start options tier calls before).run platform schedule

namespace Reached

variable {platform : Platform} {options : DeploymentOptions} {tier : Tier} {calls : Nat}
  {before : History} {r : TierRun}

theorem move (hreached : r.Reached platform options tier calls before) (index : Nat) :
    (r.move platform index).Reached platform options tier calls before := by
  obtain ⟨schedule, rfl⟩ := hreached
  exact ⟨schedule ++ [index], by rw [run_append]; rfl⟩

theorem sound (hreached : r.Reached platform options tier calls before) :
    ∃ closed log, Sound platform options tier before closed log r := by
  obtain ⟨schedule, rfl⟩ := hreached
  exact run_sound platform options tier calls before schedule

theorem settled (hreached : r.Reached platform options tier calls before) : r.Settled := by
  obtain ⟨schedule, rfl⟩ := hreached
  exact run_settled platform schedule (start_settled ..)

theorem tier_eq (hreached : r.Reached platform options tier calls before) : r.tier = tier := by
  obtain ⟨closed, log, hsound⟩ := hreached.sound
  exact hsound.tier_eq

theorem concluded (hreached : r.Reached platform options tier calls before)
    (hover : r.isOver = true) :
    ∃ attempted passed log, Concluded platform options tier before attempted passed log r := by
  obtain ⟨closed, log, hsound⟩ := hreached.sound
  obtain ⟨attempted, passed, hconcluded⟩ := hsound.concluded hreached.settled hover
  exact ⟨attempted, passed, log, hconcluded⟩

end Reached

end TierRun

end PolicyRollout
