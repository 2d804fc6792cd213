import PolicyRollout.Proofs.Deployment.Chronicle
import PolicyRollout.Proofs.Deployment.WindowDiscipline
/-!
How far a tier gets.  The deployment of an entity ends when it is refused, when
it is created, or by the error of a call.  The order in which entities end, and
which of them end by an error, fixes how many are attempted; whether the others
are refused or created has no part in it.
-/
namespace PolicyRollout

/-- The entity whose deployment an answer ends, and whether by an error. -/
def Occurrence.ending? : Occurrence → Option (Nat × Bool)
  | .answered _ (some index) (.judged (.ok verdict)) =>
      if verdict.valid then none else some (index, false)
  | .answered _ (some index) (.created (.ok _)) => some (index, false)
  | .answered _ (some index) (.judged (.error _)) => some (index, true)
  | .answered _ (some index) (.created (.error _)) => some (index, true)
  | _ => none

/-- The entities whose deployment has ended, in that order, each with whether by an error. -/
def History.endings (h : History) : List (Nat × Bool) :=
  (h.filterMap Occurrence.ending?).reverse

/-- The least number that is not in a list. -/
def leading (indexes : List Nat) : Nat :=
  ((List.range indexes.length).takeWhile (· ∈ indexes)).length

/-- How many of `size` entities are attempted: all of them if none ends by an
error, and else a whole window from the first one that had not ended when the
first error came. -/
def reach (window size : Nat) (endings : List (Nat × Bool)) : Nat :=
  if endings.any Prod.snd then
    min size (leading ((endings.takeWhile (!·.2)).map Prod.fst) + window)
  else size

theorem leading_eq {indexes : List Nat} {n : Nat} (hmem : ∀ i < n, i ∈ indexes)
    (hnot : n ∉ indexes) : leading indexes = n := by
  have hle : n ≤ indexes.length := by
    have hsub : List.range n ⊆ indexes := fun i hi => hmem i (List.mem_range.mp hi)
    simpa using (List.subperm_of_subset List.nodup_range hsub).length_le
  obtain ⟨more, hmore⟩ := Nat.exists_eq_add_of_le hle
  have hfront : ∀ i ∈ List.range n, decide (i ∈ indexes) = true := by
    intro i hi
    exact decide_eq_true (hmem i (List.mem_range.mp hi))
  unfold leading
  rw [hmore, List.range_add, List.takeWhile_append_of_pos hfront]
  cases more with
  | zero => simp
  | succ more => simp [List.range_succ_eq_map, hnot]

section Reach

variable {window size : Nat} {endings : List (Nat × Bool)}

theorem reach_of_quiet (hquiet : ∀ ending ∈ endings, ending.2 = false) :
    reach window size endings = size := by
  have hany : endings.any Prod.snd = false := by
    rw [List.any_eq_false]
    intro ending hending
    simp [hquiet ending hending]
  simp [reach, hany]

/-- The first error decides. -/
theorem reach_of_first (hquiet : ∀ ending ∈ endings, ending.2 = false) (index : Nat) :
    reach window size (endings ++ [(index, true)]) =
      min size (leading (endings.map Prod.fst) + window) := by
  have htake : (endings ++ [(index, true)]).takeWhile (!·.2) = endings := by
    rw [List.takeWhile_append_of_pos]
    · simp
    · intro ending hending
      simp [hquiet ending hending]
  simp [reach, htake]

/-- What ends after the first error has no part in it. -/
theorem reach_append (hfailed : ∃ ending ∈ endings, ending.2 = true) (more : List (Nat × Bool)) :
    reach window size (endings ++ more) = reach window size endings := by
  have hany : endings.any Prod.snd = true := List.any_eq_true.mpr hfailed
  have htake : (endings ++ more).takeWhile (!·.2) = endings.takeWhile (!·.2) := by
    rw [List.takeWhile_append, if_neg]
    intro hlength
    obtain ⟨ending, hending, hfailed⟩ := hfailed
    rw [← (List.takeWhile_sublist _).eq_of_length hlength] at hending
    have hquiet := List.mem_takeWhile_imp hending
    simp [hfailed] at hquiet
  simp [reach, htake, hany]

end Reach

/-- Whether an entity that has come to this phase ended by an error, if it ended
otherwise than by being skipped. -/
def Phase.ending? : Phase → Option Bool
  | .done _ => some false
  | .failed _ => some true
  | _ => none

theorem Trail.endings {platform : Platform} {ctx : TierContext} {dryRun : Bool} {index : Nat}
    {e : Entity} {phase : Phase} {trail : History}
    (htrail : Trail platform ctx dryRun index e phase trail) :
    trail.filterMap Occurrence.ending? = (phase.ending?.map (Prod.mk index)).toList := by
  cases htrail <;> simp_all [Occurrence.ending?, Phase.ending?, List.filterMap_cons]

theorem TierRun.Moves.endings {platform : Platform} {r : TierRun} {slot : Slot} {dest : Phase}
    {calls : Nat} {added : History} (hmoves : r.Moves platform slot dest calls added) :
    added.filterMap Occurrence.ending? = (dest.ending?.map (Prod.mk slot.index)).toList := by
  cases hmoves <;>
    simp_all [Occurrence.ending?, Phase.ending?, List.filterMap_cons, Function.comp_def]

namespace History

theorem endings_notes (events : List Event) (h : History) :
    endings (events.map .noted ++ h) = h.endings := by
  simp [endings, Occurrence.ending?, Function.comp_def]

theorem mem_endings_iff {index : Nat} {byError : Bool} {h : History} :
    (index, byError) ∈ h.endings ↔
      (index, byError) ∈ (h.about index).filterMap Occurrence.ending? := by
  have hentity : ∀ o, Occurrence.ending? o = some (index, byError) → o.entity? = some index := by
    intro o ho
    unfold Occurrence.ending? at ho
    split at ho <;> simp_all [Occurrence.entity?]
  simp only [endings, List.mem_reverse, List.mem_filterMap, mem_about_iff]
  constructor
  · rintro ⟨o, hmem, ho⟩
    exact ⟨o, ⟨hmem, hentity o ho⟩, ho⟩
  · rintro ⟨o, ⟨hmem, _⟩, ho⟩
    exact ⟨o, hmem, ho⟩

theorem endings_append (later earlier : History) :
    endings (later ++ earlier) = earlier.endings ++ endings later := by
  simp [endings]

end History

namespace TierRun

/-- Once a call has failed, as many entities are not to be skipped as are within reach. -/
def Measured (options : DeploymentOptions) (tier : Tier) (closed : List Slot) (log : History)
    (r : TierRun) : Prop :=
  r.failed = true → ((closed ++ r.window).filter (!·.skip)).length =
    reach options.window tier.entities.size log.endings

variable {platform : Platform} {options : DeploymentOptions} {tier : Tier} {before : History}
  {closed : List Slot} {log : History} {r : TierRun}

namespace Sound

theorem mem_endings_iff (hsound : Sound platform options tier before closed log r) {index : Nat}
    {byError : Bool} : (index, byError) ∈ log.endings ↔
      ∃ slot ∈ closed ++ r.window, slot.index = index ∧ slot.phase.ending? = some byError := by
  rw [History.mem_endings_iff]
  constructor
  · intro hending
    obtain ⟨o, ho, _⟩ := List.mem_filterMap.mp hending
    obtain ⟨hlog, hentity⟩ := History.mem_about_iff.mp ho
    obtain ⟨slot, hslot, rfl⟩ := hsound.exists_slot hlog hentity
    rw [(hsound.recorded.trail slot hslot).endings] at hending
    exact ⟨slot, hslot, rfl, by simpa using hending⟩
  · rintro ⟨slot, hslot, rfl, hending⟩
    rw [(hsound.recorded.trail slot hslot).endings, hending]
    simp

theorem failed_iff_endings (hsound : Sound platform options tier before closed log r) :
    r.failed = true ↔ ∃ ending ∈ log.endings, ending.2 = true := by
  rw [hsound.flagged.failed_iff]
  constructor
  · rintro ⟨slot, hslot, hfailed⟩
    have hending : slot.phase.ending? = some true := by
      cases hphase : slot.phase <;> simp_all [Phase.isFailed, Phase.ending?]
    exact ⟨_, hsound.mem_endings_iff.mpr ⟨slot, hslot, rfl, hending⟩, rfl⟩
  · rintro ⟨⟨index, byError⟩, hending, rfl⟩
    obtain ⟨slot, hslot, _, hphase⟩ := hsound.mem_endings_iff.mp hending
    refine ⟨slot, hslot, ?_⟩
    cases hphase' : slot.phase <;> simp_all [Phase.isFailed, Phase.ending?]

theorem endings_quiet (hsound : Sound platform options tier before closed log r)
    (hquiet : r.failed = false) : ∀ ending ∈ log.endings, ending.2 = false := by
  intro ending hending
  cases herror : ending.2 with
  | false => rfl
  | true => simp [hsound.failed_iff_endings.mpr ⟨ending, hending, herror⟩] at hquiet

/-- Before the first error nobody is to be skipped. -/
theorem skip_eq_false (hsound : Sound platform options tier before closed log r)
    (hquiet : r.failed = false) : ∀ slot ∈ closed ++ r.window, slot.skip = false := by
  intro slot hslot
  cases hskip : slot.skip with
  | false => rfl
  | true => simp [hsound.flagged.cause slot hslot hskip] at hquiet

/-- Before the first error a finished entity was refused or created. -/
theorem ending?_of_isFinal (hsound : Sound platform options tier before closed log r)
    (hquiet : r.failed = false) {slot : Slot} (hslot : slot ∈ closed ++ r.window)
    (hfinal : slot.phase.isFinal = true) : slot.phase.ending? = some false := by
  have hskipped := hsound.flagged.active slot hslot (hsound.skip_eq_false hquiet slot hslot)
  have hfailed : slot.phase.isFailed = false := by
    cases hphase : slot.phase.isFailed with
    | false => rfl
    | true => simp [hsound.flagged.failed_iff.mpr ⟨slot, hslot, hphase⟩] at hquiet
  cases hphase : slot.phase <;> simp_all [Phase.isFinal, Phase.isFailed, Phase.ending?]

/-- Before the first error the entities that have been reported are the ones before
the first that has not ended. -/
theorem leading_eq (hsound : Sound platform options tier before closed log r)
    (hsettled : r.Settled) (hquiet : r.failed = false) (hwindow : r.window ≠ []) :
    leading (log.endings.map Prod.fst) = closed.length := by
  apply PolicyRollout.leading_eq
  · intro index hlt
    have hslot := List.mem_append_left r.window (List.getElem_mem hlt)
    have hindex : closed[index].index = index :=
      (hsound.enrolled.seats_getElem? (by rw [List.getElem?_append_left hlt]; simp)).1
    have hfinal := hsound.final _ (List.getElem_mem hlt)
    have hending := hsound.ending?_of_isFinal hquiet hslot hfinal
    exact List.mem_map_of_mem (hsound.mem_endings_iff.mpr ⟨_, hslot, hindex, hending⟩)
  · intro hmem
    obtain ⟨⟨index, byError⟩, hending, hlength⟩ := List.mem_map.mp hmem
    obtain ⟨slot, hslot, hindex, hphase⟩ := hsound.mem_endings_iff.mp hending
    obtain ⟨head, rest, hhead⟩ := List.exists_cons_of_ne_nil hwindow
    have hunfinished := hsettled.unreported head (by rw [hhead]; rfl)
    have hget : (closed ++ r.window)[slot.index]? = some head := by
      rw [hindex, show index = closed.length from hlength, hhead]
      simp
    rw [hsound.enrolled.getElem?_index hslot, Option.some_inj] at hget
    subst hget
    cases hphase' : slot.phase <;> simp_all [Phase.isFinal, Phase.ending?]

/-- When the window is full or nobody waits, the admitted entities are those within
a window of the first that has not been reported. -/
theorem length_eq_min (hsound : Sound platform options tier before closed log r)
    (hsettled : r.Settled) :
    (closed ++ r.window).length = min tier.entities.size (closed.length + options.window) := by
  have hlength := hsound.enrolled.length_add
  have hwidth := hsound.width
  have hfull := hsettled.full
  rw [hsound.options_eq] at hfull
  rw [List.length_append] at hlength ⊢
  rcases hfull with hnone | hfull
  · rw [hnone, List.length_nil] at hlength
    omega
  · omega

end Sound

section Measured

variable {slot : Slot} {dest : Phase} {calls : Nat} {added : History}

theorem Measured.moved (hmeasured : Measured options tier closed log r)
    (hsound : Sound platform options tier before closed log r) (hsettled : r.Settled)
    (hslot : slot ∈ r.window) (hmoves : r.Moves platform slot dest calls added) :
    Measured options tier closed (added ++ log) (r.brought slot dest calls added) := by
  have hcount : (closed ++ (r.brought slot dest calls added).window).filter (!·.skip) =
      ((closed ++ r.window).filter (!·.skip)).map (Slot.set slot.index dest) := by
    have hslots : closed ++ (r.brought slot dest calls added).window =
        (closed ++ r.window).map (Slot.set slot.index dest) := by
      rw [List.map_append, hsound.closed_map_set hslot]
      rfl
    rw [hslots, List.filter_map]
    simp [Function.comp_def]
  have hadded : History.endings added = (dest.ending?.map (Prod.mk slot.index)).toList := by
    rw [History.endings, hmoves.endings]
    cases dest.ending? <;> rfl
  intro hfailed
  rw [hcount, List.length_map, History.endings_append, hadded]
  cases hbefore : r.failed with
  | true =>
      rw [hmeasured hbefore, reach_append (hsound.failed_iff_endings.mp hbefore)]
  | false =>
      have hdest : dest.ending? = some true := by
        have hdest : dest.isFailed = true := by
          simpa [brought, setPhase, hbefore] using hfailed
        cases dest <;> simp_all [Phase.isFailed, Phase.ending?]
      have hquiet := hsound.endings_quiet hbefore
      have hall : (closed ++ r.window).filter (!·.skip) = closed ++ r.window := by
        rw [List.filter_eq_self]
        intro other hother
        simp [hsound.skip_eq_false hbefore other hother]
      rw [hdest, hall, hsound.length_eq_min hsettled]
      change _ = reach _ _ (log.endings ++ [(slot.index, true)])
      rw [reach_of_first hquiet,
        hsound.leading_eq hsettled hbefore (List.ne_nil_of_mem hslot)]

theorem Measured.settle (hmeasured : Measured options tier closed log r) :
    Measured options tier (closed ++ r.finished) (r.notices.map .noted ++ log) r.settle := by
  have hslots : (closed ++ r.finished) ++ r.settle.window =
      (closed ++ r.window) ++ r.drain.admitted := by
    rw [TierRun.settle, refill_eq, drain_eq]
    change (closed ++ r.finished) ++ (r.unfinished ++ _) = _
    rw [List.append_assoc, ← List.append_assoc r.finished, finished_append_unfinished,
      List.append_assoc]
  have hflag : r.settle.failed = r.failed := by
    rw [TierRun.settle, refill_eq, drain_eq]
    rfl
  intro hfailed
  rw [hflag] at hfailed
  have hadmitted : r.drain.admitted.filter (!·.skip) = [] := by
    rw [List.filter_eq_nil_iff]
    intro slot hslot
    have hskip : slot.skip = r.failed := by
      rw [(mem_admitted hslot).1, drain_eq]
      rfl
    simp [hskip, hfailed]
  rw [hslots, List.filter_append, hadmitted, List.append_nil, History.endings_notes]
  exact hmeasured hfailed

end Measured

/-- A run that keeps the invariant and is measured, between moves. -/
theorem Sound.move_measured (hsound : Sound platform options tier before closed log r)
    (hsettled : r.Settled) (hmeasured : Measured options tier closed log r) (index : Nat) :
    ∃ closed' log', Sound platform options tier before closed' log' (r.move platform index) ∧
      Measured options tier closed' log' (r.move platform index) := by
  have hkept := sound_kept platform options tier before
  obtain heq | heq | ⟨slot, dest, calls, added, hslot, hfinal, hmoves, heq⟩ :=
    r.move_cases platform index
  · rw [heq]
    exact ⟨closed, log, hsound, hmeasured⟩
  · rw [heq]
    exact ⟨_, _, hkept.settle hsound, hmeasured.settle⟩
  · rw [heq]
    exact ⟨_, _, hkept.settle (hkept.moved hsound hslot hfinal hmoves),
      (hmeasured.moved hsound hsettled hslot hmoves).settle⟩

theorem Sound.run_measured (hsound : Sound platform options tier before closed log r)
    (hsettled : r.Settled) (hmeasured : Measured options tier closed log r)
    (schedule : List Nat) :
    ∃ closed' log', Sound platform options tier before closed' log' (r.run platform schedule) ∧
      Measured options tier closed' log' (r.run platform schedule) := by
  induction schedule generalizing closed log r with
  | nil => exact ⟨closed, log, hsound, hmeasured⟩
  | cons index rest ih =>
      obtain ⟨closed', log', hsound', hmeasured'⟩ :=
        hsound.move_measured hsettled hmeasured index
      exact ih hsound' (move_settled platform index hsettled) hmeasured'

theorem Concluded.length_eq_reach {attempted passed : List Slot}
    (hconcluded : Concluded platform options tier before attempted passed log r)
    (hmeasured : Measured options tier (attempted ++ passed) log r) :
    attempted.length = reach options.window tier.entities.size log.endings := by
  have hsound := hconcluded.sound
  by_cases hfailed : r.failed = true
  · have hactive : attempted.filter (!·.skip) = attempted := by
      rw [List.filter_eq_self]
      intro slot hslot
      simp [hconcluded.active slot hslot]
    have hidle : passed.filter (!·.skip) = [] := by
      rw [List.filter_eq_nil_iff]
      intro slot hslot
      simp [hconcluded.idle slot hslot]
    have hcount := hmeasured hfailed
    rwa [hconcluded.empty, List.append_nil, List.filter_append, hactive, hidle,
      List.append_nil] at hcount
  · have hnone : ∀ index, ¬ History.Fails index log := fun index hfails =>
      hfailed (hsound.failed_iff_fails.mpr ⟨index, hfails⟩)
    rw [reach_of_quiet (hsound.endings_quiet (by simpa using hfailed))]
    exact hconcluded.attempted_of.complete hnone

/-- Which entities of a tier have been attempted when its run is over. -/
theorem Reached.calls_iff {calls : Nat} (hreached : r.Reached platform options tier calls before)
    (hover : r.isOver = true) (hlog : r.history = log ++ before) (index : Nat) :
    History.Calls index log ↔ index < reach options.window tier.entities.size log.endings := by
  have hsettled := hreached.settled
  obtain ⟨schedule, rfl⟩ := hreached
  have hquiet : Measured options tier [] (opening tier)
      (TierRun.start options tier calls before) := fun hfailed => by contradiction
  obtain ⟨closed, log', hsound, hmeasured⟩ :=
    (start_sound platform options tier calls before).run_measured (start_settled ..) hquiet schedule
  obtain rfl : log = log' := List.append_cancel_right (hlog.symm.trans hsound.history_eq)
  obtain ⟨attempted, passed, rfl, hconcluded⟩ := hsound.exists_concluded hsettled hover
  rw [hconcluded.calls_iff, hconcluded.length_eq_reach hmeasured]

end TierRun

end PolicyRollout
