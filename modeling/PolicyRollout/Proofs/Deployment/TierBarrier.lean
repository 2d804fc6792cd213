import PolicyRollout.Proofs.Deployment.Chronicle
import PolicyRollout.Proofs.Deployment.Completion
import PolicyRollout.Proofs.Deployment.Fates
/-!
The barrier between tiers.  A tier is begun when all tiers before it have been
deployed and all calls for their entities have been answered; a tier that is given
up is the last one.  What a deployment returns is read off its chapters.
-/
namespace PolicyRollout

/-- The error a call came to. -/
def Outturn.failure? : Outturn → Option PlatformError
  | .listed (.error source) | .judged (.error source) | .created (.error source) => some source
  | _ => none

/-- Every call made for an entity has been answered. -/
def History.Quiet (h : History) : Prop :=
  ∀ serial index call, .called serial (some index) call ∈ h →
    ∃ outturn, .answered serial (some index) outturn ∈ h

namespace History

/-- Events make no calls. -/
theorem Quiet.notes {h : History} (hquiet : h.Quiet) (events : List Event) :
    Quiet (events.map .noted ++ h) := by
  intro serial index call hcall
  obtain ⟨outturn, hanswer⟩ := hquiet serial index call (by simpa using hcall)
  exact ⟨outturn, List.mem_append_right _ hanswer⟩

theorem Quiet.append {later earlier : History} (hlater : later.Quiet) (hearlier : earlier.Quiet) :
    Quiet (later ++ earlier) := by
  intro serial index call hcall
  rcases List.mem_append.mp hcall with hcall | hcall
  · obtain ⟨outturn, hanswer⟩ := hlater serial index call hcall
    exact ⟨outturn, List.mem_append_left _ hanswer⟩
  · obtain ⟨outturn, hanswer⟩ := hearlier serial index call hcall
    exact ⟨outturn, List.mem_append_right _ hanswer⟩

theorem Quiet.flatMap {α : Type} {l : List α} {f : α → History} (hquiet : ∀ a ∈ l, (f a).Quiet) :
    Quiet (l.flatMap f) := by
  induction l with
  | nil => simp [Quiet]
  | cons a rest ih =>
      rw [List.flatMap_cons]
      exact (hquiet a List.mem_cons_self).append
        (ih fun b hb => hquiet b (List.mem_cons_of_mem a hb))

/-- What is general calls for no entity. -/
theorem quiet_of_isGeneral {h : History} (hgeneral : ∀ o ∈ h, o.isGeneral = true) : h.Quiet := by
  intro serial index call hcall
  exact absurd (hgeneral _ hcall) (by simp [Occurrence.isGeneral])

theorem fails_notes {index : Nat} (events : List Event) (h : History) :
    Fails index (events.map .noted ++ h) ↔ Fails index h := by
  simp [Fails]

end History

section Trail

variable {platform : Platform} {ctx : TierContext} {dryRun : Bool} {index : Nat} {e : Entity}
  {trail : History}

theorem Trail.outcome_entity {outcome : Outcome}
    (htrail : Trail platform ctx dryRun index e (.done outcome) trail) :
    outcome.entity = e.name := by
  cases htrail with
  | refused => rfl
  | deployed => rfl

/-- The error of a failed entity is that of its last answer. -/
theorem Trail.exists_failure {source : PlatformError}
    (htrail : Trail platform ctx dryRun index e (.failed source) trail) :
    ∃ serial outturn, .answered serial (some index) outturn ∈ trail ∧
      outturn.failure? = some source := by
  cases htrail with
  | unjudged serial => exact ⟨serial, _, List.mem_cons_self, rfl⟩
  | uncreated serial second => exact ⟨second, _, List.mem_cons_self, rfl⟩

end Trail

namespace TierRun.Concluded

variable {platform : Platform} {options : DeploymentOptions} {tier : Tier} {before : History}
  {attempted passed : List Slot} {log : History} {r : TierRun}

/-- All calls of a run that is over have been answered. -/
theorem quiet (hconcluded : Concluded platform options tier before attempted passed log r) :
    log.Quiet := by
  intro serial index call hcall
  obtain ⟨slot, hslot, rfl⟩ := hconcluded.sound.exists_slot hcall rfl
  have htrail := hconcluded.sound.recorded.trail slot hslot
  have hfinal := hconcluded.sound.final slot (hconcluded.mem_slots.mp hslot)
  obtain ⟨outturn, hanswer⟩ := htrail.answered_of_isFinal hfinal
    (History.mem_about_iff.mpr ⟨hcall, rfl⟩)
  exact ⟨outturn, (History.mem_about_iff.mp hanswer).1⟩

/-- Without a failure every entity has an outcome, in the order of the tier. -/
theorem map_outcome_entity
    (hconcluded : Concluded platform options tier before attempted passed log r)
    (hfailure : r.failure = none) :
    r.outcomes.map Outcome.entity = tier.entities.toList.map Entity.name := by
  have hpassed := hconcluded.passed_eq_nil (hconcluded.failure_eq_none_iff.mp hfailure)
  have hentities := hconcluded.all.map_entity
  rw [hpassed, List.append_nil, List.map_nil, List.append_nil] at hentities
  have houtcome : ∀ slot ∈ attempted,
      slot.outcome?.map Outcome.entity = some slot.entity.name := by
    intro slot hslot
    have hmem := hconcluded.mem_slots.mpr (List.mem_append_left passed hslot)
    have htrail := hconcluded.sound.recorded.trail slot hmem
    rcases hconcluded.phase_of_mem hslot with ⟨outcome, hphase⟩ | ⟨source, hphase⟩
    · rw [hphase] at htrail
      simp [Slot.outcome?, hphase, htrail.outcome_entity]
    · rw [hconcluded.failure_eq, List.findSome?_eq_none_iff] at hfailure
      have hnone := hfailure slot hslot
      simp [Slot.failure?, hphase] at hnone
  rw [hconcluded.outcomes_eq, List.map_filterMap, List.filterMap_congr houtcome, ← hentities,
    List.map_map]
  exact congrFun List.filterMap_eq_map _

/-- The failure of a run is that of the first entity with a failed call. -/
theorem exists_first_failed
    (hconcluded : Concluded platform options tier before attempted passed log r) {name : String}
    {source : PlatformError} (hfailure : r.failure = some (name, source)) :
    ∃ index slot, attempted[index]? = some slot ∧ slot.phase = .failed source ∧
      slot.entity.name = name ∧ ∀ earlier < index, ¬ History.Fails earlier log := by
  rw [hconcluded.failure_eq, List.findSome?_eq_some_iff] at hfailure
  obtain ⟨front, slot, back, hattempted, hslot, hfront⟩ := hfailure
  have hget : attempted[front.length]? = some slot := by
    rw [hattempted]
    simp
  refine ⟨front.length, slot, hget, ?_⟩
  cases hphase : slot.phase with
  | failed cause =>
      simp only [Slot.failure?, hphase, Option.some_inj, Prod.mk.injEq] at hslot
      obtain ⟨hname, rfl⟩ := hslot
      refine ⟨rfl, hname, fun earlier hlt hfails => ?_⟩
      obtain ⟨other, hother, rfl, hfailed⟩ := (hconcluded.sound.fails_iff earlier).mp hfails
      have hget' := hconcluded.all.getElem?_index (hconcluded.mem_slots.mp hother)
      rw [hattempted, List.append_assoc, List.getElem?_append_left hlt] at hget'
      have hquiet := hfront other (List.mem_of_getElem? hget')
      cases hphase' : other.phase <;> simp_all [Slot.failure?, Phase.isFailed]
  | _ => simp [Slot.failure?, hphase] at hslot

end TierRun.Concluded

namespace Rollout

/-- The tier of a chapter was deployed: its run is over and its report has one
outcome for each entity, in the order of the tier. -/
structure Chapter.Deployed (c : Chapter) : Prop where
  result : c.run.result = .ok c.run.report
  outcomes : c.run.report.outcomes.map Outcome.entity = c.run.tier.entities.toList.map Entity.name
  quiet : c.log.Quiet

/-- The tier of a chapter was given up for the call of an entity, the first one that failed. -/
structure Chapter.GivenUp (c : Chapter) (index : Nat) (e : Entity) (source : PlatformError) :
    Prop where
  result : c.run.result = .error ⟨c.run.tier.name, e.name, c.run.report, source⟩
  entity : c.run.tier.entities.toList[index]? = some e
  fails : ∃ serial outturn, .answered serial (some index) outturn ∈ c.log ∧
    outturn.failure? = some source
  first : ∀ earlier < index, ¬ History.Fails earlier c.log
  quiet : c.log.Quiet

variable {platform : Platform} {options : DeploymentOptions} {stamp : RunStamp}
  {topology : Topology} {chapters : List Chapter} {r : Rollout}

/-- The chapter of a run that is over, as what the run has come to. -/
theorem Chapter.Told.exists_concluded {c : Chapter} (htold : c.Told platform options)
    (hover : c.run.isOver = true) :
    ∃ before attempted passed log events,
      TierRun.Concluded platform options c.run.tier before attempted passed log c.run ∧
      c.log = List.map .noted events ++ log := by
  obtain ⟨before, _, log, events, hsound, hsettled, hlog⟩ := htold.exists_sound
  obtain ⟨attempted, passed, hconcluded⟩ := hsound.concluded hsettled hover
  exact ⟨before, attempted, passed, log, events, hconcluded, hlog⟩

theorem Chapter.Told.deployed {c : Chapter} (htold : c.Told platform options)
    (hover : c.run.isOver = true) (hfailure : c.run.failure = none) : c.Deployed := by
  obtain ⟨before, attempted, passed, log, events, hconcluded, hlog⟩ := htold.exists_concluded hover
  constructor
  case result => exact TierRun.result_eq_ok_iff.mpr ⟨hfailure, rfl⟩
  case outcomes => exact hconcluded.map_outcome_entity hfailure
  case quiet =>
    rw [hlog]
    exact hconcluded.quiet.notes events

theorem Chapter.Told.givenUp {c : Chapter} (htold : c.Told platform options)
    (hover : c.run.isOver = true) {name : String} {source : PlatformError}
    (hfailure : c.run.failure = some (name, source)) :
    ∃ index e, e.name = name ∧ c.GivenUp index e source := by
  obtain ⟨before, attempted, passed, log, events, hconcluded, hlog⟩ := htold.exists_concluded hover
  obtain ⟨index, slot, hget, hphase, rfl, hfirst⟩ := hconcluded.exists_first_failed hfailure
  obtain ⟨rfl, hentity⟩ := hconcluded.seats_getElem? hget
  refine ⟨slot.index, slot.entity, rfl, ?_⟩
  constructor
  case result => exact TierRun.result_eq_error_iff.mpr ⟨hfailure, rfl, rfl⟩
  case entity => exact hentity
  case fails =>
    have htrail := hconcluded.recorded.trail slot
      (List.mem_append_left passed (List.mem_of_getElem? hget))
    rw [hphase] at htrail
    obtain ⟨serial, outturn, hanswer, hsource⟩ := htrail.exists_failure
    refine ⟨serial, outturn, ?_, hsource⟩
    rw [hlog]
    exact List.mem_append_right _ (History.mem_about_iff.mp hanswer).1
  case first =>
    intro earlier hlt
    rw [hlog, History.fails_notes]
    exact hfirst earlier hlt
  case quiet =>
    rw [hlog]
    exact hconcluded.quiet.notes events

/-- When a tier is begun, the tiers before it have been deployed, and all calls
made for their entities have been answered. -/
theorem Chronicle.barrier (hchronicle : Chronicle platform options topology chapters r)
    {front back : List Chapter} {c : Chapter} (hchapters : chapters = front ++ c :: back) :
    (∀ other ∈ front, other.Deployed) ∧
    ∃ later opening, r.history = later ++ c.log ++ (front.reverse.flatMap Chapter.log ++ opening) ∧
      (∀ o ∈ opening, o.isGeneral = true) ∧
      History.Quiet (front.reverse.flatMap Chapter.log ++ opening) := by
  have hdeployed : ∀ other ∈ front, other.Deployed := by
    intro other hother
    have hpassed : other ∈ chapters.dropLast := by
      rw [hchapters, List.dropLast_append_of_ne_nil (by simp)]
      exact List.mem_append_left _ hother
    have htold := hchronicle.told other (List.dropLast_subset _ hpassed)
    obtain ⟨hover, hfailure⟩ := hchronicle.passed other hpassed
    exact htold.deployed hover hfailure
  obtain ⟨opening, closing, hhistory, hgeneral⟩ := hchronicle.history_eq
  have hopening : ∀ o ∈ opening, o.isGeneral = true := fun o ho =>
    hgeneral o (List.mem_append_right _ ho)
  refine ⟨hdeployed, closing ++ back.reverse.flatMap Chapter.log, opening, ?_, hopening, ?_⟩
  · rw [hhistory, hchapters]
    simp
  · have hfront : History.Quiet (front.reverse.flatMap Chapter.log) :=
      .flatMap fun other hother => (hdeployed other (List.mem_reverse.mp hother)).quiet
    exact hfront.append (History.quiet_of_isGeneral hopening)

def finishedReport (options : DeploymentOptions) (stamp : RunStamp) (tiers : List TierReport) :
    Report :=
  ⟨stamp.runId, options.dryRun, stamp.startedAt, some stamp.finishedAt, tiers⟩

/-- What a deployment returns, by its chapters. -/
inductive Returns (options : DeploymentOptions) (stamp : RunStamp) (topology : Topology) :
    List Chapter → Except DeploymentError Report → Prop
  | refused (source : PlatformError) :
      Returns options stamp topology []
        (.error ⟨none, none, finishedReport options stamp [], source⟩)
  | aborted {front : List Chapter} {c : Chapter} {index : Nat} {e : Entity} {source : PlatformError}
      (hfront : ∀ other ∈ front, other.Deployed) (hlast : c.GivenUp index e source) :
      Returns options stamp topology (front ++ [c])
        (.error ⟨some c.run.tier.name, some e.name,
          finishedReport options stamp ((front ++ [c]).map (·.run.report)), source⟩)
  | completed {chapters : List Chapter}
      (horder : chapters.map (·.run.tier) = topology.deploymentOrder)
      (hall : ∀ c ∈ chapters, c.Deployed) :
      Returns options stamp topology chapters
        (.ok (finishedReport options stamp (chapters.map (·.run.report))))

/-- The report a deployment leaves behind is finished, and an error without a tier
names no entity either. -/
theorem Course.reported_eq (hcourse : Course platform options stamp topology r)
    {result : Except DeploymentError Report} (hresult : r.result? = some result) :
    reported result = finishedReport options stamp (reported result).tiers ∧
      ∀ e, result = .error e → e.tier = none → e.entity = none := by
  cases hcourse with
  | listing => simp [result?] at hresult
  | deploying => simp [result?] at hresult
  | refused =>
      obtain rfl := Option.some_inj.mp hresult
      refine ⟨rfl, ?_⟩
      rintro e ⟨⟩ _
      rfl
  | aborted _ _ _ _ _ _ hreport =>
      obtain rfl := Option.some_inj.mp hresult
      subst hreport
      refine ⟨rfl, ?_⟩
      rintro e ⟨⟩ htier
      simp at htier
  | completed _ _ _ hreport =>
      obtain rfl := Option.some_inj.mp hresult
      subst hreport
      exact ⟨rfl, by simp⟩

theorem Chronicle.returns (hchronicle : Chronicle platform options topology chapters r)
    (hcourse : Course platform options stamp topology r)
    {result : Except DeploymentError Report} (hresult : r.result? = some result) :
    Returns options stamp topology chapters result := by
  obtain ⟨hover, htiers⟩ := hchronicle.ended result hresult
  obtain ⟨hreport, hentity⟩ := hcourse.reported_eq hresult
  rw [htiers] at hreport
  cases result with
  | ok report =>
      obtain ⟨horder, hfailure⟩ := hchronicle.completed report hresult
      obtain rfl : report = _ := hreport
      refine .completed horder fun c hc => ?_
      exact (hchronicle.told c hc).deployed (hover c hc) (hfailure c hc)
  | error e =>
      obtain ⟨tier, entity, completed, source⟩ := e
      obtain rfl : completed = _ := hreport
      rcases hchronicle.aborted _ hresult with
        ⟨htier, rfl⟩ | ⟨c, name, hlast, hfailure, htier, hname⟩
      · obtain rfl : tier = none := htier
        obtain rfl : entity = none := hentity _ rfl rfl
        exact .refused source
      · obtain rfl : tier = some c.run.tier.name := htier
        obtain rfl : entity = some name := hname
        obtain ⟨front, rfl⟩ := List.getLast?_eq_some_iff.mp hlast
        have htold := hchronicle.told c (by simp)
        obtain ⟨index, e, rfl, hgiven⟩ := htold.givenUp (hover c (by simp)) hfailure
        exact .aborted (hchronicle.barrier rfl).1 hgiven

/-- For every platform and every order of moves: a tier is begun only after those
before it have been deployed and all calls made so far for entities have been
answered.  If no tier is given up the report has the full report of every tier, in
deployment order.  If one is, nothing was called for the tiers behind it, and the
error names it, its first entity with a failed call and that call's error, and
carries the reports of all tiers that were begun.  The deployment does end. -/
theorem tier_barrier (platform : Platform) (options : DeploymentOptions) (stamp : RunStamp)
    (topology : Topology) (schedule : List Nat) :
    let r := (Rollout.start options stamp topology []).run platform schedule
    (∃ chapters, Chronicle platform options topology chapters r ∧
      (∀ front c back, chapters = front ++ c :: back →
        (∀ other ∈ front, other.Deployed) ∧
        ∃ later opening,
          r.history = later ++ c.log ++ (front.reverse.flatMap Chapter.log ++ opening) ∧
          (∀ o ∈ opening, o.isGeneral = true) ∧
          History.Quiet (front.reverse.flatMap Chapter.log ++ opening)) ∧
      ∀ result, r.result? = some result → Returns options stamp topology chapters result) ∧
    ∃ later, (r.run platform later).result?.isSome = true := by
  intro r
  have hcourse := run_course platform options stamp topology schedule
  obtain ⟨chapters, hchronicle⟩ := hcourse.exists_chronicle
  refine ⟨⟨chapters, hchronicle, ?_, ?_⟩, run_exists_result ..⟩
  · intro front c back hchapters
    exact hchronicle.barrier hchapters
  · intro result hresult
    exact hchronicle.returns hcourse hresult

end Rollout

end PolicyRollout
