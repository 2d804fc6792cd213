import Mathlib.Data.List.Perm.Basic
import PolicyRollout.Proofs.Deployment.Chronicle
import PolicyRollout.Proofs.Deployment.Completion
import PolicyRollout.Proofs.Deployment.Fates
import PolicyRollout.Proofs.Deployment.Shares
import PolicyRollout.Proofs.Number.Total
/-!
The books of a deployment.  Each answer is put beside the call of its serial
number; every entry of a report stands for one such receipt, and every creation
and every refusal is entered once, also those that came after a failure.
-/
namespace PolicyRollout

/-- The number, the entity and the call of an occurrence that makes a call for an entity. -/
def Occurrence.issue? : Occurrence → Option (Nat × Nat × Call)
  | .called serial (some index) call => some (serial, index, call)
  | _ => none

/-- What was created by the call that was answered. -/
def Occurrence.creation? : Occurrence → Option Creation
  | .answered _ _ (.created (.ok creation)) => some creation
  | _ => none

/-- The verdict against the variables of the validation that was answered. -/
def Occurrence.refusal? : Occurrence → Option Verdict
  | .answered _ _ (.judged (.ok verdict)) => if verdict.valid then none else some verdict
  | _ => none

theorem Occurrence.creation?_of_isGeneral {o : Occurrence} (hgeneral : o.isGeneral = true) :
    o.creation? = none :=
  of_isGeneral (P := fun o => o.creation? = none) (fun _ => rfl) (fun _ _ _ => rfl)
    (fun _ _ => rfl) hgeneral

theorem Occurrence.refusal?_of_isGeneral {o : Occurrence} (hgeneral : o.isGeneral = true) :
    o.refusal? = none :=
  of_isGeneral (P := fun o => o.refusal? = none) (fun _ => rfl) (fun _ _ _ => rfl)
    (fun _ _ => rfl) hgeneral

/-- A call for an entity, and what it came to. -/
structure Receipt where
  serial : Nat
  index : Nat
  call : Call
  outturn : Outturn

namespace Receipt

/-- The call a receipt is for. -/
def issued (receipt : Receipt) : Nat × Nat × Call :=
  (receipt.serial, receipt.index, receipt.call)

/-- What a receipt says about the entity of a name. -/
def outcome? (name : String) (receipt : Receipt) : Option Outcome :=
  match receipt.call, receipt.outturn with
  | .validate templateId _, .judged (.ok verdict) =>
    if verdict.valid then none else some (.rejected name templateId verdict.errors)
  | .instantiate templateId .., .created (.ok creation) =>
    some (.deployed name templateId creation.ruleCount)
  | _, _ => none

end Receipt

/-- What a receipt says about the entity at its position in a tier. -/
def Tier.row? (t : Tier) (receipt : Receipt) : Option (Nat × Outcome) :=
  t.entities.toList[receipt.index]?.bind fun e =>
    (receipt.outcome? e.name).map (receipt.index, ·)

/-- The outcome of an admitted entity, with its position. -/
def Slot.row? (slot : Slot) : Option (Nat × Outcome) :=
  slot.outcome?.map (slot.index, ·)

namespace History

/-- The call of a serial number. -/
def callOf? (serial : Nat) (h : History) : Option Call :=
  h.findSome? fun o => if o.serial? = some serial then o.call? else none

/-- The receipt that comes with an answer. -/
def receipt? (h : History) : Occurrence → Option Receipt
  | .answered serial (some index) outturn =>
    (callOf? serial h).map fun call => ⟨serial, index, call, outturn⟩
  | _ => none

def receipts (h : History) : List Receipt :=
  h.filterMap h.receipt?

theorem callOf?_eq_some {h : History} (hserials : (h.filterMap Occurrence.serial?).Nodup)
    {serial : Nat} {entity : Option Nat} {call : Call} (hcall : .called serial entity call ∈ h) :
    callOf? serial h = some call := by
  induction h with
  | nil => contradiction
  | cons o rest ih =>
      rcases List.mem_cons.mp hcall with rfl | hrest
      · simp [callOf?, Occurrence.serial?, Occurrence.call?]
      · have hmem : serial ∈ rest.filterMap Occurrence.serial? :=
          List.mem_filterMap.mpr ⟨_, hrest, rfl⟩
        have hne : o.serial? ≠ some serial := by
          intro heq
          rw [List.filterMap_cons_some heq, List.nodup_cons] at hserials
          exact hserials.1 hmem
        have hnodup : (rest.filterMap Occurrence.serial?).Nodup :=
          hserials.sublist ((List.sublist_cons_self o rest).filterMap _)
        have hrestCall := ih hnodup hrest
        rw [callOf?, List.findSome?_cons, if_neg hne]
        exact hrestCall

end History

namespace Trail

variable {platform : Platform} {ctx : TierContext} {dryRun : Bool} {slot : Slot}
  {trail log : History}

/-- Every call for a finished entity has a receipt. -/
theorem map_issued
    (htrail : Trail platform ctx dryRun slot.index slot.entity slot.phase trail)
    (hfinal : slot.phase.isFinal = true)
    (hcalls : ∀ serial call, .called serial (some slot.index) call ∈ trail →
      History.callOf? serial log = some call) :
    (trail.filterMap log.receipt?).map Receipt.issued = trail.filterMap Occurrence.issue? := by
  generalize slot.phase = phase at htrail hfinal
  cases htrail with
  | admitted => simp [Phase.isFinal] at hfinal
  | skipped => rfl
  | validating => simp [Phase.isFinal] at hfinal
  | instantiating => simp [Phase.isFinal] at hfinal
  | unjudged serial =>
      have hcall := hcalls serial (slot.entity.validation ctx) (by simp)
      simp [List.filterMap_cons, History.receipt?, hcall, Receipt.issued, Occurrence.issue?]
  | refused serial =>
      have hcall := hcalls serial (slot.entity.validation ctx) (by simp)
      simp [List.filterMap_cons, History.receipt?, hcall, Receipt.issued, Occurrence.issue?]
  | uncreated serial second =>
      have hcall := hcalls serial (slot.entity.validation ctx) (by simp)
      have hsecond := hcalls second (slot.entity.creation ctx dryRun) (by simp)
      simp [List.filterMap_cons, History.receipt?, hcall, hsecond, Receipt.issued,
        Occurrence.issue?]
  | deployed serial second =>
      have hcall := hcalls serial (slot.entity.validation ctx) (by simp)
      have hsecond := hcalls second (slot.entity.creation ctx dryRun) (by simp)
      simp [List.filterMap_cons, History.receipt?, hcall, hsecond, Receipt.issued,
        Occurrence.issue?]

/-- The receipts of a finished entity say what its outcome says. -/
theorem filterMap_row? {tier : Tier}
    (htrail : Trail platform ctx dryRun slot.index slot.entity slot.phase trail)
    (hfinal : slot.phase.isFinal = true)
    (hentity : tier.entities.toList[slot.index]? = some slot.entity)
    (hcalls : ∀ serial call, .called serial (some slot.index) call ∈ trail →
      History.callOf? serial log = some call) :
    (trail.filterMap log.receipt?).filterMap tier.row? = slot.row?.toList := by
  unfold Slot.row? Slot.outcome?
  generalize slot.phase = phase at htrail hfinal
  cases htrail with
  | admitted => simp [Phase.isFinal] at hfinal
  | skipped => rfl
  | validating => simp [Phase.isFinal] at hfinal
  | instantiating => simp [Phase.isFinal] at hfinal
  | unjudged serial =>
      have hcall := hcalls serial (slot.entity.validation ctx) (by simp)
      simp [List.filterMap_cons, History.receipt?, hcall, Tier.row?, hentity, Receipt.outcome?,
        Entity.validation]
  | refused serial _ hvalid =>
      have hcall := hcalls serial (slot.entity.validation ctx) (by simp)
      simp [List.filterMap_cons, History.receipt?, hcall, Tier.row?, hentity, Receipt.outcome?,
        Entity.validation, hvalid]
  | uncreated serial second _ hvalid =>
      have hcall := hcalls serial (slot.entity.validation ctx) (by simp)
      have hsecond := hcalls second (slot.entity.creation ctx dryRun) (by simp)
      simp [List.filterMap_cons, History.receipt?, hcall, hsecond, Tier.row?, hentity,
        Receipt.outcome?, Entity.validation, Entity.creation, hvalid]
  | deployed serial second _ hvalid =>
      have hcall := hcalls serial (slot.entity.validation ctx) (by simp)
      have hsecond := hcalls second (slot.entity.creation ctx dryRun) (by simp)
      simp [List.filterMap_cons, History.receipt?, hcall, hsecond, Tier.row?, hentity,
        Receipt.outcome?, Entity.validation, Entity.creation, hvalid]

/-- What was created for a finished entity is what its outcome counts. -/
theorem map_creation?
    (htrail : Trail platform ctx dryRun slot.index slot.entity slot.phase trail)
    (hfinal : slot.phase.isFinal = true) :
    (trail.filterMap Occurrence.creation?).map Creation.ruleCount =
      (slot.outcome?.toList.filter Outcome.isDeployed).map Outcome.ruleCount := by
  unfold Slot.outcome?
  generalize slot.phase = phase at htrail hfinal
  cases htrail <;>
    simp_all [List.filterMap_cons, List.filter_cons, Phase.isFinal, Occurrence.creation?,
      Outcome.isDeployed, Outcome.ruleCount]

theorem map_refusal?
    (htrail : Trail platform ctx dryRun slot.index slot.entity slot.phase trail)
    (hfinal : slot.phase.isFinal = true) :
    (trail.filterMap Occurrence.refusal?).map Verdict.errors =
      (slot.outcome?.toList.filter fun o => !o.isDeployed).map Outcome.errors := by
  unfold Slot.outcome?
  generalize slot.phase = phase at htrail hfinal
  cases htrail <;>
    simp_all [List.filterMap_cons, Phase.isFinal, Occurrence.refusal?, Outcome.isDeployed,
      Outcome.errors]

end Trail

/-- The books of a tier: every call for an entity has one receipt, and the
outcomes, by position, are what the receipts say. -/
structure Tier.Balanced (t : Tier) (log : History) (outcomes : List Outcome) : Prop where
  serials : (log.filterMap Occurrence.serial?).Nodup
  answered : (log.receipts.map Receipt.issued).Perm (log.filterMap Occurrence.issue?)
  rows : ∃ rows : List (Nat × Outcome), rows.Perm (log.receipts.filterMap t.row?) ∧
    rows.Pairwise (fun first second => first.1 < second.1) ∧ rows.map Prod.snd = outcomes

namespace Recorded

variable {platform : Platform} {options : DeploymentOptions} {calls : Nat} {tier : Tier}
  {slots : List Slot} {waiting : List (Nat × Entity)} {log : History}

theorem callOf?_eq_some {slot : Slot}
    (hrecorded : Recorded platform (.ofTier tier) options calls slots log) {serial : Nat}
    {call : Call} (hcall : .called serial (some slot.index) call ∈ History.about slot.index log) :
    History.callOf? serial log = some call :=
  History.callOf?_eq_some hrecorded.serials (History.mem_about_iff.mp hcall).1

/-- What is read off all occurrences is read off the trails of the slots. -/
theorem map_perm {β γ : Type} {f : Occurrence → Option β} {g : β → γ} {share : Slot → List γ}
    (hrecorded : Recorded platform (.ofTier tier) options calls slots log)
    (henrolled : Enrolled tier slots waiting) (hnoted : ∀ event, f (.noted event) = none)
    (hshare : ∀ slot ∈ slots,
      ((History.about slot.index log).filterMap f).map g = share slot) :
    ((log.filterMap f).map g).Perm (slots.flatMap share) := by
  have hperm := (hrecorded.filterMap_perm henrolled hnoted).map g
  rw [List.map_flatMap, List.flatMap_congr hshare] at hperm
  exact hperm

theorem filterMap_outcome? (p : Outcome → Bool) (slots : List Slot) :
    (slots.filterMap Slot.outcome?).filter p =
      slots.flatMap fun slot => slot.outcome?.toList.filter p := by
  rw [List.filterMap_eq_flatMap_toList, List.filter_flatMap]

theorem balanced (hrecorded : Recorded platform (.ofTier tier) options calls slots log)
    (henrolled : Enrolled tier slots waiting) (hfinal : ∀ slot ∈ slots, slot.phase.isFinal = true) :
    tier.Balanced log (slots.filterMap Slot.outcome?) where
  serials := hrecorded.serials
  answered := by
    have hissues := hrecorded.filterMap_perm henrolled
      (show ∀ event, Occurrence.issue? (.noted event) = none from fun _ => rfl)
    refine (hrecorded.map_perm henrolled (fun _ => rfl) ?_).trans hissues.symm
    intro slot hslot
    exact (hrecorded.trail slot hslot).map_issued (hfinal slot hslot) fun serial call hcall =>
      hrecorded.callOf?_eq_some hcall
  rows := by
    refine ⟨slots.filterMap Slot.row?, ?_, ?_, ?_⟩
    · have hreceipts := (hrecorded.filterMap_perm henrolled
        (show ∀ event, log.receipt? (.noted event) = none from fun _ => rfl)).filterMap tier.row?
      rw [List.filterMap_flatMap] at hreceipts
      rw [List.filterMap_eq_flatMap_toList]
      refine List.Perm.trans (List.Perm.of_eq ?_) hreceipts.symm
      apply List.flatMap_congr
      intro slot hslot
      have hentity := (henrolled.seats_getElem? (henrolled.getElem?_index hslot)).2
      exact ((hrecorded.trail slot hslot).filterMap_row? (hfinal slot hslot) hentity
        fun serial call hcall => hrecorded.callOf?_eq_some hcall).symm
    · -- The slots lie in entity order, and so do their rows.
      have hindexes : (slots.map Slot.index).Pairwise (· < ·) := by
        rw [henrolled.map_index]
        exact List.pairwise_lt_range
      rw [List.pairwise_map] at hindexes
      apply hindexes.filterMap
      intro first second hlt row hrow row' hrow'
      obtain ⟨_, _, rfl⟩ := Option.map_eq_some_iff.mp hrow
      obtain ⟨_, _, rfl⟩ := Option.map_eq_some_iff.mp hrow'
      exact hlt
    · rw [List.map_filterMap]
      apply List.filterMap_congr
      intro slot _
      simp [Slot.row?, Function.comp_def]

theorem map_creation? (hrecorded : Recorded platform (.ofTier tier) options calls slots log)
    (henrolled : Enrolled tier slots waiting) (hfinal : ∀ slot ∈ slots, slot.phase.isFinal = true) :
    ((log.filterMap Occurrence.creation?).map Creation.ruleCount).Perm
      (((slots.filterMap Slot.outcome?).filter Outcome.isDeployed).map Outcome.ruleCount) := by
  rw [filterMap_outcome?, List.map_flatMap]
  exact hrecorded.map_perm henrolled (fun _ => rfl) fun slot hslot =>
    (hrecorded.trail slot hslot).map_creation? (hfinal slot hslot)

theorem map_refusal? (hrecorded : Recorded platform (.ofTier tier) options calls slots log)
    (henrolled : Enrolled tier slots waiting) (hfinal : ∀ slot ∈ slots, slot.phase.isFinal = true) :
    ((log.filterMap Occurrence.refusal?).map Verdict.errors).Perm
      (((slots.filterMap Slot.outcome?).filter fun o => !o.isDeployed).map Outcome.errors) := by
  rw [filterMap_outcome?, List.map_flatMap]
  exact hrecorded.map_perm henrolled (fun _ => rfl) fun slot hslot =>
    (hrecorded.trail slot hslot).map_refusal? (hfinal slot hslot)

end Recorded

namespace TierReport

variable {creations : List Creation} {refusals : List Verdict} {report : TierReport}

theorem deployed_eq (hcreations : (creations.map Creation.ruleCount).Perm
      ((report.outcomes.filter Outcome.isDeployed).map Outcome.ruleCount)) :
    report.deployed = creations.length := by
  simpa [deployed] using hcreations.length_eq.symm

theorem rejected_eq (hrefusals : (refusals.map Verdict.errors).Perm
      ((report.outcomes.filter fun o => !o.isDeployed).map Outcome.errors)) :
    report.rejected = refusals.length := by
  have hlength := hrefusals.length_eq
  have hsplit := List.length_eq_length_filter_add (l := report.outcomes) Outcome.isDeployed
  rw [List.length_map, List.length_map] at hlength
  unfold rejected deployed
  omega

/-- Refused entities have no rules. -/
theorem total_ruleCount (outcomes : List Outcome) :
    total (outcomes.map Outcome.ruleCount) =
      total ((outcomes.filter Outcome.isDeployed).map Outcome.ruleCount) := by
  induction outcomes with
  | nil => rfl
  | cons outcome rest ih =>
      cases outcome with
      | deployed => simp [List.filter_cons, Outcome.isDeployed, total, ih]
      | rejected => simp [Outcome.isDeployed, Outcome.ruleCount, total, ih]

theorem totalRules_eq (hcreations : (creations.map Creation.ruleCount).Perm
      ((report.outcomes.filter Outcome.isDeployed).map Outcome.ruleCount)) :
    report.totalRules = total (creations.map Creation.ruleCount) := by
  rw [totalRules, total_ruleCount, total_perm hcreations]

end TierReport

namespace Rollout

variable {platform : Platform} {options : DeploymentOptions} {topology : Topology}
  {chapters : List Chapter} {history : History}

/-- The books of a tier that has come to its end. -/
structure Chapter.Booked (c : Chapter) : Prop where
  balanced : c.run.tier.Balanced c.log c.run.report.outcomes
  creations : ((c.log.filterMap Occurrence.creation?).map Creation.ruleCount).Perm
    ((c.run.report.outcomes.filter Outcome.isDeployed).map Outcome.ruleCount)
  refusals : ((c.log.filterMap Occurrence.refusal?).map Verdict.errors).Perm
    ((c.run.report.outcomes.filter fun o => !o.isDeployed).map Outcome.errors)

theorem Chapter.Told.booked {c : Chapter} (htold : c.Told platform options)
    (hover : c.run.isOver = true) : c.Booked := by
  obtain ⟨before, closed, log, events, hsound, _, hlog⟩ := htold.exists_sound
  have hrecorded := hsound.recorded.notes events
  have henrolled := hsound.enrolled
  rw [TierRun.window_eq_nil_of_isOver hover, List.append_nil] at hrecorded henrolled
  rw [← hlog] at hrecorded
  have houtcomes : c.run.report.outcomes = closed.filterMap Slot.outcome? := hsound.outcomes
  constructor
  · rw [houtcomes]
    exact hrecorded.balanced henrolled hsound.final
  · rw [houtcomes]
    exact hrecorded.map_creation? henrolled hsound.final
  · rw [houtcomes]
    exact hrecorded.map_refusal? henrolled hsound.final

/-- For every platform and every order of moves, the report a deployment leaves
behind, good or bad, is in balance: tier by tier its outcomes are, in entity
order, what the receipts say, and each call has one receipt.  So it counts
everything that was created, every refusal and every rule, once. -/
theorem accounting (platform : Platform) (options : DeploymentOptions) (stamp : RunStamp)
    (topology : Topology) (schedule : List Nat) :
    let r := (Rollout.start options stamp topology []).run platform schedule
    (∃ later, (r.run platform later).result?.isSome = true) ∧
    ∀ result, r.result? = some result →
      (∃ chapters, Chronicle platform options topology chapters r ∧
        (reported result).tiers = chapters.map (·.run.report) ∧
        ∀ c ∈ chapters, c.run.tier.Balanced c.log c.run.report.outcomes) ∧
      (reported result).deployed = (r.history.filterMap Occurrence.creation?).length ∧
      (reported result).rejected = (r.history.filterMap Occurrence.refusal?).length ∧
      (reported result).totalRules =
        total ((r.history.filterMap Occurrence.creation?).map Creation.ruleCount) := by
  intro r
  refine ⟨run_exists_result .., fun result hresult => ?_⟩
  obtain ⟨chapters, hchronicle⟩ :=
    (run_course platform options stamp topology schedule).exists_chronicle
  obtain ⟨hover, htiers⟩ := hchronicle.ended result hresult
  have hbooked : ∀ c ∈ chapters, c.Booked := fun c hc =>
    (hchronicle.told c hc).booked (hover c hc)
  have hcreations := hchronicle.filterMap_perm Occurrence.creation?_of_isGeneral
  have hrefusals := hchronicle.filterMap_perm Occurrence.refusal?_of_isGeneral
  refine ⟨⟨chapters, hchronicle, htiers, fun c hc => (hbooked c hc).balanced⟩, ?_, ?_, ?_⟩
  · rw [hcreations.length_eq, length_flatMap_eq_total, Report.deployed, htiers, List.map_map]
    exact congrArg total (List.map_congr_left fun c hc =>
      TierReport.deployed_eq (hbooked c hc).creations)
  · rw [hrefusals.length_eq, length_flatMap_eq_total, Report.rejected, htiers, List.map_map]
    exact congrArg total (List.map_congr_left fun c hc =>
      TierReport.rejected_eq (hbooked c hc).refusals)
  · rw [total_perm (hcreations.map Creation.ruleCount), List.map_flatMap, total_flatMap,
      Report.totalRules, htiers, List.map_map]
    exact congrArg total (List.map_congr_left fun c hc =>
      TierReport.totalRules_eq (hbooked c hc).creations)

/-- A creation that is answered after two others have failed is in the report. -/
theorem accounting_late_creation :
    let r := (Rollout.start Outage.triple Outage.stamp Outage.topology []).run Outage.platform
      [2, 2, 2, 1, 1, 1, 0, 0, 0]
    ∃ e, r.result? = some (.error e) ∧ e.completed.deployed = 1 ∧
      e.completed.deployed = (r.history.filterMap Occurrence.creation?).length := by
  intro r
  have hresult : ((Rollout.start Outage.triple Outage.stamp Outage.topology []).run
      Outage.platform [2, 2, 2, 1, 1, 1, 0, 0, 0]).result? = some (.error ⟨some "web", some "b",
        ⟨"run", false, "begin", some "end",
          [⟨"web", .web, "ls-web", [.deployed "a" "web-server" 1]⟩]⟩, .transport "down"⟩) := by
    decide +kernel
  have haccounts := (accounting Outage.platform Outage.triple Outage.stamp Outage.topology
    [2, 2, 2, 1, 1, 1, 0, 0, 0]).2 _ hresult
  exact ⟨_, hresult, rfl, haccounts.2.1⟩

end Rollout

end PolicyRollout
