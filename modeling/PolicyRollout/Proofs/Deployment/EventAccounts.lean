import PolicyRollout.Proofs.Deployment.Accounting
import PolicyRollout.Proofs.Deployment.Remarks
/-!
The log of a tier accounts for its run.  Kind by kind, the events a tier records itself are the
entities that were attempted, the outcomes of its report, the calls that failed and the entities
that were passed over, each of them once; so no entity of the tier goes unaccounted for.
-/
namespace PolicyRollout

/-- What an event of a tier tells of. -/
inductive EventKind where
  | configuring
  | refusal
  | creation
  | failure
  | skip
  | done
  | other
deriving DecidableEq

def Event.kind : Event → EventKind
  | .configuring .. => .configuring
  | .validationFailed .. => .refusal
  | .created .. => .creation
  | .serviceFailure .. => .failure
  | .skipping .. => .skip
  | .tierDone .. => .done
  | _ => .other

/-- The events that tell of one thing. -/
def ofKind (kind : EventKind) (events : List Event) : List Event :=
  events.filter (·.kind = kind)

@[simp]
theorem ofKind_append (kind : EventKind) (front back : List Event) :
    ofKind kind (front ++ back) = ofKind kind front ++ ofKind kind back :=
  List.filter_append ..

@[simp]
theorem ofKind_cons (kind : EventKind) (event : Event) (rest : List Event) :
    ofKind kind (event :: rest) =
      if event.kind = kind then event :: ofKind kind rest else ofKind kind rest := by
  simp [ofKind, List.filter_cons]

@[simp]
theorem ofKind_nil (kind : EventKind) : ofKind kind [] = [] :=
  rfl

theorem ofKind_flatMap {α : Type} (kind : EventKind) (f : α → List Event) (l : List α) :
    ofKind kind (l.flatMap f) = l.flatMap fun a => ofKind kind (f a) :=
  List.filter_flatMap

/-- Of what is recorded when an entity starts, one event tells that it does. -/
theorem ofKind_startEvents {kind : EventKind} (hkind : kind ≠ .other) (ctx : TierContext)
    (e : Entity) : ofKind kind (e.startEvents ctx) =
      if kind = .configuring then [.configuring e.name e.ip ctx.templateId] else [] := by
  have hdropped : ofKind kind ((e.unlistedDependencies ctx).map .droppedDependency) = [] := by
    rw [ofKind, List.filter_eq_nil_iff]
    intro event hevent
    obtain ⟨name, _, rfl⟩ := List.mem_map.mp hevent
    simpa [Event.kind, eq_comm] using hkind
  rw [Entity.startEvents, ofKind_cons, hdropped]
  simp [Event.kind, eq_comm]

/-- Among events, the warnings are the refusals and the errors the failed calls; a skipped entity
is a detail. -/
def Event.Graded (event : Event) : Prop :=
  (event.level = .warn ↔ event.kind = .refusal) ∧ (event.level = .error ↔ event.kind = .failure) ∧
    (event.kind = .skip → event.level = .debug)

/-- The position of the entity whose validation is asked for. -/
def Occurrence.validation? : Occurrence → Option Nat
  | .called _ (some index) (.validate ..) => some index
  | _ => none

/-- The position of the entity whose call has failed, with the error. -/
def Occurrence.failure? : Occurrence → Option (Nat × PlatformError)
  | .answered _ (some index) (.judged (.error source)) => some (index, source)
  | .answered _ (some index) (.created (.error source)) => some (index, source)
  | _ => none

/-- The failed call of an entity, by the position of the entity. -/
def Slot.fault? (slot : Slot) : Option (Nat × PlatformError) :=
  match slot.phase with
  | .failed source => some (slot.index, source)
  | _ => none

/-- The event for a call that failed for the entity at a position. -/
def Tier.failureEvent? (t : Tier) (fault : Nat × PlatformError) : Option Event :=
  t.entities.toList[fault.1]?.map fun e => .serviceFailure e.name t.name fault.2

namespace Trail

variable {platform : Platform} {ctx : TierContext} {dryRun : Bool} {slot : Slot}
  {trail : History}

/-- The validation of a finished entity is asked for once, unless it was skipped. -/
theorem filterMap_validation?
    (htrail : Trail platform ctx dryRun slot.index slot.entity slot.phase trail)
    (hfinal : slot.phase.isFinal = true) :
    trail.filterMap Occurrence.validation? = if slot.phase.isIdle then [] else [slot.index] := by
  generalize slot.phase = phase at htrail hfinal
  cases htrail <;>
    simp_all [List.filterMap_cons, Phase.isFinal, Phase.isIdle, Occurrence.validation?,
      Entity.validation, Entity.creation]

/-- A finished entity has one call that failed, or none. -/
theorem filterMap_failure?
    (htrail : Trail platform ctx dryRun slot.index slot.entity slot.phase trail)
    (hfinal : slot.phase.isFinal = true) :
    trail.filterMap Occurrence.failure? = slot.fault?.toList := by
  unfold Slot.fault?
  generalize slot.phase = phase at htrail hfinal
  cases htrail <;>
    simp_all [List.filterMap_cons, Phase.isFinal, Occurrence.failure?]

end Trail

namespace Slot

variable {slot : Slot} {ctx : TierContext} {dryRun : Bool} {tier : String}

theorem account_of_done {outcome : Outcome} (hphase : slot.phase = .done outcome) :
    slot.account ctx dryRun tier = outcome.event dryRun :: slot.entity.startEvents ctx := by
  simp [account, remarks, notice?, hphase]

theorem account_of_failed {source : PlatformError} (hphase : slot.phase = .failed source) :
    slot.account ctx dryRun tier =
      slot.entity.startEvents ctx ++ [.serviceFailure slot.entity.name tier source] := by
  simp [account, remarks, notice?, hphase]

theorem account_of_skipped (hphase : slot.phase = .skipped) :
    slot.account ctx dryRun tier = [.skipping slot.entity.name tier] := by
  simp [account, remarks, notice?, hphase]

/-- What has been recorded of each kind for a finished entity. -/
def entries (ctx : TierContext) (dryRun : Bool) (tier : String) (slot : Slot) :
    EventKind → List Event
  | .configuring => if slot.phase.isIdle then []
    else [.configuring slot.entity.name slot.entity.ip ctx.templateId]
  | .refusal => (slot.outcome?.toList.filter fun o => !o.isDeployed).map (Outcome.event dryRun)
  | .creation => (slot.outcome?.toList.filter Outcome.isDeployed).map (Outcome.event dryRun)
  | .failure => (slot.failure?.map fun (name, source) => .serviceFailure name tier source).toList
  | .skip => if slot.phase.isIdle then [.skipping slot.entity.name tier] else []
  | .done | .other => []

theorem ofKind_account {kind : EventKind} (hkind : kind ≠ .other)
    (hfinal : slot.phase.isFinal = true) :
    ofKind kind (slot.account ctx dryRun tier) = slot.entries ctx dryRun tier kind := by
  have hstart := ofKind_startEvents hkind ctx slot.entity
  cases hphase : slot.phase with
  | admitted => simp [hphase, Phase.isFinal] at hfinal
  | validating serial => simp [hphase, Phase.isFinal] at hfinal
  | instantiating serial => simp [hphase, Phase.isFinal] at hfinal
  | skipped =>
      rw [account_of_skipped hphase]
      cases kind <;> simp [entries, outcome?, failure?, hphase, Phase.isIdle, Event.kind]
  | failed source =>
      rw [account_of_failed hphase, ofKind_append, hstart]
      cases kind <;> simp_all [entries, outcome?, failure?, Phase.isIdle, Event.kind]
  | done outcome =>
      rw [account_of_done hphase, ofKind_cons, hstart]
      cases outcome <;> cases kind <;>
        simp_all [entries, outcome?, failure?, Phase.isIdle, Event.kind, Outcome.event,
          Outcome.isDeployed, List.filter_cons]

theorem graded_of_mem_account {event : Event} (hevent : event ∈ slot.account ctx dryRun tier) :
    event.Graded := by
  have hstart : ∀ event ∈ slot.entity.startEvents ctx, event.Graded := by
    intro event hevent
    rcases List.mem_cons.mp hevent with rfl | hdropped
    · simp [Event.Graded, Event.level, Event.kind]
    · obtain ⟨name, _, rfl⟩ := List.mem_map.mp hdropped
      simp [Event.Graded, Event.level, Event.kind]
  rcases List.mem_append.mp hevent with hremark | hnotice
  · unfold remarks at hremark
    split at hremark
    · contradiction
    · contradiction
    · exact hstart event hremark
    · exact hstart event hremark
    · exact hstart event hremark
    · rcases List.mem_cons.mp hremark with rfl | hremark
      · cases ‹Outcome› <;> simp [Outcome.event, Event.Graded, Event.level, Event.kind]
      · exact hstart event hremark
  · rw [Option.mem_toList] at hnotice
    unfold notice? at hnotice
    split at hnotice <;> cases hnotice <;> simp [Event.Graded, Event.level, Event.kind]

/-- A finished entity has an outcome, or is reported as failed or as skipped. -/
theorem length_entries {slots : List Slot} (hfinal : ∀ slot ∈ slots, slot.phase.isFinal = true)
    (ctx : TierContext) (dryRun : Bool) (tier : String) :
    slots.length = (slots.filterMap outcome?).length +
      (slots.flatMap fun slot => slot.entries ctx dryRun tier .failure).length +
      (slots.flatMap fun slot => slot.entries ctx dryRun tier .skip).length := by
  induction slots with
  | nil => rfl
  | cons slot rest ih =>
      have hrest := ih fun other hother => hfinal other (List.mem_cons_of_mem slot hother)
      have hslot := hfinal slot List.mem_cons_self
      cases hphase : slot.phase <;>
        simp_all [entries, outcome?, failure?, Phase.isFinal, Phase.isIdle] <;> omega

theorem index_of_fault {fault : Nat × PlatformError} (hfault : slot.fault? = some fault) :
    fault.1 = slot.index := by
  unfold fault? at hfault
  split at hfault <;> cases hfault
  rfl

end Slot

namespace TierRun

/-- The report a tier leaves behind, good or bad. -/
def reported : Except TierAborted TierReport → TierReport
  | .ok report => report
  | .error a => a.report

theorem reported_result (r : TierRun) : reported r.result = r.report := by
  unfold result
  cases r.failure <;> rfl

/-- The event recorded when a tier comes to a good end. -/
def ending (tier : Tier) : Except TierAborted TierReport → List Event
  | .ok report => [.tierDone tier.name report.deployed report.rejected report.totalRules]
  | .error _ => []

/-- How the events `own` a tier has recorded tell, up to their order, what has become of it.  The
entities at the positions before `count` were attempted. -/
structure Accounted (tier : Tier) (options : DeploymentOptions)
    (result : Except TierAborted TierReport) (log : History) (count : Nat) (own : List Event) :
    Prop where
  attempted : (log.filterMap Occurrence.validation?).Perm (List.range count)
  le_size : count ≤ tier.entities.size
  configuring : (ofKind .configuring own).Perm ((tier.entities.toList.take count).map fun e =>
    .configuring e.name e.ip (TierContext.ofTier tier).templateId)
  refusals : (ofKind .refusal own).Perm
    (((reported result).outcomes.filter fun o => !o.isDeployed).map fun o =>
      .validationFailed o.entity o.errors)
  creations : (ofKind .creation own).Perm
    (((reported result).outcomes.filter Outcome.isDeployed).map fun o =>
      .created options.dryRun o.ruleCount o.entity)
  /-- At most one call failed for each entity, and for none that was not attempted. -/
  faults : ((log.filterMap Occurrence.failure?).map Prod.fst).Nodup ∧
    ∀ fault ∈ log.filterMap Occurrence.failure?, fault.1 < count
  failures : (ofKind .failure own).Perm
    ((log.filterMap Occurrence.failure?).filterMap tier.failureEvent?)
  skips : (ofKind .skip own).Perm
    ((tier.entities.toList.drop count).map fun e => .skipping e.name tier.name)
  conserved : tier.entities.size = (reported result).outcomes.length +
    (ofKind .failure own).length + (ofKind .skip own).length
  done : ofKind .done own = ending tier result
  graded : ∀ event ∈ own, event.Graded

/-- What a tier is bound to record of its own: that it begins, the accounts of its entities, and
that it has come to a good end. -/
def ownEvents (tier : Tier) (dryRun : Bool) (slots : List Slot)
    (result : Except TierAborted TierReport) : List Event :=
  announcement tier :: slots.flatMap (Slot.account (.ofTier tier) dryRun tier.name) ++
    ending tier result

section Own

variable {tier : Tier} {dryRun : Bool} {slots : List Slot}
  {result : Except TierAborted TierReport} {kind : EventKind}

theorem ofKind_ending (tier : Tier) (result : Except TierAborted TierReport) (kind : EventKind) :
    ofKind kind (ending tier result) = if kind = .done then ending tier result else [] := by
  cases result with
  | ok report => simp [ending, Event.kind, eq_comm]
  | error a => simp [ending]

theorem ofKind_ownEvents (hfinal : ∀ slot ∈ slots, slot.phase.isFinal = true)
    (hkind : kind ≠ .other) :
    ofKind kind (ownEvents tier dryRun slots result) =
      (slots.flatMap fun slot => slot.entries (.ofTier tier) dryRun tier.name kind) ++
        if kind = .done then ending tier result else [] := by
  have hannouncement : ¬ (announcement tier).kind = kind := fun h => hkind (h ▸ rfl)
  have hslots : (slots.flatMap fun slot =>
      ofKind kind (slot.account (.ofTier tier) dryRun tier.name)) =
      slots.flatMap fun slot => slot.entries (.ofTier tier) dryRun tier.name kind :=
    List.flatMap_congr fun slot hslot => Slot.ofKind_account hkind (hfinal slot hslot)
  rw [ownEvents, ofKind_append, ofKind_cons, if_neg hannouncement, ofKind_flatMap, hslots,
    ofKind_ending]

/-- What is recorded with outcomes of one sort is recorded with those of the slots. -/
theorem flatMap_outcome? {p : Outcome → Bool} {event : Outcome → Event}
    (hevent : ∀ o, p o = true → o.event dryRun = event o) (slots : List Slot) :
    (slots.flatMap fun slot => (slot.outcome?.toList.filter p).map (Outcome.event dryRun)) =
      ((slots.filterMap Slot.outcome?).filter p).map event := by
  have hmap : ((slots.filterMap Slot.outcome?).filter p).map (Outcome.event dryRun) =
      ((slots.filterMap Slot.outcome?).filter p).map event :=
    List.map_congr_left fun o ho => hevent o (List.mem_filter.mp ho).2
  rw [← hmap, Recorded.filterMap_outcome?, List.map_flatMap]

theorem ofKind_refusal (hfinal : ∀ slot ∈ slots, slot.phase.isFinal = true) :
    ofKind .refusal (ownEvents tier dryRun slots result) =
      ((slots.filterMap Slot.outcome?).filter fun o => !o.isDeployed).map fun o =>
        .validationFailed o.entity o.errors := by
  have hevent : ∀ o : Outcome, (!o.isDeployed) = true →
      o.event dryRun = .validationFailed o.entity o.errors := by
    intro o ho
    cases o with
    | deployed entity templateId ruleCount => simp [Outcome.isDeployed] at ho
    | rejected entity templateId errors => rfl
  rw [ofKind_ownEvents hfinal (by decide), ← flatMap_outcome? hevent]
  exact List.append_nil _

theorem ofKind_creation (hfinal : ∀ slot ∈ slots, slot.phase.isFinal = true) :
    ofKind .creation (ownEvents tier dryRun slots result) =
      ((slots.filterMap Slot.outcome?).filter Outcome.isDeployed).map fun o =>
        .created dryRun o.ruleCount o.entity := by
  have hevent : ∀ o : Outcome, o.isDeployed = true →
      o.event dryRun = .created dryRun o.ruleCount o.entity := by
    intro o ho
    cases o with
    | deployed entity templateId ruleCount => rfl
    | rejected entity templateId errors => simp [Outcome.isDeployed] at ho
  rw [ofKind_ownEvents hfinal (by decide), ← flatMap_outcome? hevent]
  exact List.append_nil _

theorem ofKind_done (hfinal : ∀ slot ∈ slots, slot.phase.isFinal = true) :
    ofKind .done (ownEvents tier dryRun slots result) = ending tier result := by
  have hnone : (slots.flatMap fun slot =>
      slot.entries (.ofTier tier) dryRun tier.name .done) = [] :=
    List.flatMap_eq_nil_iff.mpr fun _ _ => rfl
  rw [ofKind_ownEvents hfinal (by decide), hnone]
  rfl

theorem ofKind_failure (hfinal : ∀ slot ∈ slots, slot.phase.isFinal = true)
    (henrolled : Enrolled tier slots []) :
    ofKind .failure (ownEvents tier dryRun slots result) =
      (slots.filterMap Slot.fault?).filterMap tier.failureEvent? := by
  have hslot : ∀ slot ∈ slots, slot.entries (.ofTier tier) dryRun tier.name .failure =
      (slot.fault?.bind tier.failureEvent?).toList := by
    intro slot hslot
    have hentity := (henrolled.seats_getElem? (henrolled.getElem?_index hslot)).2
    cases hphase : slot.phase <;>
      simp [Slot.entries, Slot.failure?, Slot.fault?, hphase, Tier.failureEvent?, hentity]
  rw [ofKind_ownEvents hfinal (by decide), List.flatMap_congr hslot, List.filterMap_filterMap,
    List.filterMap_eq_flatMap_toList]
  exact List.append_nil _

theorem graded_of_mem_ownEvents {event : Event}
    (hevent : event ∈ ownEvents tier dryRun slots result) : event.Graded := by
  rcases List.mem_append.mp hevent with hevent | hevent
  · rcases List.mem_cons.mp hevent with rfl | hevent
    · simp [announcement, Event.Graded, Event.level, Event.kind]
    · obtain ⟨slot, _, haccount⟩ := List.mem_flatMap.mp hevent
      exact Slot.graded_of_mem_account haccount
  · cases result with
    | ok report =>
        rw [List.mem_singleton.mp hevent]
        simp [Event.Graded, Event.level, Event.kind]
    | error a => contradiction

end Own

namespace Concluded

variable {platform : Platform} {options : DeploymentOptions} {tier : Tier} {before : History}
  {attempted passed : List Slot} {log : History} {r : TierRun}

theorem map_entity_eq_drop
    (hconcluded : Concluded platform options tier before attempted passed log r) :
    passed.map Slot.entity = tier.entities.toList.drop attempted.length := by
  rw [← hconcluded.all.map_entity, List.map_append]
  simp

/-- What the slots for which calls were made have each is what the attempted ones have. -/
theorem flatMap_not_isIdle {α : Type}
    (hconcluded : Concluded platform options tier before attempted passed log r) (f : Slot → α) :
    ((attempted ++ passed).flatMap fun slot => if slot.phase.isIdle then [] else [f slot]) =
      attempted.map f := by
  have hattempted : ∀ slot ∈ attempted, (if slot.phase.isIdle then [] else [f slot]) = [f slot] :=
    fun slot hslot => by simp [hconcluded.isIdle_of_mem hslot]
  have hpassed : ∀ slot ∈ passed, (if slot.phase.isIdle then [] else [f slot]) = [] :=
    fun slot hslot => by simp [hconcluded.isIdle_of_mem_passed hslot]
  rw [List.flatMap_append, List.flatMap_congr hattempted, List.flatMap_eq_nil_iff.mpr hpassed,
    ← List.map_eq_flatMap, List.append_nil]

/-- What the slots for which no call was made have each is what the passed ones have. -/
theorem flatMap_isIdle {α : Type}
    (hconcluded : Concluded platform options tier before attempted passed log r) (f : Slot → α) :
    ((attempted ++ passed).flatMap fun slot => if slot.phase.isIdle then [f slot] else []) =
      passed.map f := by
  have hattempted : ∀ slot ∈ attempted, (if slot.phase.isIdle then [f slot] else []) = [] :=
    fun slot hslot => by simp [hconcluded.isIdle_of_mem hslot]
  have hpassed : ∀ slot ∈ passed, (if slot.phase.isIdle then [f slot] else []) = [f slot] :=
    fun slot hslot => by simp [hconcluded.isIdle_of_mem_passed hslot]
  rw [List.flatMap_append, List.flatMap_eq_nil_iff.mpr hattempted, List.flatMap_congr hpassed,
    ← List.map_eq_flatMap, List.nil_append]

theorem map_index_eq_range
    (hconcluded : Concluded platform options tier before attempted passed log r) :
    attempted.map Slot.index = List.range attempted.length := by
  have hall := congrArg (List.take attempted.length) hconcluded.all.map_index
  rw [List.map_append, List.take_left' (by simp), List.take_range, List.length_append,
    Nat.min_eq_left (Nat.le_add_right ..)] at hall
  exact hall

/-- The validations of a tier are those of its attempted entities. -/
theorem validations_perm
    (hconcluded : Concluded platform options tier before attempted passed log r) :
    (log.filterMap Occurrence.validation?).Perm (List.range attempted.length) := by
  have htrails : ∀ slot ∈ attempted ++ passed,
      (History.about slot.index log).filterMap Occurrence.validation? =
        if slot.phase.isIdle then [] else [slot.index] := fun slot hslot =>
    (hconcluded.recorded.trail slot hslot).filterMap_validation?
      (hconcluded.sound.final slot hslot)
  have hperm := hconcluded.recorded.filterMap_perm hconcluded.all
    (show ∀ event, Occurrence.validation? (.noted event) = none from fun _ => rfl)
  rwa [List.flatMap_congr htrails, hconcluded.flatMap_not_isIdle,
    hconcluded.map_index_eq_range] at hperm

/-- The failed calls of a tier are those its entities have come to. -/
theorem failures_perm
    (hconcluded : Concluded platform options tier before attempted passed log r) :
    (log.filterMap Occurrence.failure?).Perm ((attempted ++ passed).filterMap Slot.fault?) := by
  have htrails : ∀ slot ∈ attempted ++ passed,
      (History.about slot.index log).filterMap Occurrence.failure? = slot.fault?.toList :=
    fun slot hslot => (hconcluded.recorded.trail slot hslot).filterMap_failure?
      (hconcluded.sound.final slot hslot)
  have hperm := hconcluded.recorded.filterMap_perm hconcluded.all
    (show ∀ event, Occurrence.failure? (.noted event) = none from fun _ => rfl)
  rwa [List.flatMap_congr htrails, ← List.filterMap_eq_flatMap_toList] at hperm

theorem faults_nodup
    (hconcluded : Concluded platform options tier before attempted passed log r) :
    (((attempted ++ passed).filterMap Slot.fault?).map Prod.fst).Nodup := by
  have hindexes : ((attempted ++ passed).map Slot.index).Nodup := by
    rw [hconcluded.all.map_index]
    exact List.nodup_range
  rw [List.Nodup, List.pairwise_map] at hindexes ⊢
  apply hindexes.filterMap
  intro first second hne fault hfault fault' hfault'
  rwa [Slot.index_of_fault hfault, Slot.index_of_fault hfault']

theorem fault_lt (hconcluded : Concluded platform options tier before attempted passed log r)
    {fault : Nat × PlatformError} (hfault : fault ∈ (attempted ++ passed).filterMap Slot.fault?) :
    fault.1 < attempted.length := by
  obtain ⟨slot, hslot, hfault⟩ := List.mem_filterMap.mp hfault
  rw [Slot.index_of_fault hfault]
  rcases List.mem_append.mp hslot with hattempted | hpassed
  · exact hconcluded.index_lt hattempted
  · simp [Slot.fault?, hconcluded.phase_of_mem_passed hpassed] at hfault

/-- What a tier that has come to its end has recorded accounts for it. -/
theorem accounted (hconcluded : Concluded platform options tier before attempted passed log r) :
    Accounted tier options r.result log attempted.length
      (ownEvents tier options.dryRun (attempted ++ passed) r.result) := by
  have hfinal := hconcluded.sound.final
  have houtcomes : (reported r.result).outcomes =
      (attempted ++ passed).filterMap Slot.outcome? := by
    rw [reported_result]
    exact hconcluded.sound.outcomes
  have hfailures := hconcluded.failures_perm
  constructor
  case attempted => exact hconcluded.validations_perm
  case le_size => exact hconcluded.attempted_of.le_size
  case configuring =>
    rw [ofKind_ownEvents hfinal (by decide), ← hconcluded.map_entity_eq_take, List.map_map]
    exact List.Perm.of_eq ((List.append_nil _).trans (hconcluded.flatMap_not_isIdle _))
  case refusals => rw [ofKind_refusal hfinal, houtcomes]
  case creations => rw [ofKind_creation hfinal, houtcomes]
  case faults =>
    exact ⟨(hfailures.map Prod.fst).nodup_iff.mpr hconcluded.faults_nodup,
      fun fault hfault => hconcluded.fault_lt (hfailures.mem_iff.mp hfault)⟩
  case failures =>
    rw [ofKind_failure hfinal hconcluded.all]
    exact (hfailures.filterMap _).symm
  case skips =>
    rw [ofKind_ownEvents hfinal (by decide), ← hconcluded.map_entity_eq_drop, List.map_map]
    exact List.Perm.of_eq ((List.append_nil _).trans (hconcluded.flatMap_isIdle _))
  case conserved =>
    have hlength := Slot.length_entries hfinal (.ofTier tier) options.dryRun tier.name
    rw [houtcomes, ofKind_ownEvents hfinal (by decide), ofKind_ownEvents hfinal (by decide),
      ← hconcluded.size_eq, ← List.length_append, hlength]
    simp
  case done => exact ofKind_done hfinal
  case graded => exact fun event hevent => graded_of_mem_ownEvents hevent

end Concluded

/-- No calls or answers are read off events. -/
theorem Accounted.noted {tier : Tier} {options : DeploymentOptions}
    {result : Except TierAborted TierReport} {log : History} {count : Nat} {own : List Event}
    (haccounted : Accounted tier options result log count own) (events : List Event) :
    Accounted tier options result (events.map .noted ++ log) count own := by
  have hvalidations : (events.map Occurrence.noted ++ log).filterMap Occurrence.validation? =
      log.filterMap Occurrence.validation? := by
    simp [Function.comp_def, Occurrence.validation?]
  have hfailures : (events.map Occurrence.noted ++ log).filterMap Occurrence.failure? =
      log.filterMap Occurrence.failure? := by
    simp [Function.comp_def, Occurrence.failure?]
  exact { haccounted with
    attempted := hvalidations ▸ haccounted.attempted
    faults := hfailures ▸ haccounted.faults
    failures := hfailures ▸ haccounted.failures }

theorem close_history_eq (r : TierRun) :
    r.close.history = (ending r.tier r.result).map .noted ++ r.history := by
  unfold close result
  cases r.failure <;> rfl

/-- For every platform and every order of moves, a tier can be brought to its end; and then the
events in its log are those that came with answers of the platform and its own ones.  Of its own it
has recorded one event for each validation asked for, one warning for each refusal and one event for
each creation in its report, one error for each call that failed, and one detail for each entity
that was not attempted; so all entities are accounted for.  That it is done is recorded exactly when
it has come to a good end. -/
theorem events_account (platform : Platform) (options : DeploymentOptions) (tier : Tier)
    (calls : Nat) (before : History) (schedule : List Nat) :
    let start := TierRun.start options tier calls before
    let r := start.run platform schedule
    (∃ later, (r.run platform later).isOver = true) ∧
    (r.isOver = true → ∃ log count own,
      r.close.history = log ++ before ∧
      (History.events log).Perm (own ++ start.heard platform schedule) ∧
      Accounted tier options r.result log count own) := by
  intro start r
  refine ⟨run_exists_isOver .., fun hover => ?_⟩
  obtain ⟨closed, log, hsound, hlogged⟩ :=
    (start_sound platform options tier calls before).run_logged
      (start_logged options tier calls before) schedule
  have hsettled : r.Settled := run_settled platform schedule (start_settled ..)
  obtain ⟨attempted, passed, rfl, hconcluded⟩ := hsound.exists_concluded hsettled hover
  have hevents : (History.events log).Perm
      (announcement tier :: (attempted ++ passed).flatMap
        (Slot.account (.ofTier tier) options.dryRun tier.name) ++
          start.heard platform schedule) := by
    unfold Logged at hlogged
    rwa [hconcluded.empty, List.flatMap_nil, List.append_nil, List.nil_append] at hlogged
  refine ⟨(ending tier r.result).map .noted ++ log, attempted.length,
    ownEvents tier options.dryRun (attempted ++ passed) r.result, ?_, ?_,
    hconcluded.accounted.noted _⟩
  · rw [close_history_eq, hsound.tier_eq, hsound.history_eq, List.append_assoc]
  · rw [History.events_append, History.events_notes, ownEvents]
    refine (hevents.append_left _).trans ?_
    rw [← List.append_assoc]
    exact List.perm_append_comm.append_right _

/-- Of three entities one is deployed, the call for the next fails, and the last is skipped. -/
theorem events_account_skipped :
    let start := TierRun.start Outage.single Outage.tier 0 []
    let r := start.run Outage.platform [0, 0, 0, 1, 1, 1, 2]
    r.isOver = true ∧ ∃ log count own, r.close.history = log ++ [] ∧
      (History.events log).Perm
        (own ++ start.heard Outage.platform [0, 0, 0, 1, 1, 1, 2]) ∧
      Accounted Outage.tier Outage.single r.result log count own ∧
      (ofKind .failure own).length + (ofKind .skip own).length = 2 := by
  intro start r
  have hover : r.isOver = true := by decide +kernel
  have houtcomes : (reported r.result).outcomes.length = 1 := by decide +kernel
  obtain ⟨log, count, own, hhistory, hevents, haccounted⟩ :=
    (events_account Outage.platform Outage.single Outage.tier 0 [] [0, 0, 0, 1, 1, 1, 2]).2 hover
  have hconserved : 3 = (reported r.result).outcomes.length + (ofKind .failure own).length +
      (ofKind .skip own).length := haccounted.conserved
  exact ⟨hover, log, count, own, hhistory, hevents, haccounted, by omega⟩

end TierRun

end PolicyRollout
