import PolicyRollout.Proofs.Deployment.Chronicle
import PolicyRollout.Proofs.Deployment.Completion
import PolicyRollout.Proofs.Deployment.Fates
import PolicyRollout.Proofs.Deployment.Shares
/-!
Plans and deployments.  With one entity at a time a deployment walks through the
plan of its topology entry by entry: it asks for the validation of each and, if
that is granted, right away for the instantiation.  With more of them at once
the entries attempted in a tier are still the first ones of its plan.
-/
namespace PolicyRollout

def Instantiation.validation (p : Instantiation) : Call :=
  .validate p.templateId p.vars

def Instantiation.creation (dryRun : Bool) (p : Instantiation) : Call :=
  .instantiate p.templateId p.vars (some p.switch) dryRun

def Call.isValidation : Call → Bool
  | .validate .. => true
  | _ => false

/-- The validation or instantiation an occurrence asks for. -/
def Occurrence.request? : Occurrence → Option Call
  | .called _ _ (.list ..) => none
  | .called _ _ call => some call
  | _ => none

/-- The validations and instantiations asked for, the earliest first. -/
def History.requests (h : History) : List Call :=
  (h.filterMap Occurrence.request?).reverse

/-- The validations asked for, the earliest first. -/
def History.validations (h : History) : List Call :=
  h.requests.filter Call.isValidation

/-- Requests that go through planned instantiations one after another: each is
validated, and some are asked for right after their validation. -/
inductive Follows (dryRun : Bool) : List Instantiation → List Call → Prop
  | none : Follows dryRun [] []
  | validated (p : Instantiation) {planned : List Instantiation} {requests : List Call}
      (hfollows : Follows dryRun planned requests) :
      Follows dryRun (p :: planned) (p.validation :: requests)
  | instantiated (p : Instantiation) {planned : List Instantiation} {requests : List Call}
      (hfollows : Follows dryRun planned requests) :
      Follows dryRun (p :: planned) (p.validation :: p.creation dryRun :: requests)

namespace Follows

variable {dryRun : Bool} {planned planned' : List Instantiation} {requests requests' : List Call}

theorem append (hfollows : Follows dryRun planned requests)
    (hfollows' : Follows dryRun planned' requests') :
    Follows dryRun (planned ++ planned') (requests ++ requests') := by
  induction hfollows with
  | none => exact hfollows'
  | validated p _ ih => exact .validated p ih
  | instantiated p _ ih => exact .instantiated p ih

theorem flatMap {α : Type} {l : List α} {f : α → List Instantiation} {g : α → List Call}
    (hfollows : ∀ a ∈ l, Follows dryRun (f a) (g a)) :
    Follows dryRun (l.flatMap f) (l.flatMap g) := by
  induction l with
  | nil => exact .none
  | cons a rest ih =>
      rw [List.flatMap_cons, List.flatMap_cons]
      exact (hfollows a List.mem_cons_self).append
        (ih fun b hb => hfollows b (List.mem_cons_of_mem a hb))

theorem filter_isValidation (hfollows : Follows dryRun planned requests) :
    requests.filter Call.isValidation = planned.map Instantiation.validation := by
  induction hfollows with
  | none => rfl
  | validated p _ ih =>
      rw [List.filter_cons_of_pos rfl, ih]
      rfl
  | instantiated p _ ih =>
      rw [List.filter_cons_of_pos rfl, List.filter_cons_of_neg (by simp [Instantiation.creation,
        Call.isValidation]), ih]
      rfl

end Follows

theorem Occurrence.request?_of_isGeneral {o : Occurrence} (hgeneral : o.isGeneral = true) :
    o.request? = none :=
  of_isGeneral (P := fun o => o.request? = none) (fun _ => rfl) (fun _ _ _ => rfl)
    (fun _ _ => rfl) hgeneral

section Trail

variable {platform : Platform} {ctx : TierContext} {dryRun : Bool} {index : Nat} {e : Entity}
  {phase : Phase} {trail : History}

/-- The requests for an entity that has started follow its planned instantiation. -/
theorem Trail.follows (htrail : Trail platform ctx dryRun index e phase trail)
    (hidle : phase.isIdle = false) : Follows dryRun [e.instantiation ctx] trail.requests := by
  have hvalidated : Follows dryRun [e.instantiation ctx] [e.validation ctx] :=
    .validated _ .none
  have hinstantiated : Follows dryRun [e.instantiation ctx]
      [e.validation ctx, e.creation ctx dryRun] := .instantiated _ .none
  cases htrail with
  | admitted => contradiction
  | skipped => contradiction
  | validating | unjudged | refused => exact hvalidated
  | instantiating | uncreated | deployed => exact hinstantiated

end Trail

section Tier

variable {platform : Platform} {options : DeploymentOptions} {tier : Tier} {calls : Nat}
  {slots started idle : List Slot} {waiting : List (Nat × Entity)} {log : History}

def Tier.planned (t : Tier) (slots : List Slot) : List Instantiation :=
  slots.map fun slot => slot.entity.instantiation (.ofTier t)

/-- The slots of a tier take its planned instantiations one by one. -/
theorem Enrolled.planned_prefix (henrolled : Enrolled tier (started ++ idle) waiting) :
    tier.planned started <+: tier.plan := by
  have hentities := henrolled.map_entity
  rw [List.map_append, List.append_assoc] at hentities
  have hprefix : started.map Slot.entity <+: tier.entities.toList := ⟨_, hentities⟩
  have hmap := hprefix.map (Entity.instantiation (.ofTier tier))
  rw [List.map_map] at hmap
  exact hmap

theorem Enrolled.planned_eq_plan (henrolled : Enrolled tier slots []) :
    tier.planned slots = tier.plan := by
  have hentities := henrolled.map_entity
  rw [List.map_nil, List.append_nil] at hentities
  rw [Tier.plan, ← hentities, List.map_map]
  rfl

/-- The requests for some slots, those of the first slot first. -/
def History.requestsOf (slots : List Slot) (log : History) : List Call :=
  slots.flatMap fun slot => requests (about slot.index log)

/-- Slot by slot, the requests of a tier follow the plan of those that have started. -/
theorem Recorded.follows
    (hrecorded : Recorded platform (.ofTier tier) options calls (started ++ idle) log)
    (hstarted : ∀ slot ∈ started, slot.phase.isIdle = false)
    (hidle : ∀ slot ∈ idle, slot.phase.isIdle = true) :
    Follows options.dryRun (tier.planned started) (log.requestsOf (started ++ idle)) := by
  have hnone : log.requestsOf idle = [] := by
    apply List.flatMap_eq_nil_iff.mpr
    intro slot hslot
    rw [(hrecorded.trail slot (List.mem_append_right _ hslot)).eq_nil_of_isIdle (hidle slot hslot)]
    rfl
  have hsome : log.requestsOf (started ++ idle) = log.requestsOf started := by
    rw [History.requestsOf, List.flatMap_append]
    exact (congrArg _ hnone).trans (List.append_nil _)
  rw [hsome, Tier.planned, List.map_eq_flatMap]
  apply Follows.flatMap
  intro slot hslot
  exact (hrecorded.trail slot (List.mem_append_left _ hslot)).follows (hstarted slot hslot)

theorem Recorded.requests_eq (hrecorded : Recorded platform (.ofTier tier) options calls slots log)
    (henrolled : Enrolled tier slots waiting) (hwindow : options.window = 1) :
    log.requests = log.requestsOf slots := by
  rw [History.requests, hrecorded.filterMap_eq henrolled (fun _ => rfl) hwindow,
    List.reverse_flatMap, List.reverse_reverse]
  rfl

theorem Recorded.requests_perm
    (hrecorded : Recorded platform (.ofTier tier) options calls slots log)
    (henrolled : Enrolled tier slots waiting) : log.requests.Perm (log.requestsOf slots) := by
  have hperm := hrecorded.filterMap_perm henrolled
    (show ∀ event, Occurrence.request? (.noted event) = none from fun _ => rfl)
  refine (List.reverse_perm _).trans (hperm.trans ?_)
  exact List.Perm.flatMap_left _ fun slot _ => (List.reverse_perm _).symm

/-- While at most one entity is in the window, the entities that have started come first. -/
theorem TierRun.Sound.exists_started {before : History} {closed : List Slot} {r : TierRun}
    (hsound : TierRun.Sound platform options tier before closed log r)
    (hone : r.window.length ≤ 1) :
    ∃ started idle, closed ++ r.window = started ++ idle ∧
      (∀ slot ∈ started, slot.phase.isIdle = false) ∧ ∀ slot ∈ idle, slot.phase.isIdle = true := by
  have horder := List.pairwise_append.mp hsound.flagged.order
  have hclosed : ∀ first ∈ closed, ∀ second ∈ closed ++ r.window,
      (first.skip = true → second.skip = true) →
      first.phase.isIdle = true → second.phase.isIdle = true := by
    intro first hfirst second hsecond hskips hidle
    have hmem := List.mem_append_left r.window hfirst
    have hfinal := hsound.final first hfirst
    -- An entity that was reported without a call was to be skipped, as are all behind it.
    have hskip : first.skip = true := by
      by_contra hnot
      have hactive := hsound.flagged.active first hmem (by simpa using hnot)
      exact hactive (Phase.eq_skipped hfinal hidle)
    exact hsound.flagged.idle second hsecond (hskips hskip)
  apply exists_cut (p := fun slot : Slot => slot.phase.isIdle)
  rw [List.pairwise_append]
  refine ⟨horder.1.imp_of_mem fun hfirst hsecond hskips =>
    hclosed _ hfirst _ (List.mem_append_left _ hsecond) hskips, ?_, ?_⟩
  · cases hwindow : r.window with
    | nil => exact .nil
    | cons slot rest =>
        have hrest : rest = [] := by
          rw [hwindow] at hone
          simpa using hone
        rw [hrest]
        exact List.pairwise_singleton _ slot
  · intro first hfirst second hsecond
    exact hclosed first hfirst second (List.mem_append_right _ hsecond)
      (horder.2.2 first hfirst second hsecond)

end Tier

/-- With one entity at a time the first entity that failed is the last that was attempted. -/
theorem TierRun.Concluded.exists_last {platform : Platform} {options : DeploymentOptions}
    {tier : Tier} {before : History} {attempted passed : List Slot} {log : History} {r : TierRun}
    (hconcluded : TierRun.Concluded platform options tier before attempted passed log r)
    (hwindow : options.window = 1) {entity : String} {source : PlatformError}
    (hfailure : r.failure = some (entity, source)) :
    ∃ slot, attempted.getLast? = some slot ∧ slot.entity.name = entity := by
  rw [hconcluded.failure_eq, List.findSome?_eq_some_iff] at hfailure
  obtain ⟨front, slot, back, hattempted, hslot, _⟩ := hfailure
  cases hphase : slot.phase with
  | failed cause =>
      have hname : slot.entity.name = entity := by
        simp only [Slot.failure?, hphase, Option.some_inj, Prod.mk.injEq] at hslot
        exact hslot.1
      have hget : attempted[front.length]? = some slot := by
        rw [hattempted]
        simp
      have hindex := (hconcluded.seats_getElem? hget).1
      have hmem : slot ∈ attempted ++ passed :=
        List.mem_append_left _ (List.mem_of_getElem? hget)
      have hfails : History.Fails front.length log := (hconcluded.sound.fails_iff _).mpr
        ⟨slot, hconcluded.mem_slots.mpr hmem, hindex, by rw [hphase]; rfl⟩
      have hlength := (hconcluded.lt_and_le_of_fails hfails).2
      -- What was attempted behind the failed entity would lie a whole window behind it.
      have hback : back = [] := by
        apply List.eq_nil_of_length_eq_zero
        rw [hattempted, hwindow, List.length_append, List.length_cons] at hlength
        omega
      refine ⟨slot, ?_, hname⟩
      rw [hattempted, hback, List.getLast?_concat]
  | _ => simp [Slot.failure?, hphase] at hslot

namespace Rollout

variable {platform : Platform} {options : DeploymentOptions} {stamp : RunStamp}
  {topology : Topology}

/-- The requests of a chapter go through the plan of its tier up to some entry:
the last one, or that of the entity that failed, once the tier has come to its end. -/
structure Chapter.Walks (dryRun : Bool) (c : Chapter) (planned : List Instantiation) : Prop where
  planned_prefix : planned <+: c.run.tier.plan
  follows : Follows dryRun planned c.log.requests
  complete : c.run.isOver = true → c.run.failure = none → planned = c.run.tier.plan
  last : c.run.isOver = true → ∀ entity source, c.run.failure = some (entity, source) →
    ∃ p, planned.getLast? = some p ∧ p.tier = c.run.tier.name ∧ p.entity = entity

/-- Before its end a tier has begun its first entities, since one at most is under way. -/
theorem Chapter.Told.exists_walk_of_not_isOver {c : Chapter} (htold : c.Told platform options)
    (hwindow : options.window = 1) (hover : c.run.isOver = false) :
    ∃ planned, c.Walks options.dryRun planned := by
  obtain ⟨before, closed, log, events, hsound, _, hlog⟩ := htold.exists_sound
  have hrecorded := hsound.recorded.notes events
  have henrolled := hsound.enrolled
  have hwidth := hsound.width
  rw [← hlog] at hrecorded
  rw [hwindow] at hwidth
  obtain ⟨started, idle, hslots, hstarted, hidle⟩ := hsound.exists_started hwidth
  rw [hslots] at hrecorded henrolled
  refine ⟨c.run.tier.planned started, henrolled.planned_prefix, ?_, ?_, ?_⟩
  · rw [hrecorded.requests_eq henrolled hwindow]
    exact hrecorded.follows hstarted hidle
  · simp [hover]
  · simp [hover]

theorem Chapter.Told.exists_walk_of_isOver {c : Chapter} (htold : c.Told platform options)
    (hwindow : options.window = 1) (hover : c.run.isOver = true) :
    ∃ planned, c.Walks options.dryRun planned := by
  obtain ⟨before, _, log, events, hsound, hsettled, hlog⟩ := htold.exists_sound
  obtain ⟨attempted, passed, hconcluded⟩ := hsound.concluded hsettled hover
  have hrecorded := hconcluded.recorded.notes events
  rw [← hlog] at hrecorded
  refine ⟨c.run.tier.planned attempted, hconcluded.all.planned_prefix, ?_, ?_, ?_⟩
  · rw [hrecorded.requests_eq hconcluded.all hwindow]
    exact hrecorded.follows (fun slot => hconcluded.isIdle_of_mem)
      fun slot => hconcluded.isIdle_of_mem_passed
  · intro _ hfailure
    have henrolled := hconcluded.all
    rw [hconcluded.passed_eq_nil (hconcluded.failure_eq_none_iff.mp hfailure),
      List.append_nil] at henrolled
    exact henrolled.planned_eq_plan
  · intro _ entity source hfailure
    obtain ⟨slot, hlast, hname⟩ := hconcluded.exists_last hwindow hfailure
    refine ⟨slot.entity.instantiation (.ofTier c.run.tier), ?_, rfl, hname⟩
    rw [Tier.planned, List.getLast?_map, hlast]
    rfl

theorem Chapter.Told.exists_walk {c : Chapter} (htold : c.Told platform options)
    (hone : options.entityConcurrency ≤ 1) : ∃ planned, c.Walks options.dryRun planned := by
  have hwindow : options.window = 1 := Nat.max_eq_left hone
  cases hover : c.run.isOver with
  | false => exact htold.exists_walk_of_not_isOver hwindow hover
  | true => exact htold.exists_walk_of_isOver hwindow hover

theorem Chapter.Told.attempted {c : Chapter} (htold : c.Told platform options)
    (hover : c.run.isOver = true) :
    ∃ count, (∀ index, History.Calls index c.log ↔ index < count) ∧
      c.log.validations.Perm ((c.run.tier.plan.take count).map Instantiation.validation) := by
  obtain ⟨before, _, log, events, hsound, hsettled, hlog⟩ := htold.exists_sound
  obtain ⟨attempted, passed, hconcluded⟩ := hsound.concluded hsettled hover
  have hrecorded := hconcluded.recorded.notes events
  rw [← hlog] at hrecorded
  refine ⟨attempted.length, ?_, ?_⟩
  · intro index
    rw [hlog, ← hconcluded.calls_iff index]
    simp [History.Calls]
  · have hplanned := List.prefix_iff_eq_take.mp hconcluded.all.planned_prefix
    rw [Tier.planned, List.length_map] at hplanned
    rw [← hplanned]
    have hfollows := hrecorded.follows (fun slot => hconcluded.isIdle_of_mem)
      fun slot => hconcluded.isIdle_of_mem_passed
    have hperm := (hrecorded.requests_perm hconcluded.all).filter Call.isValidation
    rw [hfollows.filter_isValidation] at hperm
    exact hperm

/-- Chapters whose tiers have been deployed follow the plans of their tiers. -/
theorem follows_of_passed {dryRun : Bool} {chapters : List Chapter}
    (hwalks : ∀ c ∈ chapters, ∃ planned, c.Walks dryRun planned)
    (hpassed : ∀ c ∈ chapters, c.run.isOver = true ∧ c.run.failure = none) :
    Follows dryRun (chapters.flatMap (·.run.tier.plan)) (chapters.flatMap (·.log.requests)) := by
  apply Follows.flatMap
  intro c hc
  obtain ⟨planned, hwalk⟩ := hwalks c hc
  obtain ⟨hover, hfailure⟩ := hpassed c hc
  rw [← hwalk.complete hover hfailure]
  exact hwalk.follows

theorem Cut.requests_eq {chapters : List Chapter} {history : History}
    (hcut : Cut platform options topology chapters history) :
    history.requests = chapters.flatMap (·.log.requests) := by
  rw [History.requests, hcut.filterMap_eq Occurrence.request?_of_isGeneral, List.reverse_flatMap,
    List.reverse_reverse]
  rfl

/-- How far the requests of a deployment go through the plan of its topology. -/
structure Walks (options : DeploymentOptions) (topology : Topology) (r : Rollout)
    (planned : List Instantiation) : Prop where
  planned_prefix : planned <+: topology.plan
  follows : Follows options.dryRun planned r.history.requests
  complete : ∀ report, r.result? = some (.ok report) → planned = topology.plan
  /-- A tier that is given up ends with the entry of the entity that is named. -/
  last : ∀ e tier, r.result? = some (.error e) → e.tier = some tier →
    ∃ p, planned.getLast? = some p ∧ p.tier = tier ∧ e.entity = some p.entity

theorem Chronicle.walks_nil {r : Rollout}
    (hchronicle : Chronicle platform options topology [] r) : Walks options topology r [] where
  planned_prefix := List.nil_prefix
  follows := by
    rw [hchronicle.requests_eq]
    exact .none
  complete := by
    intro report hresult
    have horder := (hchronicle.completed report hresult).1
    rw [Topology.plan, ← horder]
    rfl
  last := by
    intro e tier hresult htier
    rcases hchronicle.aborted e hresult with ⟨hnone, _⟩ | ⟨c, entity, hlast, _⟩
    · simp [htier] at hnone
    · simp at hlast

theorem Chronicle.walks_concat {r : Rollout} {front : List Chapter} {c : Chapter}
    {planned : List Instantiation}
    (hchronicle : Chronicle platform options topology (front ++ [c]) r)
    (hfront : Follows options.dryRun (front.flatMap (·.run.tier.plan))
      (front.flatMap (·.log.requests))) (hwalk : c.Walks options.dryRun planned) :
    Walks options topology r (front.flatMap (·.run.tier.plan) ++ planned) where
  planned_prefix := by
    obtain ⟨rest, hrest⟩ := hchronicle.order
    rw [Topology.plan, ← hrest, List.map_append, List.flatMap_append, List.flatMap_append,
      List.flatMap_map, List.append_assoc, List.prefix_append_right_inj]
    simpa using hwalk.planned_prefix.trans (List.prefix_append _ (rest.flatMap Tier.plan))
  follows := by
    rw [hchronicle.requests_eq, List.flatMap_append, List.flatMap_singleton]
    exact hfront.append hwalk.follows
  complete := by
    intro report hresult
    obtain ⟨horder, hfailure⟩ := hchronicle.completed report hresult
    have hover := (hchronicle.ended _ hresult).1
    rw [hwalk.complete (hover c (by simp)) (hfailure c (by simp)), Topology.plan, ← horder,
      List.flatMap_map, List.flatMap_append, List.flatMap_singleton]
  last := by
    intro e tier hresult htier
    rcases hchronicle.aborted e hresult with
      ⟨hnone, _⟩ | ⟨last, entity, hlast, hfailure, hname, hentity⟩
    · simp [htier] at hnone
    · have hover := (hchronicle.ended _ hresult).1
      rw [List.getLast?_concat, Option.some_inj] at hlast
      subst hlast
      obtain ⟨p, hp, hptier, hpentity⟩ := hwalk.last (hover c (by simp)) entity e.source hfailure
      refine ⟨p, ?_, ?_, ?_⟩
      · rw [List.getLast?_append, hp]
        rfl
      · rw [htier, Option.some_inj] at hname
        rw [hptier, hname]
      · rw [hentity, hpentity]

/-- With one entity at a time a deployment walks through its plan. -/
theorem Chronicle.exists_walk {r : Rollout} {chapters : List Chapter}
    (hchronicle : Chronicle platform options topology chapters r)
    (hone : options.entityConcurrency ≤ 1) : ∃ planned, Walks options topology r planned := by
  have hwalks : ∀ c ∈ chapters, ∃ planned, c.Walks options.dryRun planned := fun c hc =>
    (hchronicle.told c hc).exists_walk hone
  rcases List.eq_nil_or_concat' chapters with rfl | ⟨front, c, rfl⟩
  · exact ⟨[], hchronicle.walks_nil⟩
  · have hpassed := hchronicle.passed
    rw [List.dropLast_concat] at hpassed
    have hfront := follows_of_passed
      (fun other hother => hwalks other (List.mem_append_left _ hother)) hpassed
    obtain ⟨planned, hwalk⟩ := hwalks c (by simp)
    exact ⟨_, hchronicle.walks_concat hfront hwalk⟩

end Rollout

theorem Topology.plan_length (t : Topology) : t.plan.length = t.entityCount := by
  have hsizes : (t.deploymentOrder.map fun tier => tier.plan.length) =
      t.deploymentOrder.map fun tier => tier.entities.size :=
    List.map_congr_left fun tier _ => List.length_map _
  rw [plan, length_flatMap_eq_total, hsizes, entityCount]
  exact total_perm ((List.mergeSort_perm ..).map _)

/-- For every platform and every order of moves: the plan has an entry for each
entity.  With one entity at a time the requests of a deployment go through the
plan entry by entry, all of it if the deployment succeeds, and up to the entry
of the entity that is named if a tier is given up.  Whatever the width of the
window, the entries attempted in a tier that has come to its end are the first
ones of its plan. -/
theorem plan_agreement (platform : Platform) (options : DeploymentOptions) (stamp : RunStamp)
    (topology : Topology) (schedule : List Nat) :
    let r := (Rollout.start options stamp topology []).run platform schedule
    topology.plan.length = topology.entityCount ∧
    (options.entityConcurrency ≤ 1 → ∃ planned, Rollout.Walks options topology r planned ∧
      r.history.validations = planned.map Instantiation.validation) ∧
    (∃ chapters, Rollout.Chronicle platform options topology chapters r ∧
      ∀ c ∈ chapters, c.run.isOver = true → ∃ count,
        (∀ index, History.Calls index c.log ↔ index < count) ∧
        c.log.validations.Perm ((c.run.tier.plan.take count).map Instantiation.validation)) ∧
    ∃ later, (r.run platform later).result?.isSome = true := by
  intro r
  obtain ⟨chapters, hchronicle⟩ :=
    (Rollout.run_course platform options stamp topology schedule).exists_chronicle
  refine ⟨topology.plan_length, ?_, ⟨chapters, hchronicle, ?_⟩, Rollout.run_exists_result ..⟩
  · intro hone
    obtain ⟨planned, hwalks⟩ := hchronicle.exists_walk hone
    exact ⟨planned, hwalks, hwalks.follows.filter_isValidation⟩
  · intro c hc hover
    exact (hchronicle.told c hc).attempted hover

/-- A tier that is given up at its second entity has validated the first two. -/
theorem plan_agreement_second_entity :
    let r := (Rollout.start Outage.single Outage.stamp Outage.topology []).run Outage.platform
      [0, 0, 0, 1, 1, 1, 2]
    Outage.single.entityConcurrency ≤ 1 ∧ (∃ e, r.result? = some (.error e)) ∧
      ∃ planned, Rollout.Walks Outage.single Outage.topology r planned ∧
        r.history.validations = planned.map Instantiation.validation := by
  intro r
  have hresult : ((Rollout.start Outage.single Outage.stamp Outage.topology []).run
      Outage.platform [0, 0, 0, 1, 1, 1, 2]).result? = some (.error ⟨some "web", some "b",
        ⟨"run", false, "begin", some "end",
          [⟨"web", .web, "ls-web", [.deployed "a" "web-server" 1]⟩]⟩, .transport "down"⟩) := by
    decide +kernel
  have hagreement := plan_agreement Outage.platform Outage.single Outage.stamp Outage.topology
    [0, 0, 0, 1, 1, 1, 2]
  exact ⟨by decide, ⟨_, hresult⟩, hagreement.2.1 (by decide)⟩

end PolicyRollout
