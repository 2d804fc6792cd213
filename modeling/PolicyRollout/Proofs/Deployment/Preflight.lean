import PolicyRollout.Proofs.Deployment.ParallelRollouts
import PolicyRollout.Proofs.Deployment.ServiceErrors
import PolicyRollout.Proofs.Text.ByteOrder
/-!
The preflight.  A deployment that verifies its templates lists them first.  If they
cannot be listed, or one it needs is missing, nothing else is called.  Otherwise it goes
on as a deployment that verifies nothing, with every call made one later.
-/
namespace PolicyRollout

def Call.templateId? : Call → Option String
  | .list .. => none
  | .validate templateId _ => some templateId
  | .instantiate templateId .. => some templateId

/-- A template that a topology needs is not published. -/
def Topology.Misses (topology : Topology) (published : List TemplateDescriptor) (id : String) :
    Prop :=
  (∃ tier ∈ topology.tiers, tier.templateId = id) ∧ ∀ d ∈ published, d.id ≠ id

/-- Of the templates that are missing this one comes first by its bytes. -/
def Topology.MissesFirst (topology : Topology) (published : List TemplateDescriptor)
    (id : String) : Prop :=
  topology.Misses published id ∧ ∀ other, topology.Misses published other → other ≠ id →
    Text.encode id < Text.encode other

/-- What has happened, with every call made so many calls later. -/
def Occurrence.later (ahead : Nat) : Occurrence → Occurrence
  | .called serial entity call => .called (serial + ahead) entity call
  | .answered serial entity outturn => .answered (serial + ahead) entity outturn
  | .noted event => .noted event

/-- The listing of templates, and its answer. -/
def Rollout.listingExchange (published : List TemplateDescriptor) : History :=
  [.answered 0 none (.listed (.ok published)), .called 0 none Rollout.listing]

namespace Platform

/-- The platform answers other calls the same whether it has listed its templates before
or not. -/
def IgnoresListing (platform : Platform) (published : List TemplateDescriptor) : Prop :=
  ∀ (h h' : History) (serial : Nat) (call : Call), call.lists = false →
    h.exchanges = h'.exchanges.map (.later 1) ++ Rollout.listingExchange published →
      (platform h (serial + 1) call).result = (platform h' serial call).result

/-- The platform calls no template unknown that it publishes. -/
def Knows (platform : Platform) (published : List TemplateDescriptor) : Prop :=
  ∀ (call : Call) (id : String), platform.Gives call (.error (.unknownTemplate id)) →
    ∀ d ∈ published, call.templateId? ≠ some d.id

end Platform

/-- A deployment that has listed its templates beside one that has not. -/
def Comparison.relisted (dryRun : Bool) (published : List TemplateDescriptor) : Comparison where
  ahead := 1
  base := Rollout.listingExchange published
  dryRun
  dryRun' := dryRun
  alike := Eq
  alike_sound := by
    rintro o _ rfl
    exact .refl o

namespace Comparison

variable {dryRun : Bool} {published : List TemplateDescriptor} {h h' : History}

theorem Past.exchanges_eq (hpast : (relisted dryRun published).Past h h') :
    h.exchanges = h'.exchanges.map (.later 1) ++ Rollout.listingExchange published := by
  obtain ⟨later, heq, hpairs⟩ := hpast
  rw [heq]
  congr 1
  clear heq
  generalize h'.exchanges = earlier at hpairs
  induction hpairs with
  | nil => rfl
  | cons hpair _ ih =>
      rw [List.map_cons, ih]
      cases hpair with
      | called serial entity call => rfl
      | answered serial entity halike =>
          obtain rfl := halike
          rfl

/-- The listing is the first call, and the others follow. -/
theorem Past.made_relisted (hpast : (relisted dryRun published).Past h h') :
    h.made = h'.made.map (fun (serial, entity, call) => (serial + 1, entity, call)) ++
      [(0, none, Rollout.listing)] := by
  rw [← History.made_exchanges h, hpast.exchanges_eq, ← History.made_exchanges h']
  unfold History.made
  rw [List.filterMap_append, List.filterMap_map, List.map_filterMap]
  congr 1
  apply List.filterMap_congr
  intro o _
  cases o <;> rfl

end Comparison

namespace TierRun.InStep

variable {platform : Platform} {dryRun : Bool} {published : List TemplateDescriptor}
  {run run' : TierRun}

theorem meets (hignores : platform.IgnoresListing published)
    (hstep : run.InStep (.relisted dryRun published) run') (index : Nat) :
    (Comparison.relisted dryRun published).Meets ((run.slot? index).bind (run.answer? platform))
      ((run'.slot? index).bind (run'.answer? platform)) := by
  intro serial o o' hanswer hanswer'
  have hexchanges := hstep.past.exchanges_eq
  rw [hstep.slot?_eq] at hanswer
  obtain ⟨slot, hslot, hanswer'⟩ := Option.bind_eq_some_iff.mp hanswer'
  rw [hslot, Option.map_some, Option.bind_some] at hanswer
  unfold answer? at hanswer hanswer'
  rw [Slot.later_phase] at hanswer
  cases hphase : slot.phase with
  | validating first =>
      simp only [hphase, Phase.later, Option.some_inj, Prod.mk.injEq] at hanswer hanswer'
      obtain ⟨_, rfl⟩ := hanswer
      obtain ⟨_, rfl⟩ := hanswer'
      change Outturn.judged (platform run.history (first + 1)
        (.validate run.ctx.templateId (slot.entity.vars run.ctx))).result = _
      rw [hstep.ctx_eq]
      exact congrArg Outturn.judged (hignores _ _ first (run'.validation slot) rfl hexchanges)
  | instantiating first =>
      simp only [hphase, Phase.later, Option.some_inj, Prod.mk.injEq] at hanswer hanswer'
      obtain ⟨_, rfl⟩ := hanswer
      obtain ⟨_, rfl⟩ := hanswer'
      have hdryRun : run.options.dryRun = run'.options.dryRun :=
        hstep.dryRun.trans hstep.dryRun'.symm
      change Outturn.created (platform run.history (first + 1)
        (.instantiate run.ctx.templateId (slot.entity.vars run.ctx) (some run.ctx.switch)
          run.options.dryRun)).result = _
      rw [hstep.ctx_eq, hdryRun]
      exact congrArg Outturn.created
        (hignores _ _ first (run'.instantiation slot) rfl hexchanges)
  | _ => simp [hphase] at hanswer'

end TierRun.InStep

/-- An entity whose call failed was given the error by a call about its template. -/
theorem Trail.exists_gives {platform : Platform} {ctx : TierContext} {dryRun : Bool}
    {index : Nat} {e : Entity} {source : PlatformError} {trail : History}
    (htrail : Trail platform ctx dryRun index e (.failed source) trail) :
    ∃ call, call.templateId? = some ctx.templateId ∧ platform.Gives call (.error source) := by
  cases htrail with
  | unjudged _ hgives => exact ⟨e.validation ctx, rfl, hgives⟩
  | uncreated _ _ _ _ hfails => exact ⟨e.creation ctx dryRun, rfl, hfails⟩

/-- A tier was given up for an error that was given to a call about its template. -/
theorem TierRun.Concluded.exists_gives {platform : Platform} {options : DeploymentOptions}
    {tier : Tier} {before : History} {attempted passed : List Slot} {log : History} {r : TierRun}
    (hconcluded : Concluded platform options tier before attempted passed log r) {name : String}
    {source : PlatformError} (hfailure : r.failure = some (name, source)) :
    ∃ call, call.templateId? = some tier.templateId ∧ platform.Gives call (.error source) := by
  obtain ⟨index, slot, hget, hphase, _⟩ := hconcluded.exists_first_failed hfailure
  have htrail := hconcluded.recorded.trail slot
    (List.mem_append_left passed (List.mem_of_getElem? hget))
  rw [hphase] at htrail
  exact htrail.exists_gives

namespace Rollout

variable {platform : Platform} {options : DeploymentOptions} {stamp : RunStamp}
  {topology : Topology} {published : List TemplateDescriptor} {r : Rollout}

section Missing

theorem not_contains_iff {id : String} :
    (!(published.map (·.id)).contains id) = true ↔ ∀ d ∈ published, d.id ≠ id := by
  simp

theorem missingTemplate_eq_none_iff_misses :
    missingTemplate topology published = none ↔ ∀ id, ¬ topology.Misses published id := by
  rw [missingTemplate_eq_none_iff]
  constructor
  · rintro hall id ⟨⟨tier, htier, rfl⟩, hmissing⟩
    obtain ⟨d, hd, hid⟩ := hall tier htier
    exact hmissing d hd hid
  · intro hnone tier htier
    by_contra hmissing
    apply hnone tier.templateId
    refine ⟨⟨tier, htier, rfl⟩, fun d hd hid => hmissing ⟨d, hd, hid⟩⟩

theorem preflightError?_eq_none (hfine : missingTemplate topology published = none) :
    preflightError? topology (.ok published) = none := by
  rw [preflightError?, hfine]
  rfl

/-- The template a deployment is refused for is the first of those that are missing. -/
theorem missesFirst_of_missingTemplate {id : String}
    (hmissing : missingTemplate topology published = some id) :
    topology.MissesFirst published id := by
  rw [missingTemplate, List.find?_eq_some_iff_append] at hmissing
  obtain ⟨hid, front, back, hids, hfront⟩ := hmissing
  have hordered := topology.templateIds_ordered
  rw [hids] at hordered
  have hbehind := (List.pairwise_cons.mp (List.pairwise_append.mp hordered).2.1).1
  refine ⟨⟨?_, not_contains_iff.mp hid⟩, ?_⟩
  · apply Topology.mem_templateIds.mp
    rw [hids]
    exact List.mem_append_right _ List.mem_cons_self
  · rintro other ⟨hneeded, hother⟩ hne
    have hmem := Topology.mem_templateIds.mpr hneeded
    rw [hids] at hmem
    rcases List.mem_append.mp hmem with hearlier | hlater
    · have hpublished := hfront other hearlier
      rw [not_contains_iff.mpr hother] at hpublished
      contradiction
    · apply Text.encode_lt_iff.mpr
      exact hbehind other ((List.mem_cons.mp hlater).resolve_left hne)

end Missing

section Refused

/-- A deployment that lists its templates. -/
def verifying (options : DeploymentOptions) : DeploymentOptions :=
  { options with verifyTemplates := true }

/-- A deployment that lists nothing. -/
def trusting (options : DeploymentOptions) : DeploymentOptions :=
  { options with verifyTemplates := false }

theorem run_of_result? {result : Except DeploymentError Report} (hresult : r.result? = some result)
    (schedule : List Nat) : r.run platform schedule = r := by
  induction schedule with
  | nil => rfl
  | cons index rest ih =>
      have hmove : r.move platform index = r := by
        obtain ⟨_, _, _, _, stage, _, _⟩ := r
        cases stage with
        | listing _ => cases hresult
        | tier _ _ => cases hresult
        | _ => rfl
      change (r.move platform index).run platform rest = r
      rw [hmove]
      exact ih

/-- A deployment was given up when nothing had been called but the listing. -/
def RefusedFor (options : DeploymentOptions) (stamp : RunStamp) (source : PlatformError)
    (r : Rollout) : Prop :=
  r.history.made = [(0, none, listing)] ∧
    r.result? = some (.error ⟨none, none, finishedReport options stamp [], source⟩)

/-- The answer to the listing of templates. -/
def listingReply (platform : Platform) (options : DeploymentOptions) (stamp : RunStamp)
    (topology : Topology) : Reply (List TemplateDescriptor) :=
  platform (listingHistory options stamp topology) 0 listing

/-- The first move of a deployment that lists its templates brings the answer. -/
theorem run_verifying (platform : Platform) (options : DeploymentOptions) (stamp : RunStamp)
    (topology : Topology) (index : Nat) (schedule : List Nat) :
    (Rollout.start (verifying options) stamp topology []).run platform (index :: schedule) =
      ((Rollout.start (verifying options) stamp topology []).verify 0
        (listingReply platform options stamp topology)).run platform schedule :=
  rfl

theorem run_refusedFor {source : PlatformError}
    (hsource : preflightError? topology (listingReply platform options stamp topology).result =
      some source)
    (index : Nat) (schedule : List Nat) :
    ((Rollout.start (verifying options) stamp topology []).run platform
      (index :: schedule)).RefusedFor options stamp source := by
  rw [run_verifying, verify_of_preflightError hsource, run_of_result? rfl]
  refine ⟨?_, rfl⟩
  exact History.made_notes _ (listingHistory options stamp topology)

end Refused

section Trusted

/-- Nothing is listed by a deployment that need not verify its templates. -/
theorem Course.stage_ne_listing {options' : DeploymentOptions}
    (hcourse : Course platform options' stamp topology r)
    (hverify : options'.verifyTemplates = false) (serial : Nat) : r.stage ≠ .listing serial := by
  cases hcourse with
  | listing hlists => simp [hverify] at hlists
  | _ => simp

/-- Nothing but the listing and the number of calls tells the deployments apart. -/
theorem InStep.meets {r' : Rollout} (hignores : platform.IgnoresListing published)
    (hstep : r.InStep (.relisted options.dryRun published) r')
    (hcourse : Course platform (trusting options) stamp topology r') (index : Nat) :
    (Comparison.relisted options.dryRun published).Meets (r.answer? platform index)
      (r'.answer? platform index) := by
  have hstages := hstep.stages
  have hlisting := hcourse.stage_ne_listing rfl
  unfold answer?
  generalize r.stage = stage at hstages
  generalize r'.stage = stage' at hstages hlisting
  cases hstages with
  | listing serial => exact absurd rfl (hlisting serial)
  | tier hrun rest => exact hrun.meets hignores index
  | ended hagrees =>
      intro serial o o' hanswer _
      cases hanswer

theorem run_relisted (hignores : platform.IgnoresListing published)
    (hlisted : (listingReply platform options stamp topology).result = .ok published)
    (hfine : missingTemplate topology published = none) (index : Nat) (schedule : List Nat) :
    ((Rollout.start (verifying options) stamp topology []).run platform (index :: schedule)).InStep
      (.relisted options.dryRun published)
      ((Rollout.start (trusting options) stamp topology []).run platform schedule) := by
  rw [run_verifying]
  have hpreflight : preflightError? topology (listingReply platform options stamp topology).result =
      none := by
    rw [hlisted]
    exact preflightError?_eq_none hfine
  rw [verify_of_fine hpreflight]
  have hpast : (Comparison.relisted options.dryRun published).Past
      ((Rollout.start (verifying options) stamp topology []).heard 0
        (listingReply platform options stamp topology)).history
      [startNote options stamp topology] := by
    refine ⟨[], ?_, .nil⟩
    change History.exchanges (.answered 0 none (.listed _) ::
      (List.map .noted _ ++ listingHistory options stamp topology)) = _
    rw [hlisted, History.exchanges_answered, History.exchanges_append, History.exchanges_notes]
    rfl
  apply InStep.run
  · exact Abreast.begin ⟨rfl, rfl, rfl, rfl, rfl, rfl, hpast⟩
  · rintro front index back rfl hstep
    exact hstep.meets hignores (run_course platform (trusting options) stamp topology front) index

theorem result?_relisted (hignores : platform.IgnoresListing published)
    (hlisted : (listingReply platform options stamp topology).result = .ok published)
    (hfine : missingTemplate topology published = none) (index : Nat) (schedule : List Nat) :
    ((Rollout.start (verifying options) stamp topology []).run platform
        (index :: schedule)).result? =
      ((Rollout.start (trusting options) stamp topology []).run platform schedule).result? := by
  have hcourse := run_course platform (trusting options) stamp topology schedule
  have hstep := run_relisted hignores hlisted hfine index schedule
  rw [hstep.result?_eq (run_course platform (verifying options) stamp topology (index :: schedule))]
  cases hresult : ((Rollout.start (trusting options) stamp topology []).run platform
      schedule).result? with
  | none => rfl
  | some result => exact congrArg some (hcourse.rerun_eq hresult)

end Trusted

section Known

/-- A deployment whose templates are all published is given up for an error that was given
to a call about the template of a tier. -/
theorem Course.exists_gives (hcourse : Course platform options stamp topology r)
    {result : Except PlatformError (List TemplateDescriptor)} {serial : Nat} {entity : Option Nat}
    (hanswer : .answered serial entity (.listed result) ∈ r.history)
    (hfine : preflightError? topology result = none) {e : DeploymentError}
    (hresult : r.result? = some (.error e)) :
    ∃ tier ∈ topology.tiers, ∃ call, call.templateId? = some tier.templateId ∧
      platform.Gives call (.error e.source) := by
  cases hcourse with
  | listing => cases hresult
  | deploying => cases hresult
  | completed => cases hresult
  | refused hverify notes hgives hsource =>
      simp [listingHistory, startNote] at hanswer
      obtain ⟨_, _, rfl⟩ := hanswer
      cases hfine.symm.trans hsource
  | @aborted _ _ _ _ runs tier rest run a _ hopened hpassed horder hreached hover habort hreport =>
      cases hresult
      obtain ⟨attempted, passed, log, hconcluded⟩ := hreached.concluded hover
      obtain ⟨call, htemplate, hgives⟩ :=
        hconcluded.exists_gives (TierRun.result_eq_error_iff.mp habort).1
      have htier : tier ∈ topology.deploymentOrder := by
        rw [horder]
        exact List.mem_append_right _ List.mem_cons_self
      exact ⟨tier, List.mem_mergeSort.mp htier, call, htemplate, hgives⟩

/-- A platform that knows its templates does not end such a deployment for want of one. -/
theorem source_ne_unknownTemplate (hknows : platform.Knows published)
    (hlisted : (listingReply platform options stamp topology).result = .ok published)
    (hfine : missingTemplate topology published = none) (schedule : List Nat) {e : DeploymentError}
    (hresult : ((Rollout.start (verifying options) stamp topology []).run platform
      schedule).result? = some (.error e)) (id : String) : e.source ≠ .unknownTemplate id := by
  intro hsource
  cases schedule with
  | nil => cases hresult
  | cons index rest =>
      have hanswer : (Rollout.start (verifying options) stamp topology []).answer? platform index =
          some (0, .listed (listingReply platform options stamp topology).result) := rfl
      obtain ⟨entity, hmem⟩ := (start_course ..).answered_mem hanswer rest
      rw [hlisted] at hmem
      obtain ⟨tier, htier, call, htemplate, hgives⟩ :=
        (run_course platform (verifying options) stamp topology (index :: rest)).exists_gives hmem
          (preflightError?_eq_none hfine) hresult
      obtain ⟨d, hd, hid⟩ := missingTemplate_eq_none_iff.mp hfine tier htier
      rw [hsource] at hgives
      exact hknows call id hgives d hd (hid ▸ htemplate)

end Known

theorem made_verifying (platform : Platform) (options : DeploymentOptions) (stamp : RunStamp)
    (topology : Topology) (schedule : List Nat) :
    ∃ later, ((Rollout.start (verifying options) stamp topology []).run platform
        schedule).history.made = later ++ [(0, none, listing)] ∧
      ∀ entry ∈ later, entry.2.2.lists = false := by
  obtain ⟨added, hrun, hadded⟩ :=
    (start_course platform (verifying options) stamp topology).run_history schedule
  refine ⟨History.made added, ?_, ?_⟩
  · rw [hrun, History.made, List.filterMap_append]
    rfl
  · rintro ⟨serial, entity, call⟩ hentry
    obtain ⟨o, ho, hmade⟩ := List.mem_filterMap.mp hentry
    cases o with
    | called =>
        cases hmade
        exact hadded _ ho
    | answered => cases hmade
    | noted => cases hmade

/-- A deployment that verifies its templates lists them first and once.  If that fails, or
a template is missing, nothing else is called and nothing is deployed; the deployment is
refused for the error, or for the missing template that comes first by its bytes.  If none
is, and the platform does not care whether it has been asked, the deployment goes on like
one that verifies nothing, and it comes to the same; if the platform knows its templates
the deployment is not given up for an unknown one. -/
theorem preflight (platform : Platform) (options : DeploymentOptions) (stamp : RunStamp)
    (topology : Topology) :
    let verified := fun schedule =>
      (Rollout.start (verifying options) stamp topology []).run platform schedule
    let trusted := fun schedule =>
      (Rollout.start (trusting options) stamp topology []).run platform schedule
    let listed := (listingReply platform options stamp topology).result
    (∀ schedule, ∃ later,
      (verified schedule).history.made = later ++ [(0, none, .list none [])] ∧
      ∀ entry ∈ later, entry.2.2.lists = false) ∧
    (∀ source, listed = .error source →
      ∀ index schedule, (verified (index :: schedule)).RefusedFor options stamp source) ∧
    ∀ published, listed = .ok published →
      ((∃ id, topology.Misses published id) → ∃ id, topology.MissesFirst published id ∧
        ∀ index schedule,
          (verified (index :: schedule)).RefusedFor options stamp (.unknownTemplate id)) ∧
      ((∀ id, ¬ topology.Misses published id) →
        (platform.IgnoresListing published → ∀ index schedule,
          (verified (index :: schedule)).history.made =
            (trusted schedule).history.made.map
              (fun (serial, entity, call) => (serial + 1, entity, call)) ++
                [(0, none, .list none [])] ∧
          (verified (index :: schedule)).result? = (trusted schedule).result?) ∧
        (platform.Knows published → ∀ schedule e id,
          (verified schedule).result? = some (.error e) → e.source ≠ .unknownTemplate id)) := by
  intro verified trusted listed
  refine ⟨made_verifying platform options stamp topology, ?_, ?_⟩
  · intro source hlisted index schedule
    have hreply : (listingReply platform options stamp topology).result = .error source := hlisted
    apply run_refusedFor
    rw [hreply]
    rfl
  · intro published hlisted
    have hreply : (listingReply platform options stamp topology).result = .ok published := hlisted
    constructor
    · rintro ⟨id, hmisses⟩
      cases hmissing : missingTemplate topology published with
      | none => exact absurd hmisses (missingTemplate_eq_none_iff_misses.mp hmissing id)
      | some first =>
          refine ⟨first, missesFirst_of_missingTemplate hmissing, fun index schedule => ?_⟩
          apply run_refusedFor
          rw [hreply, preflightError?, hmissing]
          rfl
    · intro hnone
      have hfine := missingTemplate_eq_none_iff_misses.mpr hnone
      constructor
      · intro hignores index schedule
        have hmade := (run_relisted hignores hreply hfine index schedule).past.made_relisted
        exact ⟨hmade, result?_relisted hignores hreply hfine index schedule⟩
      · intro hknows schedule e id hresult
        exact source_ne_unknownTemplate hknows hreply hfine schedule hresult id

end Rollout

namespace Catalogue

def published (ids : List String) : List TemplateDescriptor :=
  ids.map fun id => ⟨id, id, "", "", [], [], [], []⟩

/-- A platform with a list of templates, which knows no others. -/
def platform (ids : List String) : Platform := fun _ _ call =>
  match call with
  | .list .. => ⟨.ok (published ids), []⟩
  | .validate id _ =>
    ⟨if ids.contains id then .ok .accepted else .error (.unknownTemplate id), []⟩
  | .instantiate id .. =>
    ⟨if ids.contains id then .ok (.ofRules [.null]) else .error (.unknownTemplate id), []⟩

theorem platform_ignoresListing (ids : List String) :
    (platform ids).IgnoresListing (published ids) :=
  fun _ _ _ _ _ _ => rfl

theorem platform_knows (ids : List String) : (platform ids).Knows (published ids) := by
  rintro call id ⟨h, serial, hgives⟩ d hd
  obtain ⟨own, hown, rfl⟩ := List.mem_map.mp hd
  cases call with
  | list category tags => cases hgives
  | validate templateId vars =>
      rintro ⟨rfl⟩
      simp [platform, hown] at hgives
  | instantiate templateId vars switch dryRun =>
      rintro ⟨rfl⟩
      simp [platform, hown] at hgives

/-- Web servers with a template of their own. -/
def topology : Topology :=
  ⟨[⟨"jump", "ls-jump", none, some "Bastion", .servers [Outage.server "a" true]⟩]⟩

def options : DeploymentOptions := ⟨false, 1, false⟩

def stamp : RunStamp := ⟨"run", "begin", "end"⟩

/-- A platform that lists nothing. -/
def silent : Platform := fun _ _ call =>
  match call with
  | .list .. => ⟨.error (.transport "down"), []⟩
  | .validate .. => ⟨.ok .accepted, []⟩
  | .instantiate .. => ⟨.ok (.ofRules [.null]), []⟩

def verified (platform : Platform) (schedule : List Nat) : Rollout :=
  (Rollout.start (Rollout.verifying options) stamp topology []).run platform schedule

def trusted (platform : Platform) (schedule : List Nat) : Rollout :=
  (Rollout.start (Rollout.trusting options) stamp topology []).run platform schedule

theorem topology_misses_bastion : topology.Misses (published []) "Bastion" := by
  refine ⟨⟨_, List.mem_cons_self, rfl⟩, ?_⟩
  intro d hd
  cases hd

theorem preflight_catalogue :
    (verified silent [0, 0]).RefusedFor options stamp (.transport "down") ∧
    (∃ id, topology.MissesFirst (published []) id ∧
      (verified (platform []) [0, 0]).RefusedFor options stamp (.unknownTemplate id)) ∧
    (verified (platform ["Bastion"]) [0, 0, 0, 0]).history.made =
      (trusted (platform ["Bastion"]) [0, 0, 0]).history.made.map
        (fun (serial, entity, call) => (serial + 1, entity, call)) ++ [(0, none, .list none [])] ∧
    (verified (platform ["Bastion"]) [0, 0, 0, 0]).result? =
      some (.ok ⟨"run", false, "begin", some "end",
        [⟨"jump", .web, "ls-jump", [.deployed "a" "Bastion" 1]⟩]⟩) ∧
    ∀ schedule e id, (verified (platform ["Bastion"]) schedule).result? = some (.error e) →
      e.source ≠ .unknownTemplate id := by
  have hrefused := (Rollout.preflight silent options stamp topology).2.1 _ rfl 0 [0]
  obtain ⟨id, hfirst, hunknown⟩ :=
    ((Rollout.preflight (platform []) options stamp topology).2.2 _ rfl).1
      ⟨_, topology_misses_bastion⟩
  have hnone : ∀ id, ¬ topology.Misses (published ["Bastion"]) id :=
    Rollout.missingTemplate_eq_none_iff_misses.mp (by decide +kernel)
  obtain ⟨htrusted, hknown⟩ :=
    ((Rollout.preflight (platform ["Bastion"]) options stamp topology).2.2 _ rfl).2 hnone
  obtain ⟨hmade, hresult⟩ := htrusted (platform_ignoresListing _) 0 [0, 0, 0]
  have hdeployed : (trusted (platform ["Bastion"]) [0, 0, 0]).result? =
      some (.ok ⟨"run", false, "begin", some "end",
        [⟨"jump", .web, "ls-jump", [.deployed "a" "Bastion" 1]⟩]⟩) := by
    decide +kernel
  exact ⟨hrefused, ⟨id, hfirst, hunknown 0 [0]⟩, hmade, hresult.trans hdeployed,
    hknown (platform_knows _)⟩

end Catalogue

end PolicyRollout
