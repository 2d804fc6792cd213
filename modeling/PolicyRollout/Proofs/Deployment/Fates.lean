import Mathlib.Data.Nat.Find
import PolicyRollout.Proofs.Deployment.WindowDiscipline
/-!
Platforms whose answer to a call depends on the call alone.  With such a
platform every entity has a fate that no order of moves can change, and a run of
a tier that is over has taken down the fates of the entities it attempted.
-/
namespace PolicyRollout

/-- A platform answers every call, at every moment, by a fixed table. -/
def Platform.Answers (platform : Platform)
    (answer : (call : Call) → Except PlatformError call.Result) : Prop :=
  ∀ history serial call, (platform history serial call).result = answer call

theorem Platform.Answers.eq_of_gives {platform : Platform}
    {answer : (call : Call) → Except PlatformError call.Result} (hanswers : platform.Answers answer)
    {call : Call} {result : Except PlatformError call.Result}
    (hgives : platform.Gives call result) :
    answer call = result := by
  obtain ⟨history, serial, rfl⟩ := hgives
  exact (hanswers history serial call).symm

/-- What becomes of an entity of a tier that is attempted. -/
def Entity.fate (answer : (call : Call) → Except PlatformError call.Result) (ctx : TierContext)
    (dryRun : Bool) (e : Entity) : Except PlatformError Outcome := do
  let verdict : Verdict ← answer (e.validation ctx)
  if verdict.valid then
    let creation : Creation ← answer (e.creation ctx dryRun)
    return .deployed e.name ctx.templateId creation.ruleCount
  else return .rejected e.name ctx.templateId verdict.errors

def Tier.fates (answer : (call : Call) → Except PlatformError call.Result) (dryRun : Bool)
    (t : Tier) : List (Except PlatformError Outcome) :=
  t.entities.toList.map (Entity.fate answer (.ofTier t) dryRun)

/-- No call for any entity of a tier fails. -/
def Tier.Fine (answer : (call : Call) → Except PlatformError call.Result) (dryRun : Bool)
    (t : Tier) : Prop :=
  ∀ e ∈ t.entities.toList, ∃ outcome, e.fate answer (.ofTier t) dryRun = .ok outcome

/-- The first entity of a tier for which a call fails, with its error. -/
structure Tier.FailsAt (answer : (call : Call) → Except PlatformError call.Result) (dryRun : Bool)
    (t : Tier) (index : Nat) (e : Entity) (source : PlatformError) : Prop where
  entity : t.entities.toList[index]? = some e
  fate : e.fate answer (.ofTier t) dryRun = .error source
  first : ∀ earlier < index, ∀ e', t.entities.toList[earlier]? = some e' →
    ∃ outcome, e'.fate answer (.ofTier t) dryRun = .ok outcome

/-- The outcome a fate comes to, if any. -/
def outcomeOf : Except PlatformError Outcome → Option Outcome
  | .ok outcome => some outcome
  | .error _ => none

section

variable {platform : Platform} {answer : (call : Call) → Except PlatformError call.Result}
  {ctx : TierContext} {dryRun : Bool} {index : Nat} {e : Entity} {trail : History}

theorem Trail.fate_of_done (hanswers : platform.Answers answer) {outcome : Outcome}
    (htrail : Trail platform ctx dryRun index e (.done outcome) trail) :
    e.fate answer ctx dryRun = .ok outcome := by
  cases htrail with
  | refused serial hgives hvalid =>
      have hverdict := hanswers.eq_of_gives hgives
      simp [Entity.fate, hverdict, hvalid, bind, Except.bind, pure, Except.pure]
  | deployed serial second hgives hvalid hcreates =>
      have hverdict := hanswers.eq_of_gives hgives
      have hcreation := hanswers.eq_of_gives hcreates
      simp [Entity.fate, hverdict, hvalid, hcreation, bind, Except.bind, pure, Except.pure]

theorem Trail.fate_of_failed (hanswers : platform.Answers answer) {source : PlatformError}
    (htrail : Trail platform ctx dryRun index e (.failed source) trail) :
    e.fate answer ctx dryRun = .error source := by
  cases htrail with
  | unjudged serial hgives =>
      have hverdict := hanswers.eq_of_gives hgives
      simp [Entity.fate, hverdict, bind, Except.bind]
  | uncreated serial second hgives hvalid hfails =>
      have hverdict := hanswers.eq_of_gives hgives
      have hcreation := hanswers.eq_of_gives hfails
      simp [Entity.fate, hverdict, hvalid, hcreation, bind, Except.bind]

end

/-- Either no entity of a tier fails, or there is a first one that does. -/
theorem Tier.fine_or_failsAt (answer : (call : Call) → Except PlatformError call.Result)
    (dryRun : Bool) (t : Tier) :
    t.Fine answer dryRun ∨ ∃ index e source, t.FailsAt answer dryRun index e source := by
  classical
  by_cases hfails : ∃ (index : Nat) (e : Entity) (source : PlatformError),
      t.entities.toList[index]? = some e ∧ e.fate answer (.ofTier t) dryRun = .error source
  · right
    obtain ⟨e, source, hentity, hfate⟩ := Nat.find_spec hfails
    refine ⟨Nat.find hfails, e, source, hentity, hfate, ?_⟩
    intro earlier hearlier e' hentity'
    cases hfate' : e'.fate answer (.ofTier t) dryRun with
    | ok outcome => exact ⟨outcome, rfl⟩
    | error source' => exact absurd ⟨e', source', hentity', hfate'⟩ (Nat.find_min hfails hearlier)
  · left
    intro e he
    obtain ⟨index, hindex⟩ := List.mem_iff_getElem?.mp he
    cases hfate : e.fate answer (.ofTier t) dryRun with
    | ok outcome => exact ⟨outcome, rfl⟩
    | error source => exact absurd ⟨index, e, source, hindex, hfate⟩ hfails

namespace Outage

/-- The answers of a platform on which web servers without a login cannot be created. -/
def table : (call : Call) → Except PlatformError call.Result
  | .list .. => .ok []
  | .validate .. => .ok .accepted
  | .instantiate _ (.webServer v) .. =>
    if v.enableSsh then .ok (.ofRules [.null]) else .error (.transport "down")
  | .instantiate .. => .ok (.ofRules [])

def platform : Platform := fun _ _ call => ⟨table call, []⟩

def server (name : String) (login : Bool) : Server := ⟨name, "10.0.0.1", none, some login, none⟩

/-- The second and the third of three web servers cannot be created. -/
def tier : Tier :=
  ⟨"web", "ls-web", none, none, .servers [server "a" true, server "b" false, server "c" false]⟩

def topology : Topology := ⟨[tier]⟩

def stamp : RunStamp := ⟨"run", "begin", "end"⟩

def single : DeploymentOptions := ⟨false, 1, false⟩

def triple : DeploymentOptions := ⟨false, 3, false⟩

example : tier.fates table false =
    [.ok (.deployed "a" "web-server" 1), .error (.transport "down"), .error (.transport "down")] :=
  rfl

end Outage

namespace TierRun.Concluded

variable {platform : Platform} {options : DeploymentOptions} {tier : Tier} {before : History}
  {attempted passed : List Slot} {log : History} {r : TierRun}
  {answer : (call : Call) → Except PlatformError call.Result}

theorem phase_of_fate (hconcluded : Concluded platform options tier before attempted passed log r)
    (hanswers : platform.Answers answer) {slot : Slot} (hslot : slot ∈ attempted) :
    (∃ outcome, slot.phase = .done outcome ∧
      slot.entity.fate answer (.ofTier tier) options.dryRun = .ok outcome) ∨
    ∃ source, slot.phase = .failed source ∧
      slot.entity.fate answer (.ofTier tier) options.dryRun = .error source := by
  have htrail := hconcluded.sound.recorded.trail slot
    (hconcluded.mem_slots.mpr (List.mem_append_left _ hslot))
  rcases hconcluded.phase_of_mem hslot with ⟨outcome, hphase⟩ | ⟨source, hphase⟩
  · rw [hphase] at htrail
    exact Or.inl ⟨outcome, hphase, htrail.fate_of_done hanswers⟩
  · rw [hphase] at htrail
    exact Or.inr ⟨source, hphase, htrail.fate_of_failed hanswers⟩

/-- An entity that was passed over is skipped. -/
theorem phase_of_mem_passed
    (hconcluded : Concluded platform options tier before attempted passed log r) {slot : Slot}
    (hslot : slot ∈ passed) : slot.phase = .skipped := by
  have hmem := List.mem_append_right attempted hslot
  have hfinal := hconcluded.sound.final slot hmem
  have hidle := hconcluded.sound.flagged.idle slot (hconcluded.mem_slots.mpr hmem)
    (hconcluded.idle slot hslot)
  exact Phase.eq_skipped hfinal hidle

theorem isIdle_of_mem_passed
    (hconcluded : Concluded platform options tier before attempted passed log r) {slot : Slot}
    (hslot : slot ∈ passed) : slot.phase.isIdle = true := by
  rw [hconcluded.phase_of_mem_passed hslot]
  rfl

theorem outcomes_eq (hconcluded : Concluded platform options tier before attempted passed log r) :
    r.outcomes = attempted.filterMap Slot.outcome? := by
  have hpassed : passed.filterMap Slot.outcome? = [] := by
    rw [List.filterMap_eq_nil_iff]
    intro slot hslot
    simp [Slot.outcome?, hconcluded.phase_of_mem_passed hslot]
  rw [hconcluded.sound.outcomes, List.filterMap_append, hpassed, List.append_nil]

theorem failure_eq (hconcluded : Concluded platform options tier before attempted passed log r) :
    r.failure = attempted.findSome? Slot.failure? := by
  have hpassed : passed.findSome? Slot.failure? = none := by
    rw [List.findSome?_eq_none_iff]
    intro slot hslot
    simp [Slot.failure?, hconcluded.phase_of_mem_passed hslot]
  rw [hconcluded.sound.failure, List.findSome?_append, hpassed, Option.or_none]

/-- The attempted entities are the first ones of the tier. -/
theorem map_entity_eq_take
    (hconcluded : Concluded platform options tier before attempted passed log r) :
    attempted.map Slot.entity = tier.entities.toList.take attempted.length := by
  rw [← hconcluded.all.map_entity, List.map_append]
  simp

/-- The outcomes of a run are the fates of the attempted entities that come to one. -/
theorem outcomes_eq_fates
    (hconcluded : Concluded platform options tier before attempted passed log r)
    (hanswers : platform.Answers answer) :
    r.outcomes =
      ((tier.fates answer options.dryRun).take attempted.length).filterMap outcomeOf := by
  have hslot : ∀ slot ∈ attempted, slot.outcome? =
      outcomeOf (slot.entity.fate answer (.ofTier tier) options.dryRun) := by
    intro slot hslot
    rcases hconcluded.phase_of_fate hanswers hslot with
      ⟨outcome, hphase, hfate⟩ | ⟨source, hphase, hfate⟩
    · simp [Slot.outcome?, hphase, hfate, outcomeOf]
    · simp [Slot.outcome?, hphase, hfate, outcomeOf]
  rw [hconcluded.outcomes_eq, List.filterMap_congr hslot, Tier.fates, ← List.map_take,
    ← hconcluded.map_entity_eq_take, List.map_map, List.filterMap_map]
  rfl

theorem report_eq (hconcluded : Concluded platform options tier before attempted passed log r)
    (hanswers : platform.Answers answer) :
    r.report = ⟨tier.name, tier.kind, tier.switch,
      ((tier.fates answer options.dryRun).take attempted.length).filterMap outcomeOf⟩ := by
  rw [← hconcluded.outcomes_eq_fates hanswers, ← hconcluded.sound.tier_eq]
  rfl

/-- An attempted entity failed if its fate is an error. -/
theorem fails_of_fate (hconcluded : Concluded platform options tier before attempted passed log r)
    (hanswers : platform.Answers answer) {index : Nat} (hfails : History.Fails index log) :
    ∃ e source, index < attempted.length ∧ tier.entities.toList[index]? = some e ∧
      e.fate answer (.ofTier tier) options.dryRun = .error source := by
  obtain ⟨slot, hslot, rfl, hfailed⟩ := (hconcluded.sound.fails_iff index).mp hfails
  rcases List.mem_append.mp (hconcluded.mem_slots.mp hslot) with hattempted | hpassed
  · have hget := hconcluded.all.getElem?_index (List.mem_append_left _ hattempted)
    rcases hconcluded.phase_of_fate hanswers hattempted with
      ⟨outcome, hphase, _⟩ | ⟨source, _, hfate⟩
    · simp [hphase, Phase.isFailed] at hfailed
    · exact ⟨slot.entity, source, hconcluded.index_lt hattempted,
        (hconcluded.all.seats_getElem? hget).2, hfate⟩
  · simp [hconcluded.phase_of_mem_passed hpassed, Phase.isFailed] at hfailed

/-- No failure is reported exactly when no call failed. -/
theorem failure_eq_none_iff
    (hconcluded : Concluded platform options tier before attempted passed log r) :
    r.failure = none ↔ ∀ index, ¬ History.Fails index log := by
  rw [hconcluded.failure_eq, List.findSome?_eq_none_iff]
  constructor
  · intro hnone index hfails
    obtain ⟨slot, hslot, rfl, hfailed⟩ := (hconcluded.sound.fails_iff index).mp hfails
    rcases List.mem_append.mp (hconcluded.mem_slots.mp hslot) with hattempted | hpassed
    · have hquiet := hnone slot hattempted
      cases hphase : slot.phase <;> simp_all [Slot.failure?, Phase.isFailed]
    · simp [hconcluded.phase_of_mem_passed hpassed, Phase.isFailed] at hfailed
  · intro hnone slot hslot
    rcases hconcluded.phase_of_mem hslot with ⟨outcome, hphase⟩ | ⟨source, hphase⟩
    · simp [Slot.failure?, hphase]
    · have hmem := hconcluded.mem_slots.mpr (List.mem_append_left passed hslot)
      exact absurd ((hconcluded.sound.fails_iff slot.index).mpr
        ⟨slot, hmem, rfl, by simp [hphase, Phase.isFailed]⟩) (hnone slot.index)

theorem result_of_fine (hconcluded : Concluded platform options tier before attempted passed log r)
    (hanswers : platform.Answers answer) (hfine : tier.Fine answer options.dryRun) :
    r.result = .ok ⟨tier.name, tier.kind, tier.switch,
      (tier.fates answer options.dryRun).filterMap outcomeOf⟩ := by
  have hnone : ∀ index, ¬ History.Fails index log := by
    intro index hfails
    obtain ⟨e, source, _, hentity, hfate⟩ := hconcluded.fails_of_fate hanswers hfails
    obtain ⟨outcome, hok⟩ := hfine e (List.mem_of_getElem? hentity)
    simp [hfate] at hok
  have hlength : attempted.length = (tier.fates answer options.dryRun).length := by
    rw [hconcluded.attempted_of.complete hnone]
    simp [Tier.fates, Entities.size]
  rw [result_eq_ok_iff.mpr ⟨hconcluded.failure_eq_none_iff.mpr hnone, rfl⟩,
    hconcluded.report_eq hanswers, hlength, List.take_length]

theorem result_of_failsAt
    (hconcluded : Concluded platform options tier before attempted passed log r)
    (hanswers : platform.Answers answer) {index : Nat} {e : Entity} {source : PlatformError}
    (hfailsAt : tier.FailsAt answer options.dryRun index e source) :
    index < attempted.length ∧ attempted.length ≤ index + options.window ∧
      r.result = .error ⟨tier.name, e.name, ⟨tier.name, tier.kind, tier.switch,
        ((tier.fates answer options.dryRun).take attempted.length).filterMap outcomeOf⟩,
        source⟩ := by
  have hearlier : ∀ earlier < index, ¬ History.Fails earlier log := by
    intro earlier hlt hfails
    obtain ⟨e', source', _, hentity, hfate⟩ := hconcluded.fails_of_fate hanswers hfails
    obtain ⟨outcome, hok⟩ := hfailsAt.first earlier hlt e' hentity
    simp [hfate] at hok
  have hlt : index < attempted.length := by
    -- Otherwise no attempted entity has failed, and then all of them were attempted.
    by_contra hnot
    have hnone : ∀ index, ¬ History.Fails index log := by
      intro other hfails
      obtain ⟨_, _, hother, _⟩ := hconcluded.fails_of_fate hanswers hfails
      exact hearlier other (by omega) hfails
    have hsize := hconcluded.attempted_of.complete hnone
    have hindex := (List.getElem?_eq_some_iff.mp hfailsAt.entity).1
    unfold Entities.size at hsize
    omega
  have hmem := List.getElem_mem hlt
  obtain ⟨hindex, hentity⟩ := hconcluded.seats_getElem? (List.getElem?_eq_getElem hlt)
  rw [hfailsAt.entity, Option.some_inj] at hentity
  have hphase : attempted[index].phase = .failed source := by
    rcases hconcluded.phase_of_fate hanswers hmem with
      ⟨outcome, _, hfate⟩ | ⟨source', hphase, hfate⟩
    · simp [← hentity, hfailsAt.fate] at hfate
    · rw [← hentity, hfailsAt.fate, Except.error.injEq] at hfate
      rw [hphase, hfate]
  have hfails : History.Fails index log := (hconcluded.sound.fails_iff index).mpr
    ⟨_, hconcluded.mem_slots.mpr (List.mem_append_left _ hmem), hindex,
      by simp [hphase, Phase.isFailed]⟩
  refine ⟨hlt, (hconcluded.lt_and_le_of_fails hfails).2, ?_⟩
  have hfailure : r.failure = some (e.name, source) := by
    rw [hconcluded.failure_eq, List.findSome?_eq_some_iff]
    refine ⟨attempted.take index, attempted[index], attempted.drop (index + 1), ?_, ?_, ?_⟩
    · simp
    · simp [Slot.failure?, hphase, ← hentity]
    · intro slot hslot
      obtain ⟨k, hk, rfl⟩ := List.mem_take_iff_getElem.mp hslot
      have hklt : k < attempted.length := by omega
      have hkmem := List.getElem_mem hklt
      have hkindex := (hconcluded.seats_getElem? (List.getElem?_eq_getElem hklt)).1
      rcases hconcluded.phase_of_mem hkmem with ⟨outcome, hdone⟩ | ⟨source', hfailed⟩
      · simp [Slot.failure?, hdone]
      · have hkfails := (hconcluded.sound.fails_iff k).mpr
          ⟨_, hconcluded.mem_slots.mpr (List.mem_append_left _ hkmem),
            hkindex, by simp [hfailed, Phase.isFailed]⟩
        exact absurd hkfails (hearlier k (by omega))
  rw [← hconcluded.report_eq hanswers, ← hconcluded.sound.tier_eq]
  simp [result, hfailure]

end TierRun.Concluded

end PolicyRollout
