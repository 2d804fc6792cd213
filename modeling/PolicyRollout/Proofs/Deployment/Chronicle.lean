import PolicyRollout.Proofs.Deployment.Course
/-!
The chronicle of a deployment: its history cut into one chapter for each tier
that was begun, in deployment order.  What lies before the first chapter and
behind the last one is about no entity.
-/
namespace PolicyRollout

/-- An event, or the listing of all templates. -/
def Occurrence.isGeneral : Occurrence → Bool
  | .noted _ | .called _ none (.list ..) | .answered _ none (.listed _) => true
  | _ => false

theorem Occurrence.of_isGeneral {P : Occurrence → Prop} (hnoted : ∀ event, P (.noted event))
    (hcalled : ∀ serial category tags, P (.called serial none (.list category tags)))
    (hanswered : ∀ serial result, P (.answered serial none (.listed result))) {o : Occurrence}
    (hgeneral : o.isGeneral = true) : P o := by
  unfold isGeneral at hgeneral
  split at hgeneral
  · exact hnoted _
  · exact hcalled _ _ _
  · exact hanswered _ _
  · contradiction

namespace Rollout

/-- What a deployment did for one tier: the run of the tier, and what was added
to the history meanwhile. -/
structure Chapter where
  run : TierRun
  log : History

/-- A chapter tells a run of its tier; events may follow on the end of the run. -/
def Chapter.Told (platform : Platform) (options : DeploymentOptions) (c : Chapter) : Prop :=
  ∃ calls before events, c.run.Reached platform options c.run.tier calls before ∧
    c.log ++ before = List.map .noted events ++ c.run.history

/-- The report a deployment leaves behind. -/
def reported : Except DeploymentError Report → Report
  | .ok report => report
  | .error e => e.completed

/-- A history cut into chapters. -/
structure Cut (platform : Platform) (options : DeploymentOptions) (topology : Topology)
    (chapters : List Chapter) (history : History) : Prop where
  history_eq : ∃ opening closing,
    history = closing ++ chapters.reverse.flatMap Chapter.log ++ opening ∧
    ∀ o ∈ closing ++ opening, o.isGeneral = true
  told : ∀ c ∈ chapters, c.Told platform options
  order : chapters.map (·.run.tier) <+: topology.deploymentOrder
  /-- A tier is begun after all before it have been deployed. -/
  passed : ∀ c ∈ chapters.dropLast, c.run.isOver = true ∧ c.run.failure = none

/-- The history of a deployment, chapter by chapter, and what it came to. -/
structure Chronicle (platform : Platform) (options : DeploymentOptions) (topology : Topology)
    (chapters : List Chapter) (r : Rollout) : Prop
    extends Cut platform options topology chapters r.history where
  ended : ∀ result, r.result? = some result → (∀ c ∈ chapters, c.run.isOver = true) ∧
    (reported result).tiers = chapters.map (·.run.report)
  completed : ∀ report, r.result? = some (.ok report) →
    chapters.map (·.run.tier) = topology.deploymentOrder ∧ ∀ c ∈ chapters, c.run.failure = none
  aborted : ∀ e, r.result? = some (.error e) → e.tier = none ∧ chapters = [] ∨
    ∃ c entity, chapters.getLast? = some c ∧ c.run.failure = some (entity, e.source) ∧
      e.tier = some c.run.tier.name ∧ e.entity = some entity

end Rollout

namespace TierRun

variable {platform : Platform} {options : DeploymentOptions} {calls calls' : Nat}
  {before history : History} {runs : List TierRun} {tier : Tier} {r : TierRun}

theorem result_eq_error_iff {a : TierAborted} :
    r.result = .error a ↔
      r.failure = some (a.entity, a.source) ∧ a.tier = r.tier.name ∧ a.report = r.report := by
  obtain ⟨tier, entity, report, source⟩ := a
  unfold result
  cases hfailure : r.failure with
  | none => simp
  | some failure =>
      obtain ⟨name, cause⟩ := failure
      simp only [Except.error.injEq, TierAborted.mk.injEq, Option.some_inj, Prod.mk.injEq]
      grind

theorem close_history (r : TierRun) :
    ∃ events, r.close.history = List.map .noted events ++ r.history := by
  unfold close
  split
  · exact ⟨[], rfl⟩
  · exact ⟨[_], rfl⟩

/-- A run, with events on its end, as a chapter. -/
theorem Reached.exists_chapter (hreached : r.Reached platform options tier calls before)
    (events : List Event) :
    ∃ c : Rollout.Chapter, c.run = r ∧ c.Told platform options ∧
      c.log ++ before = List.map .noted events ++ r.history := by
  obtain ⟨closed, log, hsound⟩ := hreached.sound
  have hlog : (List.map .noted events ++ log) ++ before = List.map .noted events ++ r.history := by
    rw [hsound.history_eq, List.append_assoc]
  refine ⟨⟨r, List.map .noted events ++ log⟩, rfl, ⟨calls, before, events, ?_, hlog⟩, hlog⟩
  rw [hreached.tier_eq]
  exact hreached

theorem Passed.exists_chapters
    (hpassed : Passed platform options calls before runs calls' history) :
    ∃ chapters : List Rollout.Chapter, chapters.map Rollout.Chapter.run = runs ∧
      history = chapters.reverse.flatMap Rollout.Chapter.log ++ before ∧
      ∀ c ∈ chapters, c.Told platform options ∧ c.run.isOver = true ∧ c.run.failure = .none := by
  induction hpassed with
  | none => exact ⟨[], rfl, rfl, by simp⟩
  | @more runs calls' history tier r hpassed hreached hover hok ih =>
      obtain ⟨chapters, hruns, hhistory, htold⟩ := ih
      obtain ⟨events, hclose⟩ := r.close_history
      obtain ⟨c, rfl, hc, hlog⟩ := hreached.exists_chapter events
      refine ⟨chapters ++ [c], ?_, ?_, ?_⟩
      · rw [List.map_append, hruns, List.map_singleton]
      · rw [hclose, ← hlog, hhistory]
        simp
      · intro other hother
        rcases List.mem_append.mp hother with hold | hnew
        · exact htold other hold
        · rw [List.mem_singleton.mp hnew]
          exact ⟨hc, hover, hok⟩

end TierRun

namespace Rollout

/-- A chapter as what its run has kept. -/
theorem Chapter.Told.exists_sound {platform : Platform} {options : DeploymentOptions} {c : Chapter}
    (htold : c.Told platform options) :
    ∃ before closed log events, TierRun.Sound platform options c.run.tier before closed log c.run ∧
      c.run.Settled ∧ c.log = List.map .noted events ++ log := by
  obtain ⟨calls, before, events, hreached, hlog⟩ := htold
  obtain ⟨closed, log, hsound⟩ := hreached.sound
  rw [hsound.history_eq, ← List.append_assoc, List.append_cancel_right_eq] at hlog
  exact ⟨before, closed, log, events, hsound, hreached.settled, hlog⟩

variable {platform : Platform} {options : DeploymentOptions} {stamp : RunStamp}
  {topology : Topology}

theorem listingHistory_isGeneral :
    ∀ o ∈ listingHistory options stamp topology, o.isGeneral = true := by
  intro o ho
  simp only [listingHistory, startNote, List.mem_cons, List.not_mem_nil, or_false] at ho
  rcases ho with rfl | rfl <;> rfl

/-- The answer to the listing of templates is about no entity. -/
theorem listed_isGeneral (result : Except PlatformError (List TemplateDescriptor))
    (notes : List Event) :
    ∀ o ∈ .answered 0 none (.listed result) ::
      (notes.map .noted ++ listingHistory options stamp topology), o.isGeneral = true := by
  intro o ho
  rcases List.mem_cons.mp ho with rfl | ho
  · rfl
  · rcases List.mem_append.mp ho with hevent | hlisting
    · obtain ⟨event, _, rfl⟩ := List.mem_map.mp hevent
      rfl
    · exact listingHistory_isGeneral o hlisting

theorem Opened.isGeneral {calls : Nat} {before : History}
    (hopened : Opened platform options stamp topology calls before) :
    ∀ o ∈ before, o.isGeneral = true := by
  cases hopened with
  | unverified =>
      intro o ho
      rw [List.mem_singleton.mp ho]
      rfl
  | verified _ notes => exact listed_isGeneral _ notes

/-- A deployment before its first tier has no chapters. -/
theorem Chronicle.of_general {r : Rollout} (hhistory : ∀ o ∈ r.history, o.isGeneral = true)
    (hresult : ∀ result, r.result? = some result →
      ∃ report source, result = .error ⟨none, none, report, source⟩ ∧ report.tiers = []) :
    Chronicle platform options topology [] r where
  history_eq := ⟨r.history, [], by simp, by simpa using hhistory⟩
  told := by simp
  order := by simp
  passed := by simp
  ended := by
    intro result hsome
    obtain ⟨report, source, rfl, htiers⟩ := hresult result hsome
    exact ⟨by simp, htiers⟩
  completed := by
    intro report hsome
    obtain ⟨_, _, herror, _⟩ := hresult _ hsome
    contradiction
  aborted := by
    intro e hsome
    obtain ⟨report, source, herror, _⟩ := hresult _ hsome
    rw [Except.error.injEq] at herror
    exact Or.inl ⟨by rw [herror], rfl⟩

/-- The chapters of the tiers that were deployed and of one that was begun after them. -/
theorem Opened.cut {calls calls' : Nat} {before history : History} {runs : List TierRun}
    {tier : Tier} {rest : List Tier} {run : TierRun}
    (hopened : Opened platform options stamp topology calls before)
    (hpassed : TierRun.Passed platform options calls before runs calls' history)
    (horder : topology.deploymentOrder = runs.map TierRun.tier ++ tier :: rest)
    (hreached : run.Reached platform options tier calls' history) (events : List Event) :
    ∃ front c, front.map Chapter.run = runs ∧ c.run = run ∧ (∀ c ∈ front, c.run.isOver = true) ∧
      Cut platform options topology (front ++ [c]) (events.map .noted ++ run.history) := by
  obtain ⟨front, hruns, hhistory, hfront⟩ := hpassed.exists_chapters
  obtain ⟨c, rfl, hc, hlog⟩ := hreached.exists_chapter []
  refine ⟨front, c, hruns, rfl, fun other hother => (hfront other hother).2.1, ?_⟩
  constructor
  case history_eq =>
    refine ⟨before, events.map .noted, ?_, ?_⟩
    · have hrun : c.log ++ history = c.run.history := by simpa using hlog
      rw [← hrun, hhistory]
      simp
    · intro o ho
      rcases List.mem_append.mp ho with hevent | hbefore
      · obtain ⟨event, _, rfl⟩ := List.mem_map.mp hevent
        rfl
      · exact hopened.isGeneral o hbefore
  case told =>
    intro other hother
    rcases List.mem_append.mp hother with hold | hnew
    · exact (hfront other hold).1
    · rw [List.mem_singleton.mp hnew]
      exact hc
  case order =>
    refine ⟨rest, ?_⟩
    rw [horder, ← hruns, List.map_append, List.map_map, List.append_assoc, List.map_singleton,
      hreached.tier_eq]
    rfl
  case passed =>
    rw [List.dropLast_concat]
    exact fun other hother => (hfront other hother).2

/-- Every deployment has a chronicle. -/
theorem Course.exists_chronicle {r : Rollout} (hcourse : Course platform options stamp topology r) :
    ∃ chapters, Chronicle platform options topology chapters r := by
  cases hcourse with
  | listing =>
      exact ⟨[], .of_general listingHistory_isGeneral (by simp [result?])⟩
  | refused _ notes =>
      refine ⟨[], .of_general ?_ ?_⟩
      · intro o ho
        rcases List.mem_cons.mp ho with rfl | ho
        · rfl
        · exact listed_isGeneral _ notes o ho
      · intro result hsome
        exact ⟨_, _, (Option.some_inj.mp hsome).symm, rfl⟩
  | deploying hopened hpassed horder hreached =>
      obtain ⟨front, c, _, _, _, hcut⟩ := hopened.cut hpassed horder hreached []
      exact ⟨front ++ [c], hcut, by simp [result?], by simp [result?], by simp [result?]⟩
  | @aborted _ _ _ _ _ tier _ run a report hopened hpassed horder hreached hover habort hreport =>
      obtain ⟨front, c, hruns, rfl, hfront, hcut⟩ := hopened.cut hpassed horder hreached
        [.aborted report.runId a.tier report.deployed a.source]
      have hfailure : c.run.failure = some (a.entity, a.source) ∧ a.tier = c.run.tier.name ∧
          a.report = c.run.report := TierRun.result_eq_error_iff.mp habort
      refine ⟨front ++ [c], hcut, ?_, by simp [result?], ?_⟩
      · intro result hsome
        obtain rfl := Option.some_inj.mp hsome
        constructor
        · intro other hother
          rcases List.mem_append.mp hother with hold | hnew
          · exact hfront other hold
          · rw [List.mem_singleton.mp hnew]
            exact hover
        · rw [← hruns, hfailure.2.2] at hreport
          rw [reported, hreport]
          simp [partialReport, Report.finish]
      · intro e hsome
        rw [result?, Option.some_inj, Except.error.injEq] at hsome
        subst hsome
        exact Or.inr ⟨c, a.entity, by simp, hfailure.1, by rw [hfailure.2.1], rfl⟩
  | @completed _ _ before history runs report hopened hpassed horder hreport =>
      obtain ⟨chapters, hruns, hhistory, htold⟩ := hpassed.exists_chapters
      have horder' : chapters.map (·.run.tier) = topology.deploymentOrder := by
        rw [horder, ← hruns, List.map_map]
        rfl
      refine ⟨chapters, ⟨?_, ?_, ?_, ?_⟩, ?_, ?_, ?_⟩
      · refine ⟨before, [.noted (.completed report.runId report.deployed report.rejected
          report.totalRules)], ?_, ?_⟩
        · rw [hhistory, List.singleton_append, List.cons_append]
        · intro o ho
          rcases List.mem_cons.mp ho with rfl | hbefore
          · rfl
          · exact hopened.isGeneral o hbefore
      · exact fun c hc => (htold c hc).1
      · exact ⟨[], by simpa using horder'⟩
      · exact fun c hc => (htold c (List.dropLast_subset _ hc)).2
      · intro result hsome
        obtain rfl := Option.some_inj.mp hsome
        refine ⟨fun c hc => (htold c hc).2.1, ?_⟩
        rw [reported, hreport, ← hruns]
        simp [partialReport, Report.finish]
      · exact fun _ _ => ⟨horder', fun c hc => (htold c hc).2.2⟩
      · simp [result?]

section

variable {chapters : List Chapter} {history : History} {β : Type} {f : Occurrence → Option β}

/-- What is not read off general occurrences is read off the chapters. -/
theorem Cut.filterMap_eq (hcut : Cut platform options topology chapters history)
    (hgeneral : ∀ {o}, o.isGeneral = true → f o = none) :
    history.filterMap f = chapters.reverse.flatMap fun c => c.log.filterMap f := by
  obtain ⟨opening, closing, rfl, hapart⟩ := hcut.history_eq
  have hopening : opening.filterMap f = [] := List.filterMap_eq_nil_iff.mpr fun o ho =>
    hgeneral (hapart o (List.mem_append_right _ ho))
  have hclosing : closing.filterMap f = [] := List.filterMap_eq_nil_iff.mpr fun o ho =>
    hgeneral (hapart o (List.mem_append_left _ ho))
  rw [List.filterMap_append, List.filterMap_append, hopening, hclosing, List.filterMap_flatMap,
    List.nil_append, List.append_nil]

theorem Cut.filterMap_perm (hcut : Cut platform options topology chapters history)
    (hgeneral : ∀ {o}, o.isGeneral = true → f o = none) :
    (history.filterMap f).Perm (chapters.flatMap fun c => c.log.filterMap f) := by
  rw [hcut.filterMap_eq hgeneral]
  exact chapters.reverse_perm.flatMap_right _

end

end Rollout

end PolicyRollout
