import PolicyRollout.Proofs.Deployment.Trails
/-!
What every run of a tier keeps.  The invariant speaks of all slots that were
ever admitted, the reported ones in front: they are the entities of the tier in
their order (`Enrolled`), their skip flags follow the failed calls (`Flagged`),
and the history consists of their trails (`Recorded`).  Reporting leaves the
slots as they are, admitting appends some, and a move changes the phase of one.
-/
namespace PolicyRollout

/-- A slot with its phase set if it is at a position. -/
def Slot.set (index : Nat) (dest : Phase) (slot : Slot) : Slot :=
  if slot.index = index then { slot with phase := dest } else slot

@[simp]
theorem Slot.set_index (index : Nat) (dest : Phase) (slot : Slot) :
    (slot.set index dest).index = slot.index := by
  unfold Slot.set; split <;> rfl

@[simp]
theorem Slot.set_entity (index : Nat) (dest : Phase) (slot : Slot) :
    (slot.set index dest).entity = slot.entity := by
  unfold Slot.set; split <;> rfl

@[simp]
theorem Slot.set_skip (index : Nat) (dest : Phase) (slot : Slot) :
    (slot.set index dest).skip = slot.skip := by
  unfold Slot.set; split <;> rfl

@[simp]
theorem Slot.set_seat (index : Nat) (dest : Phase) (slot : Slot) :
    (slot.set index dest).seat = slot.seat := by
  simp [Slot.seat]

theorem Slot.set_of_ne {index : Nat} {dest : Phase} {slot : Slot} (hne : slot.index ≠ index) :
    slot.set index dest = slot :=
  if_neg hne

theorem Slot.set_self (dest : Phase) (slot : Slot) :
    slot.set slot.index dest = { slot with phase := dest } :=
  if_pos rfl

theorem Tier.seats_getElem? (t : Tier) (index : Nat) :
    t.seats[index]? = t.entities.toList[index]?.map (index, ·) := by
  simp [Tier.seats, List.getElem?_zipIdx, Function.comp_def]

theorem Tier.seats_length (t : Tier) : t.seats.length = t.entities.size := by
  simp [Tier.seats, Entities.size]

/-- Slots hold the first entities of a tier, and the rest are waiting. -/
def Enrolled (tier : Tier) (slots : List Slot) (waiting : List (Nat × Entity)) : Prop :=
  slots.map Slot.seat ++ waiting = tier.seats

namespace Enrolled

variable {tier : Tier} {slots : List Slot} {waiting : List (Nat × Entity)}

theorem seats_getElem? (henrolled : Enrolled tier slots waiting) {k : Nat} {slot : Slot}
    (hslot : slots[k]? = some slot) :
    slot.index = k ∧ tier.entities.toList[k]? = some slot.entity := by
  have hk : k < slots.length := (List.getElem?_eq_some_iff.mp hslot).1
  have hseat : tier.seats[k]? = some slot.seat := by
    rw [← henrolled, List.getElem?_append_left (by simpa using hk), List.getElem?_map, hslot]
    rfl
  rw [Tier.seats_getElem?, Option.map_eq_some_iff] at hseat
  obtain ⟨e, he, heq⟩ := hseat
  simp only [Slot.seat, Prod.mk.injEq] at heq
  exact ⟨heq.1.symm, heq.2 ▸ he⟩

/-- The index of a slot is its place among the slots. -/
theorem getElem?_index (henrolled : Enrolled tier slots waiting) {slot : Slot}
    (hslot : slot ∈ slots) : slots[slot.index]? = some slot := by
  obtain ⟨k, hk⟩ := List.mem_iff_getElem?.mp hslot
  rw [(henrolled.seats_getElem? hk).1, hk]

theorem index_lt (henrolled : Enrolled tier slots waiting) {slot : Slot} (hslot : slot ∈ slots) :
    slot.index < slots.length :=
  (List.getElem?_eq_some_iff.mp (henrolled.getElem?_index hslot)).1

theorem eq_of_index_eq (henrolled : Enrolled tier slots waiting) {first second : Slot}
    (hfirst : first ∈ slots) (hsecond : second ∈ slots) (heq : first.index = second.index) :
    first = second := by
  have h := henrolled.getElem?_index hfirst
  rw [heq, henrolled.getElem?_index hsecond, Option.some_inj] at h
  exact h.symm

theorem length_add (henrolled : Enrolled tier slots waiting) :
    slots.length + waiting.length = tier.entities.size := by
  rw [← tier.seats_length, ← henrolled]
  simp

/-- The entities of the slots and those waiting are all entities of the tier. -/
theorem map_entity (henrolled : Enrolled tier slots waiting) :
    slots.map Slot.entity ++ waiting.map Prod.snd = tier.entities.toList := by
  calc slots.map Slot.entity ++ waiting.map Prod.snd
      = (slots.map Slot.seat ++ waiting).map Prod.snd := by
        rw [List.map_append, List.map_map]
        rfl
    _ = tier.entities.toList := by
        rw [henrolled]
        simp [Tier.seats, Function.comp_def]

/-- Slots admitted behind others have greater indexes. -/
theorem length_le_index {fresh : List Slot} (henrolled : Enrolled tier (slots ++ fresh) waiting)
    {slot : Slot} (hslot : slot ∈ fresh) : slots.length ≤ slot.index := by
  obtain ⟨k, hk⟩ := List.mem_iff_getElem?.mp hslot
  have hget : (slots ++ fresh)[slots.length + k]? = some slot := by
    rw [List.getElem?_append_right (Nat.le_add_right ..), Nat.add_sub_cancel_left, hk]
  rw [(henrolled.seats_getElem? hget).1]
  exact Nat.le_add_right ..

/-- Every slot but the one that is set stays as it was. -/
theorem mem_map_set (henrolled : Enrolled tier slots waiting) {slot other : Slot} {dest : Phase}
    (hslot : slot ∈ slots) (hother : other ∈ slots.map (Slot.set slot.index dest)) :
    other = { slot with phase := dest } ∨ other ∈ slots ∧ other.index ≠ slot.index := by
  obtain ⟨s, hs, rfl⟩ := List.mem_map.mp hother
  by_cases heq : s.index = slot.index
  · left
    rw [henrolled.eq_of_index_eq hs hslot heq, Slot.set_self]
  · right
    rw [Slot.set_of_ne heq]
    exact ⟨hs, heq⟩

theorem map_set (henrolled : Enrolled tier slots waiting) (index : Nat) (dest : Phase) :
    Enrolled tier (slots.map (Slot.set index dest)) waiting := by
  simpa [Enrolled, Function.comp_def] using henrolled

end Enrolled

/-- How the skip flags of slots follow from the calls that failed. -/
structure Flagged (window : Nat) (failed : Bool) (slots : List Slot) : Prop where
  failed_iff : failed = true ↔ ∃ slot ∈ slots, slot.phase.isFailed = true
  /-- An entity that was to be skipped makes no call. -/
  idle : ∀ slot ∈ slots, slot.skip = true → slot.phase.isIdle = true
  /-- No other entity is skipped. -/
  active : ∀ slot ∈ slots, slot.skip = false → slot.phase ≠ .skipped
  order : slots.Pairwise fun first second => first.skip = true → second.skip = true
  cause : ∀ slot ∈ slots, slot.skip = true → failed = true
  /-- An entity a whole window behind a failed one was to be skipped. -/
  near : ∀ slot ∈ slots, slot.skip = false → ∀ other ∈ slots, other.phase.isFailed = true →
    slot.index < other.index + window

/-- The history of a run, as the trails of its slots. -/
structure Recorded (platform : Platform) (ctx : TierContext) (options : DeploymentOptions)
    (calls : Nat) (slots : List Slot) (log : History) : Prop where
  trail : ∀ slot ∈ slots,
    Trail platform ctx options.dryRun slot.index slot.entity slot.phase
      (History.about slot.index log)
  /-- All but events is about an entity that was admitted. -/
  known : ∀ o ∈ log, (∃ event, o = .noted event) ∨ ∃ slot ∈ slots, o.entity? = some slot.index
  /-- Nothing happens for an entity before all of one a whole window ahead of it. -/
  spaced : log.Pairwise fun later earlier => ∀ i j, later.entity? = some i →
    earlier.entity? = some j → j < i + options.window
  serials : (log.filterMap Occurrence.serial?).Nodup
  fresh : ∀ serial ∈ log.filterMap Occurrence.serial?, serial < calls

section Moved

variable {platform : Platform} {r : TierRun} {slot : Slot} {dest : Phase} {calls : Nat}
  {added : History} {tier : Tier} {slots : List Slot} {waiting : List (Nat × Entity)}
  {window : Nat} {failed : Bool} {ctx : TierContext} {options : DeploymentOptions} {log : History}

theorem Flagged.moved (hflagged : Flagged window failed slots)
    (henrolled : Enrolled tier slots waiting) (hslot : slot ∈ slots)
    (hfinal : slot.phase.isFinal = false) (hfront : slots.length ≤ slot.index + window)
    (hmoves : r.Moves platform slot dest calls added) :
    Flagged window (failed || dest.isFailed) (slots.map (Slot.set slot.index dest)) := by
  have hself : { slot with phase := dest } ∈ slots.map (Slot.set slot.index dest) := by
    rw [← Slot.set_self]
    exact List.mem_map_of_mem hslot
  have hskipped := hmoves.skipped_iff (hflagged.idle slot hslot)
  constructor
  case failed_iff =>
    rw [Bool.or_eq_true, hflagged.failed_iff]
    constructor
    · rintro (⟨other, hother, hfailed⟩ | hfailed)
      · have hne : other.index ≠ slot.index := by
          intro heq
          rw [henrolled.eq_of_index_eq hother hslot heq] at hfailed
          simp [Phase.isFinal_of_isFailed hfailed] at hfinal
        exact ⟨other, List.mem_map.mpr ⟨other, hother, Slot.set_of_ne hne⟩, hfailed⟩
      · exact ⟨_, hself, hfailed⟩
    · rintro ⟨other, hother, hfailed⟩
      rcases henrolled.mem_map_set hslot hother with rfl | ⟨hold, _⟩
      · exact Or.inr hfailed
      · exact Or.inl ⟨other, hold, hfailed⟩
  case idle =>
    intro other hother hskip
    rcases henrolled.mem_map_set hslot hother with rfl | ⟨hold, _⟩
    · have hdest : dest = .skipped := hskipped.mpr hskip
      subst hdest
      rfl
    · exact hflagged.idle other hold hskip
  case active =>
    intro other hother hskip
    rcases henrolled.mem_map_set hslot hother with rfl | ⟨hold, _⟩
    · exact fun hto => absurd (hskipped.mp hto) (by simpa using hskip)
    · exact hflagged.active other hold hskip
  case order =>
    simpa [List.pairwise_map] using hflagged.order
  case cause =>
    intro other hother hskip
    rcases henrolled.mem_map_set hslot hother with rfl | ⟨hold, _⟩
    · simp [hflagged.cause slot hslot hskip]
    · simp [hflagged.cause other hold hskip]
  case near =>
    intro other hother hskip culprit hculprit hfailed
    have hlt : other.index < slots.length := by
      simpa using (henrolled.map_set slot.index dest).index_lt hother
    rcases henrolled.mem_map_set hslot hculprit with rfl | ⟨hold, _⟩
    · -- The window reaches no further than this from the slot that has just failed.
      exact Nat.lt_of_lt_of_le hlt hfront
    · obtain ⟨s, hs, rfl⟩ := List.mem_map.mp hother
      simpa using hflagged.near s hs (by simpa using hskip) culprit hold hfailed

theorem Flagged.admits (hflagged : Flagged window failed slots) {fresh : List Slot}
    (hfresh : ∀ slot ∈ fresh, slot.skip = failed ∧ slot.phase = .admitted) :
    Flagged window failed (slots ++ fresh) := by
  have hquiet : ∀ slot ∈ fresh, slot.phase.isFailed = false := by
    intro slot hslot
    rw [(hfresh slot hslot).2]
    rfl
  constructor
  case failed_iff =>
    rw [hflagged.failed_iff]
    constructor
    · rintro ⟨slot, hslot, hfailed⟩
      exact ⟨slot, List.mem_append_left _ hslot, hfailed⟩
    · rintro ⟨slot, hslot, hfailed⟩
      rcases List.mem_append.mp hslot with hold | hnew
      · exact ⟨slot, hold, hfailed⟩
      · simp [hquiet slot hnew] at hfailed
  case idle =>
    intro slot hslot hskip
    rcases List.mem_append.mp hslot with hold | hnew
    · exact hflagged.idle slot hold hskip
    · rw [(hfresh slot hnew).2]
      rfl
  case active =>
    intro slot hslot hskip
    rcases List.mem_append.mp hslot with hold | hnew
    · exact hflagged.active slot hold hskip
    · simp [(hfresh slot hnew).2]
  case order =>
    rw [List.pairwise_append]
    refine ⟨hflagged.order, ?_, ?_⟩
    · rw [List.pairwise_iff_forall_sublist]
      intro first second hsub hskip
      have hfirst := hfresh first (hsub.subset (by simp))
      have hsecond := hfresh second (hsub.subset (by simp))
      rw [hsecond.1, ← hfirst.1, hskip]
    · intro old hold new hnew hskip
      rw [(hfresh new hnew).1, hflagged.cause old hold hskip]
  case cause =>
    intro slot hslot hskip
    rcases List.mem_append.mp hslot with hold | hnew
    · exact hflagged.cause slot hold hskip
    · rw [← (hfresh slot hnew).1, hskip]
  case near =>
    intro slot hslot hskip culprit hculprit hfailed
    rcases List.mem_append.mp hculprit with hculprit | hculprit
    · rcases List.mem_append.mp hslot with hold | hnew
      · exact hflagged.near slot hold hskip culprit hculprit hfailed
      · have hany := hflagged.failed_iff.mpr ⟨culprit, hculprit, hfailed⟩
        rw [(hfresh slot hnew).1, hany] at hskip
        contradiction
    · simp [hquiet culprit hculprit] at hfailed

theorem Recorded.moved (hrecorded : Recorded platform r.ctx r.options r.calls slots log)
    (henrolled : Enrolled tier slots waiting) (hslot : slot ∈ slots)
    (hfront : slots.length ≤ slot.index + r.options.window)
    (hmoves : r.Moves platform slot dest calls added) :
    Recorded platform r.ctx r.options (r.calls + calls) (slots.map (Slot.set slot.index dest))
      (added ++ log) := by
  have hposition : ∀ o ∈ added, ∀ i, o.entity? = some i → i = slot.index := by
    intro o ho i hi
    rcases hmoves.mem_added ho with ⟨event, rfl⟩ | hself
    · simp [Occurrence.entity?] at hi
    · rw [hself, Option.some_inj] at hi
      exact hi.symm
  constructor
  case trail =>
    intro other hother
    rw [History.about_append]
    rcases henrolled.mem_map_set hslot hother with rfl | ⟨hold, hne⟩
    · exact hmoves.trail (hrecorded.trail slot hslot)
    · rw [hmoves.about_of_ne hne]
      exact hrecorded.trail other hold
  case known =>
    intro o ho
    rcases List.mem_append.mp ho with hnew | hold
    · refine (hmoves.mem_added hnew).imp_right fun hself => ?_
      exact ⟨_, List.mem_map_of_mem hslot, by simpa using hself⟩
    · refine (hrecorded.known o hold).imp_right ?_
      rintro ⟨other, hother, hentity⟩
      exact ⟨_, List.mem_map_of_mem hother, by simpa using hentity⟩
  case spaced =>
    have hwindow : 0 < r.options.window := by
      unfold DeploymentOptions.window
      omega
    rw [List.pairwise_append]
    -- What is added is about the slot that moves, and nobody admitted is a window behind it.
    refine ⟨?_, hrecorded.spaced, ?_⟩
    · rw [List.pairwise_iff_forall_sublist]
      intro later earlier hsub i j hi hj
      rw [hposition later (hsub.subset (by simp)) i hi,
        hposition earlier (hsub.subset (by simp)) j hj]
      omega
    · intro later hlater earlier hearlier i j hi hj
      rw [hposition later hlater i hi]
      rcases hrecorded.known earlier hearlier with ⟨event, rfl⟩ | ⟨other, hother, hentity⟩
      · simp [Occurrence.entity?] at hj
      · rw [hentity, Option.some_inj] at hj
        rw [← hj]
        exact Nat.lt_of_lt_of_le (henrolled.index_lt hother) hfront
  case serials =>
    rw [List.filterMap_append, hmoves.serials, List.nodup_append]
    refine ⟨List.nodup_range', hrecorded.serials, ?_⟩
    intro new hnew old hold heq
    have hlt := hrecorded.fresh old hold
    have hle := (List.mem_range'_1.mp hnew).1
    omega
  case fresh =>
    intro serial hserial
    rw [List.filterMap_append, hmoves.serials, List.mem_append] at hserial
    rcases hserial with hnew | hold
    · exact (List.mem_range'_1.mp hnew).2
    · exact Nat.lt_add_right calls (hrecorded.fresh serial hold)

theorem Recorded.notes (hrecorded : Recorded platform ctx options calls slots log)
    (events : List Event) :
    Recorded platform ctx options calls slots (events.map .noted ++ log) := by
  have hserials : (events.map Occurrence.noted).filterMap Occurrence.serial? = [] := by
    simp [Occurrence.serial?, Function.comp_def]
  constructor
  case trail =>
    intro slot hslot
    rw [History.about_append, History.about_notes]
    exact hrecorded.trail slot hslot
  case known =>
    intro o ho
    rcases List.mem_append.mp ho with hnew | hold
    · obtain ⟨event, _, rfl⟩ := List.mem_map.mp hnew
      exact Or.inl ⟨event, rfl⟩
    · exact hrecorded.known o hold
  case spaced =>
    rw [List.pairwise_append]
    refine ⟨?_, hrecorded.spaced, ?_⟩
    · rw [List.pairwise_map]
      exact List.pairwise_of_forall (by simp [Occurrence.entity?])
    · intro later hlater earlier _ i j hi
      obtain ⟨event, _, rfl⟩ := List.mem_map.mp hlater
      simp [Occurrence.entity?] at hi
  case serials =>
    rw [List.filterMap_append, hserials]
    exact hrecorded.serials
  case fresh =>
    rw [List.filterMap_append, hserials]
    exact hrecorded.fresh

theorem Recorded.admits (hrecorded : Recorded platform ctx options calls slots log)
    (hold : Enrolled tier slots waiting) {fresh : List Slot} {still : List (Nat × Entity)}
    (hnew : Enrolled tier (slots ++ fresh) still)
    (hphase : ∀ slot ∈ fresh, slot.phase = .admitted) :
    Recorded platform ctx options calls (slots ++ fresh) log := by
  refine ⟨?_, ?_, hrecorded.spaced, hrecorded.serials, hrecorded.fresh⟩
  · intro slot hslot
    rcases List.mem_append.mp hslot with hslot | hslot
    · exact hrecorded.trail slot hslot
    · have hnone : History.about slot.index log = [] := by
        apply List.eq_nil_iff_forall_not_mem.mpr
        intro o ho
        obtain ⟨hlog, habout⟩ := History.mem_about_iff.mp ho
        rcases hrecorded.known o hlog with ⟨event, rfl⟩ | ⟨other, hother, hentity⟩
        · simp [Occurrence.entity?] at habout
        · rw [hentity, Option.some_inj] at habout
          have hlt := hold.index_lt hother
          have hle := hnew.length_le_index hslot
          omega
      rw [hphase slot hslot, hnone]
      exact .admitted
  · intro o ho
    refine (hrecorded.known o ho).imp_right ?_
    rintro ⟨other, hother, hentity⟩
    exact ⟨other, List.mem_append_left _ hother, hentity⟩

end Moved

end PolicyRollout
