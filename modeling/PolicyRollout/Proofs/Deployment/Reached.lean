import PolicyRollout.Proofs.Deployment.Invariant
/-!
Runs of a tier keep their invariant.  `TierRun.Kept` says once what a property
has to survive: a move of one entity, reporting, and admitting.  The reported
slots and what was added to the history are carried along, since a run itself
forgets the former and mixes the latter with what happened before.
-/
namespace PolicyRollout

namespace TierRun

/-- A property of a run with its reported slots and what it has added to the
history, which no step breaks. -/
structure Kept (platform : Platform) (P : List Slot → History → TierRun → Prop) : Prop where
  moved : ∀ {closed log r slot dest calls added}, P closed log r → slot ∈ r.window →
    slot.phase.isFinal = false → Moves platform r slot dest calls added →
    P closed (added ++ log) (r.brought slot dest calls added)
  drained : ∀ {closed log r}, P closed log r →
    P (closed ++ r.finished) (r.notices.map .noted ++ log) r.drain
  refilled : ∀ {closed log r}, P closed log r → P closed log r.refill

namespace Kept

variable {platform : Platform} {P Q : List Slot → History → TierRun → Prop}
  {closed : List Slot} {log : History} {r : TierRun}

theorem settle (hkept : Kept platform P) (h : P closed log r) :
    P (closed ++ r.finished) (r.notices.map .noted ++ log) r.settle :=
  hkept.refilled (hkept.drained h)

theorem move (hkept : Kept platform P) (index : Nat) (h : P closed log r) :
    ∃ closed' log', P closed' log' (r.move platform index) := by
  obtain heq | heq | ⟨slot, dest, calls, added, hslot, hfinal, hmoves, heq⟩ :=
    r.move_cases platform index
  · rw [heq]
    exact ⟨closed, log, h⟩
  · rw [heq]
    exact ⟨_, _, hkept.settle h⟩
  · rw [heq]
    exact ⟨_, _, hkept.settle (hkept.moved h hslot hfinal hmoves)⟩

theorem run (hkept : Kept platform P) (schedule : List Nat) (h : P closed log r) :
    ∃ closed' log', P closed' log' (r.run platform schedule) := by
  induction schedule generalizing closed log r with
  | nil => exact ⟨closed, log, h⟩
  | cons index rest ih =>
      obtain ⟨closed', log', h'⟩ := hkept.move index h
      exact ih h'

theorem and (hp : Kept platform P) (hq : Kept platform Q) :
    Kept platform fun closed log r => P closed log r ∧ Q closed log r where
  moved h hslot hfinal hmoves :=
    ⟨hp.moved h.1 hslot hfinal hmoves, hq.moved h.2 hslot hfinal hmoves⟩
  drained h := ⟨hp.drained h.1, hq.drained h.2⟩
  refilled h := ⟨hp.refilled h.1, hq.refilled h.2⟩

end Kept

/-- A run of a tier that began after `before`, with its reported slots and what
it has added to the history. -/
structure Sound (platform : Platform) (options : DeploymentOptions) (tier : Tier)
    (before : History) (closed : List Slot) (log : History) (r : TierRun) : Prop where
  tier_eq : r.tier = tier
  ctx_eq : r.ctx = .ofTier tier
  options_eq : r.options = options
  history_eq : r.history = log ++ before
  enrolled : Enrolled tier (closed ++ r.window) r.waiting
  flagged : Flagged options.window r.failed (closed ++ r.window)
  recorded : Recorded platform (.ofTier tier) options r.calls (closed ++ r.window) log
  width : r.window.length ≤ options.window
  final : ∀ slot ∈ closed, slot.phase.isFinal = true
  outcomes : r.outcomes = closed.filterMap Slot.outcome?
  failure : r.failure = closed.findSome? Slot.failure?

namespace Sound

variable {platform : Platform} {options : DeploymentOptions} {tier : Tier} {before : History}
  {closed : List Slot} {log : History} {r : TierRun}

/-- Reported slots lie before the window. -/
theorem front_le_index (hsound : Sound platform options tier before closed log r) {slot : Slot}
    (hslot : slot ∈ r.window) : closed.length ≤ slot.index :=
  hsound.enrolled.length_le_index hslot

/-- An entity in the window is less than a window behind the last admitted one. -/
theorem length_le_index_add (hsound : Sound platform options tier before closed log r)
    {slot : Slot} (hslot : slot ∈ r.window) :
    (closed ++ r.window).length ≤ slot.index + options.window := by
  have hfront := hsound.front_le_index hslot
  have hwidth := hsound.width
  rw [List.length_append]
  omega

theorem closed_index_lt (hsound : Sound platform options tier before closed log r) {slot : Slot}
    (hslot : slot ∈ closed) : slot.index < closed.length := by
  obtain ⟨k, hk⟩ := List.mem_iff_getElem?.mp hslot
  have hlt : k < closed.length := (List.getElem?_eq_some_iff.mp hk).1
  have hget : (closed ++ r.window)[k]? = some slot := by
    rw [List.getElem?_append_left hlt, hk]
  rw [(hsound.enrolled.seats_getElem? hget).1]
  exact hlt

/-- Setting a phase in the window leaves reported slots as they are. -/
theorem closed_map_set (hsound : Sound platform options tier before closed log r) {slot : Slot}
    (hslot : slot ∈ r.window) (dest : Phase) : closed.map (Slot.set slot.index dest) = closed := by
  have hfront := hsound.front_le_index hslot
  calc closed.map (Slot.set slot.index dest) = closed.map id := by
        apply List.map_congr_left
        intro other hother
        have hlt := hsound.closed_index_lt hother
        exact Slot.set_of_ne (by omega)
    _ = closed := List.map_id closed

end Sound

theorem sound_kept (platform : Platform) (options : DeploymentOptions) (tier : Tier)
    (before : History) : Kept platform (Sound platform options tier before) where
  moved := by
    intro closed log r slot dest calls added hsound hslot hfinal hmoves
    have hslots : closed ++ (r.brought slot dest calls added).window =
        (closed ++ r.window).map (Slot.set slot.index dest) := by
      rw [List.map_append, hsound.closed_map_set hslot]
      rfl
    have hmem := List.mem_append_right closed hslot
    have hfront := hsound.length_le_index_add hslot
    obtain ⟨rfl, hctx, rfl, hhistory, henrolled, hflagged, hrecorded, hwidth, hclosed, houtcomes,
      hfailure⟩ := hsound
    rw [← hctx] at hrecorded
    constructor
    case tier_eq => rfl
    case ctx_eq => exact hctx
    case options_eq => rfl
    case history_eq =>
      change added ++ r.history = _
      rw [hhistory, List.append_assoc]
    case enrolled =>
      rw [hslots]
      exact henrolled.map_set slot.index dest
    case flagged =>
      rw [hslots]
      exact hflagged.moved henrolled hmem hfinal hfront hmoves
    case recorded =>
      rw [hslots, ← hctx]
      exact hrecorded.moved henrolled hmem hfront hmoves
    case width => simpa [brought, setPhase] using hwidth
    case final => exact hclosed
    case outcomes => exact houtcomes
    case failure => exact hfailure
  drained := by
    intro closed log r hsound
    rw [drain_eq]
    have hslots : (closed ++ r.finished) ++ r.unfinished = closed ++ r.window := by
      rw [List.append_assoc, finished_append_unfinished]
    constructor
    case tier_eq => exact hsound.tier_eq
    case ctx_eq => exact hsound.ctx_eq
    case options_eq => exact hsound.options_eq
    case history_eq =>
      change r.notices.map .noted ++ r.history = _
      rw [hsound.history_eq, List.append_assoc]
    case enrolled =>
      change Enrolled tier ((closed ++ r.finished) ++ r.unfinished) r.waiting
      rw [hslots]
      exact hsound.enrolled
    case flagged =>
      change Flagged options.window r.failed ((closed ++ r.finished) ++ r.unfinished)
      rw [hslots]
      exact hsound.flagged
    case recorded =>
      change Recorded platform _ options r.calls ((closed ++ r.finished) ++ r.unfinished) _
      rw [hslots]
      exact hsound.recorded.notes r.notices
    case width =>
      have hle : r.unfinished.length ≤ r.window.length := (List.dropWhile_sublist _).length_le
      exact Nat.le_trans hle hsound.width
    case final =>
      intro slot hslot
      rcases List.mem_append.mp hslot with hold | hnew
      · exact hsound.final slot hold
      · exact isFinal_of_mem_finished hnew
    case outcomes =>
      change r.outcomes ++ r.finished.filterMap Slot.outcome? = _
      rw [hsound.outcomes, List.filterMap_append]
    case failure =>
      change r.failure.or (r.finished.findSome? Slot.failure?) = _
      rw [hsound.failure, List.findSome?_append]
  refilled := by
    intro closed log r hsound
    have hslots : closed ++ r.refill.window = (closed ++ r.window) ++ r.admitted := by
      rw [refill_eq, List.append_assoc]
    have henrolled :
        Enrolled tier ((closed ++ r.window) ++ r.admitted) (r.waiting.drop r.room) := by
      have h := hsound.enrolled
      unfold Enrolled at h ⊢
      rw [List.map_append, admitted_map_seat, List.append_assoc, List.take_append_drop, h]
    constructor
    case tier_eq => exact hsound.tier_eq
    case ctx_eq => exact hsound.ctx_eq
    case options_eq => exact hsound.options_eq
    case history_eq => exact hsound.history_eq
    case enrolled =>
      rw [hslots]
      exact henrolled
    case flagged =>
      rw [hslots]
      exact hsound.flagged.admits fun slot hslot => mem_admitted hslot
    case recorded =>
      rw [hslots]
      exact hsound.recorded.admits hsound.enrolled henrolled
        fun slot hslot => (mem_admitted hslot).2
    case width =>
      have hroom : r.admitted.length ≤ r.room := by
        rw [admitted, List.length_map, List.length_take]
        exact Nat.min_le_left ..
      have hwidth := hsound.width
      rw [refill_eq, List.length_append]
      unfold room at hroom
      rw [hsound.options_eq] at hroom
      omega
    case final => exact hsound.final
    case outcomes => exact hsound.outcomes
    case failure => exact hsound.failure

section Start

variable (platform : Platform) (options : DeploymentOptions) (tier : Tier) (calls : Nat)
  (before : History)

/-- What a run records when it starts. -/
def opening (tier : Tier) : History :=
  [.noted (.deployingTier tier.kind tier.name tier.switch tier.entities.size)]

/-- A run that starts, before any entity is admitted. -/
def unopened : TierRun :=
  { tier, ctx := .ofTier tier, options, waiting := tier.seats, window := [], failed := false
    outcomes := [], failure := none, calls, history := opening tier ++ before }

theorem start_eq_refill :
    TierRun.start options tier calls before = (unopened options tier calls before).refill :=
  rfl

theorem unopened_sound :
    Sound platform options tier before [] (opening tier) (unopened options tier calls before) where
  tier_eq := rfl
  ctx_eq := rfl
  options_eq := rfl
  history_eq := rfl
  enrolled := by simp [Enrolled, unopened]
  flagged := by constructor <;> simp [unopened]
  recorded := by constructor <;> simp [opening, Occurrence.serial?, unopened, List.filterMap_cons]
  width := by simp [unopened]
  final := by simp
  outcomes := rfl
  failure := rfl

theorem start_sound :
    Sound platform options tier before [] (opening tier)
      (TierRun.start options tier calls before) :=
  (sound_kept platform options tier before).refilled (unopened_sound ..)

/-- Every run of a tier keeps the invariant. -/
theorem run_sound (schedule : List Nat) :
    ∃ closed log, Sound platform options tier before closed log
      ((TierRun.start options tier calls before).run platform schedule) :=
  (sound_kept platform options tier before).run schedule (start_sound ..)

end Start

/-- A run whose finished entities have been reported and whose window is full if
entities are waiting. -/
structure Settled (r : TierRun) : Prop where
  unreported : ∀ slot ∈ r.window.head?, slot.phase.isFinal = false
  full : r.waiting = [] ∨ r.options.window ≤ r.window.length

theorem refill_settled {r : TierRun}
    (hunreported : ∀ slot ∈ r.window.head?, slot.phase.isFinal = false) : r.refill.Settled where
  unreported := by
    intro slot hslot
    rw [refill_eq, List.head?_append, Option.mem_def, Option.or_eq_some_iff] at hslot
    rcases hslot with hslot | ⟨_, hslot⟩
    · exact hunreported slot hslot
    · rw [(mem_admitted (List.mem_of_mem_head? hslot)).2]
      rfl
  full := by
    by_cases hroom : r.waiting.length ≤ r.room
    · left
      rw [refill_eq]
      exact List.drop_eq_nil_of_le hroom
    · right
      have hadmitted : r.admitted.length = r.room := by
        simp only [admitted, List.length_map, List.length_take]
        omega
      change r.options.window ≤ (r.window ++ r.admitted).length
      rw [List.length_append, hadmitted]
      unfold room
      omega

theorem settle_settled (r : TierRun) : r.settle.Settled := by
  apply refill_settled
  intro slot hslot
  rw [drain_eq] at hslot
  have hhead : (r.window.dropWhile (·.phase.isFinal)).head? = some slot := hslot
  have hnot := List.head?_dropWhile_not (·.phase.isFinal) r.window
  rw [hhead] at hnot
  exact hnot

theorem start_settled (options : DeploymentOptions) (tier : Tier) (calls : Nat)
    (before : History) : (TierRun.start options tier calls before).Settled := by
  rw [start_eq_refill]
  apply refill_settled
  simp [unopened]

theorem move_settled (platform : Platform) (index : Nat) {r : TierRun} (hsettled : r.Settled) :
    (r.move platform index).Settled := by
  unfold TierRun.move
  split
  · exact hsettled
  · exact settle_settled _

theorem run_settled (platform : Platform) (schedule : List Nat) {r : TierRun}
    (hsettled : r.Settled) : (r.run platform schedule).Settled := by
  induction schedule generalizing r with
  | nil => exact hsettled
  | cons index rest ih => exact ih (move_settled platform index hsettled)

end TierRun

end PolicyRollout
