import PolicyRollout.Proofs.Topology.Validity
/-!
The checks on the fields of an entity, written down as a list in the order in which they are made.
An entity is refused for the first of them that does not pass.
-/
namespace PolicyRollout

open Network (NetworkError)

/-- A check on one field and what it objects to, if anything. -/
structure FieldCheck where
  field : String
  objection : Option NetworkError

def objection? {α : Type} : Except NetworkError α → Option NetworkError
  | .ok _ => none
  | .error source => some source

/-- The same check on all values of a field. -/
def FieldCheck.each {α β : Type} (field : String) (check : α → Except NetworkError β)
    (values : List α) : List FieldCheck :=
  values.map fun v => ⟨field, objection? (check v)⟩

/-- The checks on an entity: its host address, and then the other fields of its kind. -/
def Entity.checks : Entity → List FieldCheck
  | .server e =>
    FieldCheck.each "ip" Network.parseHost [e.ip] ++
    FieldCheck.each "allowed_sources" Network.checkSourceList e.allowedSources.toList ++
    FieldCheck.each "ssh_sources" Network.checkSourceList e.sshSources.toList
  | .service e =>
    FieldCheck.each "ip" Network.parseHost [e.ip] ++
    FieldCheck.each "port" Network.checkPort e.port.toList
  | .database e =>
    FieldCheck.each "ip" Network.parseHost [e.ip] ++
    FieldCheck.each "port" Network.checkPort e.port.toList ++
    FieldCheck.each "app_subnet" Network.Cidr.parse [e.appSubnet] ++
    FieldCheck.each "backup_server" Network.parseHost e.backupServer.toList ++
    FieldCheck.each "replicas" Network.parseHost e.replicas
  | .resource e =>
    FieldCheck.each "ip" Network.parseHost [e.ip] ++
    FieldCheck.each "port" Network.checkPort [e.port] ++
    FieldCheck.each "authorized_users" Network.parseHost e.authorizedUsers

/-- The first check that objects to anything, and what it objects to. -/
def FirstObjection (checks : List FieldCheck) (f : FieldError) : Prop :=
  ∃ front back, checks = front ++ ⟨f.field, some f.source⟩ :: back ∧
    ∀ check ∈ front, check.objection = none

/-- The checks in their order, up to the first that objects. -/
def makeChecks : List FieldCheck → Except FieldError Unit
  | [] => .ok ()
  | ⟨_, none⟩ :: rest => makeChecks rest
  | ⟨field, some source⟩ :: _ => .error ⟨field, source⟩

theorem makeChecks_append (first second : List FieldCheck) :
    makeChecks (first ++ second) = (do makeChecks first; makeChecks second) := by
  induction first with
  | nil => rfl
  | cons check rest ih =>
      obtain ⟨field, objection⟩ := check
      cases objection with
      | none => exact ih
      | some source => rfl

theorem makeChecks_eq_error_iff {checks : List FieldCheck} {f : FieldError} :
    makeChecks checks = .error f ↔ FirstObjection checks f := by
  induction checks with
  | nil => simp [makeChecks, FirstObjection]
  | cons check rest ih =>
      obtain ⟨field, objection⟩ := check
      simp only [FirstObjection, List.cons_eq_append_iff]
      cases objection with
      | none =>
          rw [makeChecks, ih]
          constructor
          · rintro ⟨front, back, rfl, hfront⟩
            exact ⟨⟨field, none⟩ :: front, back, Or.inr ⟨front, rfl, rfl⟩,
              List.forall_mem_cons.mpr ⟨rfl, hfront⟩⟩
          · rintro ⟨_, back, ⟨_, heq⟩ | ⟨front, rfl, rfl⟩, hfront⟩
            · simp at heq
            · exact ⟨front, back, rfl, (List.forall_mem_cons.mp hfront).2⟩
      | some source =>
          rw [makeChecks]
          constructor
          · rintro ⟨⟩
            exact ⟨[], rest, Or.inl ⟨rfl, rfl⟩, by simp⟩
          · rintro ⟨_, back, ⟨_, heq⟩ | ⟨front, rfl, _⟩, hfront⟩
            · simp only [List.cons.injEq, FieldCheck.mk.injEq, Option.some.injEq] at heq
              obtain ⟨⟨hfield, hsource⟩, _⟩ := heq
              rw [← hfield, ← hsource]
            · exact absurd (hfront _ List.mem_cons_self) (by simp)

section

variable {α β : Type} (field : String) (check : α → Except NetworkError β)

theorem checkField_eq_makeChecks (v : α) :
    checkField field (check v) = makeChecks (FieldCheck.each field check [v]) := by
  rw [FieldCheck.each, List.map_singleton]
  cases check v <;> rfl

theorem checkEach_eq_makeChecks (values : List α) :
    checkEach field check values = makeChecks (FieldCheck.each field check values) := by
  induction values with
  | nil => rfl
  | cons v rest ih =>
      rw [checkEach, ih, checkField_eq_makeChecks, ← makeChecks_append]
      rfl

theorem checkOptional_eq_makeChecks (given : Option α) :
    checkOptional field check given = makeChecks (FieldCheck.each field check given.toList) := by
  cases given with
  | none => rfl
  | some v => exact checkField_eq_makeChecks field check v

end

theorem checkEntity_eq_makeChecks (e : Entity) : checkEntity e = makeChecks e.checks := by
  cases e <;> simp only [checkEntity, checkDetails, Entity.checks, Entity.ip, makeChecks_append,
    checkField_eq_makeChecks, checkOptional_eq_makeChecks, checkEach_eq_makeChecks, bind_assoc]

/-- An entity is refused for the first check that objects. -/
theorem checkEntity_eq_error_iff {e : Entity} {f : FieldError} :
    checkEntity e = .error f ↔ FirstObjection e.checks f := by
  rw [checkEntity_eq_makeChecks, makeChecks_eq_error_iff]

end PolicyRollout
