import PolicyRollout.Proofs.Network.Hosts
import PolicyRollout.Topology.Validation
/-!
When a topology is accepted.  What the checks ask for is written down field by field, for
entities, tiers and the whole; a topology passes exactly when it meets that.  The names seen so
far, which the walks over tiers and entities carry along, come to this: names differ pairwise.
-/
namespace PolicyRollout

/-- Some character of the text is not blank. -/
def Text.NonBlank (s : String) : Prop :=
  ∃ c ∈ s.toList, isBlank c = false

theorem Text.isBlankText_eq_false_iff {s : String} : isBlankText s = false ↔ NonBlank s := by
  simp [isBlankText, NonBlank]

open Network (NetworkError Accepts IsHost IsNetwork IsSourceList)

section Checks

variable {α β ε : Type} {field : String} {check : α → Except NetworkError β}

/-- Two checks in turn pass when both do. -/
theorem andThen_eq_ok_iff {first second : Except ε Unit} :
    (do first; second) = .ok () ↔ first = .ok () ∧ second = .ok () := by
  cases first with
  | error e => simp [bind, Except.bind]
  | ok _ => simp [bind, Except.bind]

theorem checkField_eq_ok_iff {v : α} : checkField field (check v) = .ok () ↔ Accepts check v := by
  cases hcheck : check v with
  | error source => simp [checkField, Accepts, hcheck]
  | ok result => simp [checkField, Accepts, hcheck]

theorem checkOptional_eq_ok_iff {given : Option α} :
    checkOptional field check given = .ok () ↔ ∀ v ∈ given, Accepts check v := by
  cases given with
  | none => simp [checkOptional]
  | some v => simp [checkOptional, checkField_eq_ok_iff]

theorem checkEach_eq_ok_iff {values : List α} :
    checkEach field check values = .ok () ↔ ∀ v ∈ values, Accepts check v := by
  induction values with
  | nil => simp [checkEach]
  | cons v rest ih =>
      rw [checkEach, andThen_eq_ok_iff, checkField_eq_ok_iff, ih, List.forall_mem_cons]

end Checks

structure Server.Valid (e : Server) : Prop where
  ip : IsHost e.ip
  allowedSources : ∀ s ∈ e.allowedSources, IsSourceList s
  sshSources : ∀ s ∈ e.sshSources, IsSourceList s

structure Service.Valid (e : Service) : Prop where
  ip : IsHost e.ip
  port : ∀ port ∈ e.port, port ≠ 0

structure Database.Valid (e : Database) : Prop where
  ip : IsHost e.ip
  port : ∀ port ∈ e.port, port ≠ 0
  appSubnet : IsNetwork e.appSubnet
  backupServer : ∀ s ∈ e.backupServer, IsHost s
  replicas : ∀ s ∈ e.replicas, IsHost s

structure Resource.Valid (e : Resource) : Prop where
  ip : IsHost e.ip
  port : e.port ≠ 0
  authorizedUsers : ∀ s ∈ e.authorizedUsers, IsHost s

/-- What is asked of an entity, its name apart. -/
def Entity.Valid : Entity → Prop
  | .server e => e.Valid
  | .service e => e.Valid
  | .database e => e.Valid
  | .resource e => e.Valid

/-- What is asked of a tier, its name apart. -/
structure Tier.Valid (t : Tier) : Prop where
  switch : Text.NonBlank t.switch
  monitoringSubnet : ∀ s ∈ t.monitoringSubnet, IsNetwork s
  named : ∀ e ∈ t.entities.toList, Text.NonBlank e.name
  distinct : (t.entities.toList.map Entity.name).Nodup
  entities : ∀ e ∈ t.entities.toList, e.Valid

/-- What is asked of a topology. -/
structure Topology.Valid (t : Topology) : Prop where
  named : ∀ tier ∈ t.tiers, Text.NonBlank tier.name
  distinct : (t.tiers.map Tier.name).Nodup
  tiers : ∀ tier ∈ t.tiers, tier.Valid

theorem checkEntity_eq_ok_iff {e : Entity} : checkEntity e = .ok () ↔ e.Valid := by
  rw [checkEntity, andThen_eq_ok_iff, checkField_eq_ok_iff]
  cases e with
  | server e =>
      simp only [checkDetails, andThen_eq_ok_iff, checkOptional_eq_ok_iff]
      exact ⟨fun ⟨hip, hallowed, hssh⟩ => ⟨hip, hallowed, hssh⟩,
        fun h => ⟨h.ip, h.allowedSources, h.sshSources⟩⟩
  | service e =>
      simp only [checkDetails, checkOptional_eq_ok_iff, Network.accepts_checkPort_iff]
      exact ⟨fun ⟨hip, hport⟩ => ⟨hip, hport⟩, fun h => ⟨h.ip, h.port⟩⟩
  | database e =>
      simp only [checkDetails, andThen_eq_ok_iff, checkField_eq_ok_iff, checkOptional_eq_ok_iff,
        checkEach_eq_ok_iff, Network.accepts_checkPort_iff]
      exact ⟨fun ⟨hip, hport, hsubnet, hbackup, hreplicas⟩ =>
          ⟨hip, hport, hsubnet, hbackup, hreplicas⟩,
        fun h => ⟨h.ip, h.port, h.appSubnet, h.backupServer, h.replicas⟩⟩
  | resource e =>
      simp only [checkDetails, andThen_eq_ok_iff, checkField_eq_ok_iff, checkEach_eq_ok_iff,
        Network.accepts_checkPort_iff]
      exact ⟨fun ⟨hip, hport, husers⟩ => ⟨hip, hport, husers⟩,
        fun h => ⟨h.ip, h.port, h.authorizedUsers⟩⟩

/-- Items with names: none is blank, no two are alike and none is among those seen before. -/
structure Roster {α : Type} (name : α → String) (seen : List String) (items : List α) : Prop where
  named : ∀ a ∈ items, Text.NonBlank (name a)
  fresh : ∀ a ∈ items, name a ∉ seen
  distinct : (items.map name).Nodup

section Rosters

variable {α : Type} {name : α → String} {seen : List String} {a : α} {rest : List α}

theorem roster_nil : Roster name seen [] :=
  ⟨by simp, by simp, by simp⟩

/-- Seeing a name forbids it to the items that follow. -/
theorem roster_cons_iff : Roster name seen (a :: rest) ↔
    (Text.NonBlank (name a) ∧ name a ∉ seen) ∧ Roster name (name a :: seen) rest := by
  constructor
  · rintro ⟨hnamed, hfresh, hdistinct⟩
    rw [List.forall_mem_cons] at hnamed hfresh
    rw [List.map_cons, List.nodup_cons] at hdistinct
    refine ⟨⟨hnamed.1, hfresh.1⟩, hnamed.2, fun b hb => ?_, hdistinct.2⟩
    rw [List.mem_cons, not_or]
    exact ⟨fun heq => hdistinct.1 (heq ▸ List.mem_map_of_mem hb), hfresh.2 b hb⟩
  · rintro ⟨⟨hname, hunseen⟩, hnamed, hfresh, hdistinct⟩
    refine ⟨List.forall_mem_cons.mpr ⟨hname, hnamed⟩, List.forall_mem_cons.mpr
      ⟨hunseen, fun b hb hseen => hfresh b hb (List.mem_cons_of_mem _ hseen)⟩, ?_⟩
    rw [List.map_cons, List.nodup_cons]
    refine ⟨fun hmem => ?_, hdistinct⟩
    obtain ⟨b, hb, heq⟩ := List.mem_map.mp hmem
    exact hfresh b hb (heq ▸ List.mem_cons_self)

end Rosters

theorem checkEntities_eq_ok_iff {tier : String} {seen : List String} {list : List Entity} :
    checkEntities tier seen list = .ok () ↔
      Roster Entity.name seen list ∧ ∀ e ∈ list, e.Valid := by
  -- Each entity adds its name to those seen, so they vary in the induction.
  induction list generalizing seen with
  | nil => exact ⟨fun _ => ⟨roster_nil, by simp⟩, fun _ => rfl⟩
  | cons e rest ih =>
      rw [roster_cons_iff, List.forall_mem_cons, ← Text.isBlankText_eq_false_iff,
        ← checkEntity_eq_ok_iff]
      unfold checkEntities
      by_cases hblank : Text.isBlankText e.name = true
      · simp [hblank]
      · by_cases hseen : e.name ∈ seen
        · simp [hblank, hseen]
        · cases hcheck : checkEntity e with
          | error f => simp [hblank, hseen]
          | ok _ => simp [hblank, hseen, ih]

theorem checkTier_eq_ok_iff {t : Tier} : checkTier t = .ok () ↔ t.Valid := by
  have hparts : checkTier t = .ok () ↔ Text.NonBlank t.switch ∧
      (∀ s ∈ t.monitoringSubnet, IsNetwork s) ∧
      Roster Entity.name [] t.entities.toList ∧ ∀ e ∈ t.entities.toList, e.Valid := by
    unfold checkTier
    rw [← Text.isBlankText_eq_false_iff, ← @checkEntities_eq_ok_iff t.name]
    change _ ↔ _ ∧ (∀ s ∈ t.monitoringSubnet, Accepts Network.Cidr.parse s) ∧ _
    rw [← @checkOptional_eq_ok_iff _ _ "monitoring_subnet"]
    by_cases hblank : Text.isBlankText t.switch = true
    · simp [hblank]
    · cases checkOptional "monitoring_subnet" Network.Cidr.parse t.monitoringSubnet with
      | error f => simp [hblank]
      | ok _ => simp [hblank]
  rw [hparts]
  constructor
  · rintro ⟨hswitch, hsubnet, hroster, hentities⟩
    exact ⟨hswitch, hsubnet, hroster.named, hroster.distinct, hentities⟩
  · intro h
    exact ⟨h.switch, h.monitoringSubnet, ⟨h.named, by simp, h.distinct⟩, h.entities⟩

theorem checkTiers_eq_ok_iff {seen : List String} {tiers : List Tier} :
    checkTiers seen tiers = .ok () ↔ Roster Tier.name seen tiers ∧ ∀ t ∈ tiers, t.Valid := by
  induction tiers generalizing seen with
  | nil => exact ⟨fun _ => ⟨roster_nil, by simp⟩, fun _ => rfl⟩
  | cons t rest ih =>
      rw [roster_cons_iff, List.forall_mem_cons, ← Text.isBlankText_eq_false_iff,
        ← checkTier_eq_ok_iff]
      unfold checkTiers
      by_cases hblank : Text.isBlankText t.name = true
      · simp [hblank]
      · by_cases hseen : t.name ∈ seen
        · simp [hblank, hseen]
        · rw [if_neg hblank, if_neg hseen, andThen_eq_ok_iff, ih]
          simp [hblank, hseen, and_left_comm]

theorem checkTopology_eq_ok_iff {t : Topology} : checkTopology t = .ok () ↔ t.Valid := by
  rw [checkTopology, checkTiers_eq_ok_iff]
  constructor
  · rintro ⟨hroster, htiers⟩
    exact ⟨hroster.named, hroster.distinct, htiers⟩
  · intro h
    exact ⟨⟨h.named, by simp, h.distinct⟩, h.tiers⟩

section Bare

def Server.bare (e : Server) : Server := { e with enableSsh := none }

def Service.bare (e : Service) : Service := { e with dependencies := [] }

def Database.bare (e : Database) : Database := { e with engine := .mySql, enableReplication := none }

def Resource.bare (e : Resource) : Resource := { e with requireEncryption := none }

def Entity.bare : Entity → Entity
  | .server e => .server e.bare
  | .service e => .service e.bare
  | .database e => .database e.bare
  | .resource e => .resource e.bare

def Entities.bare : Entities → Entities
  | .servers list => .servers (list.map Server.bare)
  | .services list => .services (list.map Service.bare)
  | .databases list => .databases (list.map Database.bare)
  | .resources list => .resources (list.map Resource.bare)

def Tier.bare (t : Tier) : Tier := { t with template := none, entities := t.entities.bare }

/-- The topology without templates, dependencies, engines and optional features. -/
def Topology.bare (t : Topology) : Topology := ⟨t.tiers.map Tier.bare⟩

theorem Entities.toList_bare (entities : Entities) :
    entities.bare.toList = entities.toList.map Entity.bare := by
  cases entities with
  | servers list => simp [bare, toList, Entity.bare]
  | services list => simp [bare, toList, Entity.bare]
  | databases list => simp [bare, toList, Entity.bare]
  | resources list => simp [bare, toList, Entity.bare]

theorem Entity.name_bare (e : Entity) : e.bare.name = e.name := by
  cases e <;> rfl

theorem checkEntity_bare (e : Entity) : checkEntity e.bare = checkEntity e := by
  cases e <;> rfl

theorem checkEntities_bare (tier : String) (seen : List String) (list : List Entity) :
    checkEntities tier seen (list.map Entity.bare) = checkEntities tier seen list := by
  induction list generalizing seen with
  | nil => rfl
  | cons e rest ih =>
      unfold checkEntities
      simp only [List.map_cons, e.name_bare, checkEntity_bare, ih]

theorem checkTier_bare (t : Tier) : checkTier t.bare = checkTier t := by
  simp only [checkTier, Tier.bare, Entities.toList_bare, checkEntities_bare]

theorem checkTiers_bare (seen : List String) (tiers : List Tier) :
    checkTiers seen (tiers.map Tier.bare) = checkTiers seen tiers := by
  induction tiers generalizing seen with
  | nil => rfl
  | cons t rest ih =>
      have hname : t.bare.name = t.name := rfl
      simp only [List.map_cons, checkTiers, hname, checkTier_bare, ih]

end Bare

/-- A topology passes exactly when it is valid, and what is found does not depend on
templates, dependencies, engines or optional features. -/
theorem checkTopology_sound_complete (t : Topology) :
    (checkTopology t = .ok () ↔ t.Valid) ∧ checkTopology t.bare = checkTopology t :=
  ⟨checkTopology_eq_ok_iff, checkTiers_bare [] t.tiers⟩

/-- Services may name themselves and services that are not there, and tiers may be empty. -/
example : checkTopology ⟨[
    ⟨"app", "ls-app", none, some "", .services [⟨"api", "10.0.0.1", none, ["api", "gone"]⟩]⟩,
    ⟨"web", "ls-web", none, none, .servers []⟩]⟩ = .ok () := rfl

end PolicyRollout
