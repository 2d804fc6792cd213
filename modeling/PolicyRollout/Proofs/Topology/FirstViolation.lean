import Mathlib.Data.List.Forall2
import PolicyRollout.Proofs.Topology.FieldChecks
/-!
Which violation is reported.  Tiers and the entities of a tier are walked in their order, and the
walk ends at the first that is not in order: what is before it is valid and what is behind it is
not looked at.  Nothing that is taken away makes a valid topology invalid.
-/
namespace PolicyRollout

open Network (NetworkError IsNetwork)

theorem Text.nonBlank_of_not_isBlankText {s : String} (hnot : ¬ isBlankText s = true) :
    NonBlank s :=
  isBlankText_eq_false_iff.mp (eq_false_of_ne_true hnot)

section Walks

variable {α : Type}

/-- A check that takes items in turn, each in view of the names of those before. -/
structure IsWalk (name : α → String) (check : List String → List α → Except Violation Unit) :
    Prop where
  nil : ∀ seen, check seen [] = .ok ()
  cons : ∀ seen a rest, check seen (a :: rest) = (do check seen [a]; check (name a :: seen) rest)
  reverse : ∀ seen a, check seen.reverse [a] = check seen [a]

variable {name : α → String} {check : List String → List α → Except Violation Unit}

theorem IsWalk.seen_eq_error_iff (hwalk : IsWalk name check) {seen : List String} {items : List α}
    {v : Violation} :
    check seen items = .error v ↔
      ∃ k a, items[k]? = some a ∧ check seen (items.take k) = .ok () ∧
        check (((items.take k).map name).reverse ++ seen) [a] = .error v := by
  induction items generalizing seen with
  | nil => simp [hwalk.nil]
  | cons a rest ih =>
      cases hcheck : check seen [a] with
      | error w =>
          have hstops : ∀ more, check seen (a :: more) = .error w := by
            intro more
            rw [hwalk.cons, hcheck]
            rfl
          rw [hstops]
          constructor
          · intro hw
            exact ⟨0, a, rfl, hwalk.nil seen, hcheck.trans hw⟩
          · rintro ⟨k, b, hb, htake, hfails⟩
            cases k with
            | zero =>
                obtain rfl := Option.some_inj.mp hb
                exact hcheck.symm.trans hfails
            | succ k => cases (hstops _).symm.trans htake
      | ok _ =>
          have hgoes : ∀ more, check seen (a :: more) = check (name a :: seen) more := by
            intro more
            rw [hwalk.cons, hcheck]
            rfl
          rw [hgoes, ih]
          constructor
          · rintro ⟨k, b, hb, htake, hfails⟩
            refine ⟨k + 1, b, hb, (hgoes _).trans htake, ?_⟩
            simpa using hfails
          · rintro ⟨k, b, hb, htake, hfails⟩
            cases k with
            | zero =>
                obtain rfl := Option.some_inj.mp hb
                cases hcheck.symm.trans hfails
            | succ k =>
                refine ⟨k, b, hb, (hgoes _).symm.trans htake, ?_⟩
                simpa using hfails

/-- A walk ends at the first item that does not pass. -/
theorem IsWalk.eq_error_iff (hwalk : IsWalk name check) {items : List α} {v : Violation} :
    check [] items = .error v ↔
      ∃ k a, items[k]? = some a ∧ check [] (items.take k) = .ok () ∧
        check ((items.take k).map name) [a] = .error v := by
  rw [hwalk.seen_eq_error_iff]
  simp only [List.append_nil, hwalk.reverse]

end Walks

/-- What is wrong with an entity of a tier that has entities of these names before it. -/
inductive Entity.Fault (tier : String) (names : List String) (e : Entity) : Violation → Prop
  | unnamed (hblank : Text.isBlankText e.name = true) : Fault tier names e (.emptyEntityName tier)
  | repeated (hnamed : Text.NonBlank e.name) (hseen : e.name ∈ names) :
      Fault tier names e (.duplicateEntity tier e.name)
  | refused (hnamed : Text.NonBlank e.name) (hfresh : e.name ∉ names) {field : String}
      {source : NetworkError} (hfirst : FirstObjection e.checks ⟨field, source⟩) :
      Fault tier names e (.invalidAddress tier e.name field source)

def Entities.take (count : Nat) : Entities → Entities
  | .servers list => .servers (list.take count)
  | .services list => .services (list.take count)
  | .databases list => .databases (list.take count)
  | .resources list => .resources (list.take count)

def Tier.cut (count : Nat) (t : Tier) : Tier :=
  { t with entities := t.entities.take count }

/-- What is wrong with a tier, its name apart. -/
inductive Tier.Fault (t : Tier) : Violation → Prop
  | unswitched (hblank : Text.isBlankText t.switch = true) : Fault t (.missingSwitch t.name)
  | unmonitored (hswitch : Text.NonBlank t.switch) {subnet : String} {source : NetworkError}
      (hgiven : t.monitoringSubnet = some subnet)
      (hbad : Network.Cidr.parse subnet = .error source) :
      Fault t (.invalidAddress t.name t.name "monitoring_subnet" source)
  | entity (j : Nat) {e : Entity} {v : Violation} (hentity : t.entities.toList[j]? = some e)
      (hcut : checkTier (t.cut j) = .ok ())
      (hfault : e.Fault t.name ((t.entities.toList.take j).map Entity.name) v) : Fault t v

/-- What is wrong with a tier that has tiers of these names before it. -/
inductive Tier.FaultAfter (names : List String) (t : Tier) : Violation → Prop
  | unnamed (hblank : Text.isBlankText t.name = true) : FaultAfter names t .emptyTierName
  | repeated (hnamed : Text.NonBlank t.name) (hseen : t.name ∈ names) :
      FaultAfter names t (.duplicateTier t.name)
  | inside (hnamed : Text.NonBlank t.name) (hfresh : t.name ∉ names) {v : Violation}
      (hfault : t.Fault v) : FaultAfter names t v

/-- A tier of a topology has a fault, and the tiers before it are valid. -/
structure Topology.FaultAt (t : Topology) (k : Nat) (tier : Tier) (v : Violation) : Prop where
  present : t.tiers[k]? = some tier
  before : checkTopology ⟨t.tiers.take k⟩ = .ok ()
  fault : tier.FaultAfter ((t.tiers.take k).map Tier.name) v

section Entities

variable {tier : String} {names : List String} {e : Entity} {list : List Entity} {v : Violation}

theorem isWalk_checkEntities (tier : String) : IsWalk Entity.name (checkEntities tier) where
  nil _ := rfl
  cons seen e rest := by
    rw [checkEntities.eq_def, checkEntities.eq_def tier seen [e]]
    simp only
    split
    · rfl
    · split
      · rfl
      · cases checkEntity e <;> rfl
  reverse seen e := by
    rw [checkEntities.eq_def, checkEntities.eq_def tier seen]
    simp only [List.mem_reverse]
    split
    · rfl
    · split
      · rfl
      · cases checkEntity e <;> rfl

theorem checkEntities_singleton_eq_error_iff :
    checkEntities tier names [e] = .error v ↔ e.Fault tier names v := by
  rw [checkEntities.eq_def]
  simp only
  constructor
  · intro herror
    by_cases hblank : Text.isBlankText e.name = true
    · rw [if_pos hblank] at herror
      cases herror
      exact .unnamed hblank
    · have hnamed := Text.nonBlank_of_not_isBlankText hblank
      rw [if_neg hblank] at herror
      by_cases hseen : e.name ∈ names
      · rw [if_pos hseen] at herror
        cases herror
        exact .repeated hnamed hseen
      · rw [if_neg hseen] at herror
        cases hcheck : checkEntity e with
        | ok _ =>
            rw [hcheck] at herror
            cases herror
        | error f =>
            simp only [hcheck, Except.error.injEq] at herror
            subst herror
            exact .refused hnamed hseen (checkEntity_eq_error_iff.mp hcheck)
  · intro hfault
    cases hfault with
    | unnamed hblank => rw [if_pos hblank]
    | repeated hnamed hseen => simp [Text.isBlankText_eq_false_iff.mpr hnamed, hseen]
    | refused hnamed hfresh hfirst =>
        simp [Text.isBlankText_eq_false_iff.mpr hnamed, hfresh,
          checkEntity_eq_error_iff.mpr hfirst]

/-- Entities are refused for the first of them that has a fault. -/
theorem checkEntities_eq_error_iff : checkEntities tier [] list = .error v ↔
    ∃ j e, list[j]? = some e ∧ checkEntities tier [] (list.take j) = .ok () ∧
      e.Fault tier ((list.take j).map Entity.name) v := by
  rw [(isWalk_checkEntities tier).eq_error_iff]
  simp only [checkEntities_singleton_eq_error_iff]

end Entities

theorem Entities.toList_take (entities : Entities) (count : Nat) :
    (entities.take count).toList = entities.toList.take count := by
  cases entities <;> exact List.map_take

/-- A tier with a switch and a good subnet is refused for its entities only. -/
theorem checkTier_eq_checkEntities {t : Tier} (hswitch : Text.NonBlank t.switch)
    (hsubnet : ∀ s ∈ t.monitoringSubnet, IsNetwork s) :
    checkTier t = checkEntities t.name [] t.entities.toList := by
  have hmonitored : checkOptional "monitoring_subnet" Network.Cidr.parse t.monitoringSubnet =
      .ok () := checkOptional_eq_ok_iff.mpr hsubnet
  rw [checkTier, hmonitored, Text.isBlankText_eq_false_iff.mpr hswitch]
  rfl

theorem Tier.subnet_cases (t : Tier) : (∀ s ∈ t.monitoringSubnet, IsNetwork s) ∨
    ∃ subnet source, t.monitoringSubnet = some subnet ∧
      Network.Cidr.parse subnet = .error source := by
  cases t.monitoringSubnet with
  | none => simp
  | some subnet =>
      cases hparse : Network.Cidr.parse subnet with
      | error source => exact Or.inr ⟨subnet, source, rfl, hparse⟩
      | ok network =>
          left
          rintro _ ⟨⟩
          exact ⟨network, hparse⟩

theorem checkTier_eq_error_iff {t : Tier} {v : Violation} : checkTier t = .error v ↔ t.Fault v := by
  constructor
  · intro herror
    by_cases hblank : Text.isBlankText t.switch = true
    · rw [checkTier, if_pos hblank] at herror
      cases herror
      exact .unswitched hblank
    · have hswitch := Text.nonBlank_of_not_isBlankText hblank
      rcases t.subnet_cases with hsubnet | ⟨subnet, source, hgiven, hbad⟩
      · rw [checkTier_eq_checkEntities hswitch hsubnet] at herror
        obtain ⟨j, e, hentity, hfine, hfault⟩ := checkEntities_eq_error_iff.mp herror
        refine .entity j hentity ?_ hfault
        rwa [checkTier_eq_checkEntities (t := t.cut j) hswitch hsubnet, Tier.cut,
          Entities.toList_take]
      · rw [checkTier, if_neg hblank, hgiven] at herror
        simp only [checkOptional, checkField, hbad, Except.error.injEq] at herror
        subst herror
        exact .unmonitored hswitch hgiven hbad
  · intro hfault
    cases hfault with
    | unswitched hblank => rw [checkTier, if_pos hblank]
    | @unmonitored hswitch subnet source hgiven hbad =>
        have hmonitored : checkOptional "monitoring_subnet" Network.Cidr.parse t.monitoringSubnet =
            .error ⟨"monitoring_subnet", source⟩ := by
          simp only [hgiven, checkOptional, checkField, hbad]
        rw [checkTier, Text.isBlankText_eq_false_iff.mpr hswitch, hmonitored]
        rfl
    | entity j hentity hcut hfault =>
        have hvalid := checkTier_eq_ok_iff.mp hcut
        have hswitch : Text.NonBlank t.switch := hvalid.switch
        have hsubnet : ∀ s ∈ t.monitoringSubnet, IsNetwork s := hvalid.monitoringSubnet
        rw [checkTier_eq_checkEntities (t := t.cut j) hswitch hsubnet, Tier.cut,
          Entities.toList_take] at hcut
        rw [checkTier_eq_checkEntities hswitch hsubnet]
        exact checkEntities_eq_error_iff.mpr ⟨j, _, hentity, hcut, hfault⟩

section Tiers

variable {names : List String} {t : Tier} {v : Violation}

theorem isWalk_checkTiers : IsWalk Tier.name checkTiers where
  nil _ := rfl
  cons seen t rest := by
    simp only [checkTiers]
    split
    · rfl
    · split
      · rfl
      · cases checkTier t <;> rfl
  reverse seen t := by simp only [checkTiers, List.mem_reverse]

theorem checkTiers_singleton_eq_error_iff :
    checkTiers names [t] = .error v ↔ t.FaultAfter names v := by
  simp only [checkTiers]
  constructor
  · intro herror
    by_cases hblank : Text.isBlankText t.name = true
    · rw [if_pos hblank] at herror
      cases herror
      exact .unnamed hblank
    · have hnamed := Text.nonBlank_of_not_isBlankText hblank
      rw [if_neg hblank] at herror
      by_cases hseen : t.name ∈ names
      · rw [if_pos hseen] at herror
        cases herror
        exact .repeated hnamed hseen
      · rw [if_neg hseen] at herror
        cases hcheck : checkTier t with
        | ok _ => simp [hcheck, bind, Except.bind] at herror
        | error w =>
            simp only [hcheck, bind, Except.bind, Except.error.injEq] at herror
            subst herror
            exact .inside hnamed hseen (checkTier_eq_error_iff.mp hcheck)
  · intro hfault
    cases hfault with
    | unnamed hblank => rw [if_pos hblank]
    | repeated hnamed hseen => simp [Text.isBlankText_eq_false_iff.mpr hnamed, hseen]
    | inside hnamed hfresh hfault =>
        simp [Text.isBlankText_eq_false_iff.mpr hnamed, hfresh, bind, Except.bind,
          checkTier_eq_error_iff.mpr hfault]

end Tiers

namespace Topology

variable {t : Topology} {v : Violation}

/-- A topology is refused for the first of its tiers that has a fault. -/
theorem checkTopology_eq_error_iff :
    checkTopology t = .error v ↔ ∃ k tier, t.FaultAt k tier v := by
  rw [checkTopology, isWalk_checkTiers.eq_error_iff]
  simp only [checkTiers_singleton_eq_error_iff]
  constructor
  · rintro ⟨k, tier, hpresent, hbefore, hfault⟩
    exact ⟨k, tier, hpresent, hbefore, hfault⟩
  · rintro ⟨k, tier, hpresent, hbefore, hfault⟩
    exact ⟨k, tier, hpresent, hbefore, hfault⟩

/-- What is behind the tier does not matter. -/
theorem FaultAt.of_prefix {k : Nat} {tier : Tier} (hfault : t.FaultAt k tier v) {t' : Topology}
    (hbegins : t.tiers.take (k + 1) <+: t'.tiers) : t'.FaultAt k tier v := by
  obtain ⟨back, heq⟩ := hbegins
  have hlt : k < t.tiers.length := (List.getElem?_eq_some_iff.mp hfault.present).1
  have hlength : (t.tiers.take (k + 1)).length = k + 1 := by
    rw [List.length_take]
    omega
  have hpresent : t'.tiers[k]? = some tier := by
    rw [← heq, List.getElem?_append_left (by omega), List.getElem?_take_of_lt (Nat.lt_succ_self k),
      hfault.present]
  have hbefore : t'.tiers.take k = t.tiers.take k := by
    rw [← heq, List.take_append_of_le_length (by omega), List.take_take, Nat.min_eq_left (by omega)]
  exact ⟨hpresent, hbefore ▸ hfault.before, hbefore ▸ hfault.fault⟩

end Topology

/-- The entities are some of others, in their order. -/
inductive Entities.Within : Entities → Entities → Prop
  | servers {list list' : List Server} (hsome : list.Sublist list') :
      Within (.servers list) (.servers list')
  | services {list list' : List Service} (hsome : list.Sublist list') :
      Within (.services list) (.services list')
  | databases {list list' : List Database} (hsome : list.Sublist list') :
      Within (.databases list) (.databases list')
  | resources {list list' : List Resource} (hsome : list.Sublist list') :
      Within (.resources list) (.resources list')

theorem Entities.Within.toList_sublist {entities entities' : Entities}
    (hwithin : entities.Within entities') : entities.toList.Sublist entities'.toList := by
  cases hwithin <;> rename_i hsome <;> exact hsome.map _

/-- The tier is another without some of its entities. -/
structure Tier.Within (t t' : Tier) : Prop where
  name : t.name = t'.name
  switch : t.switch = t'.switch
  monitoringSubnet : t.monitoringSubnet = t'.monitoringSubnet
  template : t.template = t'.template
  entities : t.entities.Within t'.entities

theorem Tier.Within.valid {t t' : Tier} (hwithin : t.Within t') (hvalid : t'.Valid) : t.Valid := by
  have hsome := hwithin.entities.toList_sublist
  exact {
    switch := hwithin.switch ▸ hvalid.switch
    monitoringSubnet := hwithin.monitoringSubnet ▸ hvalid.monitoringSubnet
    named := fun e he => hvalid.named e (hsome.subset he)
    distinct := hvalid.distinct.sublist (hsome.map Entity.name)
    entities := fun e he => hvalid.entities e (hsome.subset he) }

/-- The topology is another without some of its tiers and some of their entities. -/
def Topology.Within (t t' : Topology) : Prop :=
  t.tiers.SublistForall₂ Tier.Within t'.tiers

theorem Topology.Within.exists_within {t t' : Topology} (hwithin : t.Within t') {tier : Tier}
    (htier : tier ∈ t.tiers) : ∃ tier' ∈ t'.tiers, tier.Within tier' := by
  unfold Topology.Within at hwithin
  generalize t.tiers = tiers at hwithin htier
  generalize t'.tiers = tiers' at hwithin ⊢
  induction hwithin with
  | nil => cases htier
  | cons hpair _ ih =>
      rcases List.mem_cons.mp htier with rfl | htier
      · exact ⟨_, List.mem_cons_self, hpair⟩
      · obtain ⟨tier', hmem, hpair'⟩ := ih htier
        exact ⟨tier', List.mem_cons_of_mem _ hmem, hpair'⟩
  | cons_right _ ih =>
      obtain ⟨tier', hmem, hpair⟩ := ih htier
      exact ⟨tier', List.mem_cons_of_mem _ hmem, hpair⟩

theorem Topology.Within.names_sublist {t t' : Topology} (hwithin : t.Within t') :
    (t.tiers.map Tier.name).Sublist (t'.tiers.map Tier.name) := by
  unfold Topology.Within at hwithin
  generalize t.tiers = tiers at hwithin ⊢
  generalize t'.tiers = tiers' at hwithin ⊢
  induction hwithin with
  | nil => exact List.nil_sublist _
  | cons hpair _ ih =>
      rw [List.map_cons, List.map_cons, hpair.name]
      exact ih.cons_cons _
  | cons_right _ ih => exact ih.cons _

/-- Nothing that is taken away makes a valid topology invalid. -/
theorem Topology.Within.valid {t t' : Topology} (hwithin : t.Within t') (hvalid : t'.Valid) :
    t.Valid where
  named tier htier := by
    obtain ⟨tier', hmem, hpair⟩ := hwithin.exists_within htier
    exact hpair.name ▸ hvalid.named tier' hmem
  distinct := hvalid.distinct.sublist hwithin.names_sublist
  tiers tier htier := by
    obtain ⟨tier', hmem, hpair⟩ := hwithin.exists_within htier
    exact hpair.valid (hvalid.tiers tier' hmem)

/-- A topology is refused for the first fault of its first tier that has one.  The tiers before it
are valid, and whatever tiers follow, the same is reported.  Within the tier what matters first is
its name, its switch and its subnet, and then the first entity that has a fault: cut to the entities
before it the tier is valid, and a bad field is the first in the order of the checks.  A valid
topology stays valid without some of its tiers and entities. -/
theorem first_violation (t : Topology) :
    (∀ v, checkTopology t = .error v ↔ ∃ k tier, t.FaultAt k tier v) ∧
    (∀ k tier v, t.FaultAt k tier v → ∀ t' : Topology, t.tiers.take (k + 1) <+: t'.tiers →
      checkTopology t' = .error v) ∧
    (checkTopology t = .ok () → ∀ t' : Topology, t'.Within t → checkTopology t' = .ok ()) := by
  refine ⟨fun v => Topology.checkTopology_eq_error_iff, ?_, ?_⟩
  · intro k tier v hfault t' hbegins
    exact Topology.checkTopology_eq_error_iff.mpr ⟨k, tier, hfault.of_prefix hbegins⟩
  · intro hok t' hwithin
    exact checkTopology_eq_ok_iff.mpr (hwithin.valid (checkTopology_eq_ok_iff.mp hok))

/-- A web tier of which the second server has the name of the first and no good address. -/
def Tier.doubled : Tier :=
  ⟨"web", "ls-web", none, none,
    .servers [⟨"a", "10.0.0.1", none, none, none⟩, ⟨"a", "10.0.0", none, none, none⟩]⟩

/-- The name is what is reported, with or without a tier behind that has no switch. -/
theorem first_violation_doubled :
    let t : Topology := ⟨[.doubled, ⟨"web", "", none, none, .services []⟩]⟩
    t.FaultAt 0 .doubled (.duplicateEntity "web" "a") ∧
      checkTopology ⟨[.doubled]⟩ = .error (.duplicateEntity "web" "a") := by
  intro t
  have hfault : t.FaultAt 0 .doubled (.duplicateEntity "web" "a") := {
    present := rfl
    before := rfl
    fault := by
      refine .inside (Text.nonBlank_of_not_isBlankText (by decide)) (by decide) ?_
      refine .entity 1 rfl rfl ?_
      exact .repeated (Text.nonBlank_of_not_isBlankText (by decide)) (by decide) }
  exact ⟨hfault, (first_violation t).2.1 0 .doubled _ hfault ⟨[.doubled]⟩ (List.prefix_refl _)⟩

end PolicyRollout
