import PolicyRollout.Proofs.Document.Given
import PolicyRollout.Proofs.Topology.RoundTrip
/-!
Which objects are tiers.  A tier has a name and a switch and may have texts for its subnet and its
template; of its four entity lists exactly one must be there, and it may be empty.  A list that is
null is not there, and members of other names do not matter.
-/
namespace PolicyRollout

open Document (Absent Decoder Field Fields HoldsText Setting Uniform decodeValue given_text_iff
  given_maybe_text_iff)
open Document.Fields (given_cons_iff)
open Json (Entries Value)

def TierKind.listName : TierKind → String
  | .web => "servers"
  | .application => "services"
  | .data => "databases"
  | .secure => "resources"

/-- An entity in the list of a kind. -/
def Entity.decoderOf : TierKind → Decoder Entity
  | .web => fun s node => do
    let e ← Server.decoder s node
    return .server e
  | .application => fun s node => do
    let e ← Service.decoder s node
    return .service e
  | .data => fun s node => do
    let e ← Database.decoder s node
    return .database e
  | .secure => fun s node => do
    let e ← Resource.decoder s node
    return .resource e

/-- The entities that an object lists for a kind, if the list is not absent. -/
def HoldsEntities (entries : Entries) (kind : TierKind) : Option Entities → Prop
  | some entities => entities.kind = kind ∧ ∃ items, (kind.listName, .array items) ∈ entries ∧
      List.Forall₂ (fun item e => decodeValue (Entity.decoderOf kind) item = .ok e) items
        entities.toList
  | none => Absent entries kind.listName

/-- The list of entities of a kind is absent, or it is an array of such entities. -/
def ReadableList (entries : Entries) (kind : TierKind) : Prop :=
  Absent entries kind.listName ∨ ∃ items, (kind.listName, .array items) ∈ entries ∧
    ∀ item ∈ items, ∃ e, decodeValue (Entity.decoderOf kind) item = .ok e

/-- The kinds whose entities an object lists. -/
def listedKinds (entries : Entries) : List TierKind :=
  TierKind.all.filter fun kind => entries.any fun e =>
    e.1 = kind.listName && match e.2 with
      | .null => false
      | _ => true

/-- How the entities of a kind are listed: what reads one of them, and what it and a list of them
are to a tier. -/
structure Listing {α : Type} (kind : TierKind) (decode : Decoder α) (entity : α → Entity)
    (wrap : List α → Entities) : Prop where
  uniform : Uniform 2 decode
  decoderOf : Entity.decoderOf kind = fun s node => do
    let a ← decode s node
    return entity a
  kind_wrap : ∀ list, (wrap list).kind = kind
  toList_wrap : ∀ list, (wrap list).toList = list.map entity
  injective : Function.Injective entity

theorem Server.listing : Listing .web Server.decoder .server .servers where
  uniform := Uniform.record (.cons (.text 1) <| .cons (.text 1) <|
    .cons (Uniform.text 1).optional <| .cons (Uniform.flag 1).optional <|
    .cons (Uniform.text 1).optional .nil) _ _
  decoderOf := rfl
  kind_wrap _ := rfl
  toList_wrap _ := rfl
  injective _ _ := Entity.server.inj

theorem Service.listing : Listing .application Service.decoder .service .services where
  uniform := Uniform.record (.cons (.text 1) <| .cons (.text 1) <|
    .cons (Uniform.nat16 1).optional <| .cons (Uniform.text 0).list .nil) _ _
  decoderOf := rfl
  kind_wrap _ := rfl
  toList_wrap _ := rfl
  injective _ _ := Entity.service.inj

theorem Database.listing : Listing .data Database.decoder .database .databases where
  uniform := Uniform.record (.cons (.text 1) <| .cons ((Uniform.text 1).bind Engine.parse) <|
    .cons (.text 1) <| .cons (Uniform.nat16 1).optional <| .cons (.text 1) <|
    .cons (Uniform.text 1).optional <| .cons (Uniform.flag 1).optional <|
    .cons (Uniform.text 0).list .nil) _ _
  decoderOf := rfl
  kind_wrap _ := rfl
  toList_wrap _ := rfl
  injective _ _ := Entity.database.inj

theorem Resource.listing : Listing .secure Resource.decoder .resource .resources where
  uniform := Uniform.record (.cons (.text 1) <| .cons (.text 1) <| .cons (.nat16 1) <|
    .cons (Uniform.text 0).list <| .cons (Uniform.flag 1).optional .nil) _ _
  decoderOf := rfl
  kind_wrap _ := rfl
  toList_wrap _ := rfl
  injective _ _ := Entity.resource.inj

namespace Listing

variable {α : Type} {kind : TierKind} {decode : Decoder α} {entity : α → Entity}
  {wrap : List α → Entities}

theorem decodes_iff (hlisting : Listing kind decode entity wrap) {item : Value} {a : α} :
    decodeValue (Entity.decoderOf kind) item = .ok (entity a) ↔
      decodeValue decode item = .ok a := by
  rw [hlisting.decoderOf]
  constructor
  · intro hread
    obtain ⟨b, hb, heq⟩ := Document.bind_eq_ok_iff.mp hread
    exact hlisting.injective (Except.ok.inj heq) ▸ hb
  · intro ha
    exact Document.bind_eq_ok_iff.mpr ⟨a, ha, rfl⟩

theorem forall₂_decodes_iff (hlisting : Listing kind decode entity wrap) (items : List Value)
    (list : List α) :
    List.Forall₂ (fun item e => decodeValue (Entity.decoderOf kind) item = .ok e) items
        (wrap list).toList ↔
      List.Forall₂ (fun item a => decodeValue decode item = .ok a) items list := by
  simp only [hlisting.toList_wrap, List.forall₂_map_right_iff, hlisting.decodes_iff]

/-- A list of entities gives a tier what its items are read as, each by itself. -/
theorem given_iff (hlisting : Listing kind decode entity wrap) {s : Setting} (hroomy : s.Roomy 3)
    (hlists : s.dialect.recordsAsLists = true) {entries : Entries} {o : Option (List α)} :
    (Field.maybe kind.listName (Document.list decode)).Given s entries o ↔
      HoldsEntities entries kind (o.map wrap) := by
  have hitems := hlisting.forall₂_decodes_iff
  have hlist : ∀ v list,
      Document.list decode (s.step (.member kind.listName)) (.ofValue v) = .ok list ↔
        ∃ items, v = .array items ∧
          List.Forall₂ (fun item a => decodeValue decode item = .ok a) items list :=
    fun v list => hlisting.uniform.list_eq_ok_iff (s := s.step _) hroomy hlists
  rw [Document.given_maybe_iff]
  constructor
  · rintro (⟨habsent, rfl⟩ | ⟨v, list, hmember, _, hread, rfl⟩)
    · exact habsent
    · obtain ⟨items, rfl, hread'⟩ := (hlist v list).mp hread
      exact ⟨hlisting.kind_wrap list, items, hmember, (hitems items list).mpr hread'⟩
  · intro hholds
    cases o with
    | none => exact Or.inl ⟨hholds, rfl⟩
    | some list =>
        obtain ⟨_, items, hmember, hread⟩ := hholds
        exact Or.inr ⟨.array items, list, hmember, nofun,
          (hlist _ list).mpr ⟨items, rfl, (hitems items list).mp hread⟩, rfl⟩

/-- Items that can be read one by one make up a list. -/
theorem exists_holds (hlisting : Listing kind decode entity wrap) {entries : Entries}
    (hreadable : ReadableList entries kind) :
    ∃ o : Option (List α), HoldsEntities entries kind (o.map wrap) := by
  rcases hreadable with habsent | ⟨items, hmember, hitems⟩
  · exact ⟨none, habsent⟩
  · have hlist : ∃ list, List.Forall₂ (fun item a => decodeValue decode item = .ok a) items
        list := by
      clear hmember
      induction items with
      | nil => exact ⟨[], .nil⟩
      | cons item items ih =>
          obtain ⟨e, he⟩ := hitems item List.mem_cons_self
          obtain ⟨list, hlist⟩ := ih (List.forall_mem_cons.mp hitems).2
          rw [hlisting.decoderOf] at he
          obtain ⟨a, ha, _⟩ := Document.bind_eq_ok_iff.mp he
          exact ⟨a :: list, .cons ha hlist⟩
    obtain ⟨list, hlist⟩ := hlist
    exact ⟨some list, hlisting.kind_wrap list, items, hmember,
      (hlisting.forall₂_decodes_iff items list).mpr hlist⟩

end Listing

theorem HoldsEntities.readable {entries : Entries} {kind : TierKind} {o : Option Entities}
    (hholds : HoldsEntities entries kind o) : ReadableList entries kind := by
  cases o with
  | none => exact Or.inl hholds
  | some entities =>
      obtain ⟨_, items, hmember, hitems⟩ := hholds
      refine Or.inr ⟨items, hmember, ?_⟩
      clear hmember
      generalize entities.toList = list at hitems
      induction hitems with
      | nil => simp
      | cons hitem _ ih => exact List.forall_mem_cons.mpr ⟨⟨_, hitem⟩, ih⟩

theorem TierKind.mem_all (kind : TierKind) : kind ∈ all := by
  cases kind <;> decide

theorem mem_listed_iff {entries : Entries} {kind : TierKind} :
    kind ∈ listedKinds entries ↔ ∃ v, (kind.listName, v) ∈ entries ∧ v ≠ .null := by
  have hthere : ∀ v : Value, (match v with
      | .null => false
      | _ => true) = true ↔ v ≠ .null := by
    intro v
    cases v <;> simp
  simp only [listedKinds, List.mem_filter, kind.mem_all, true_and, List.any_eq_true,
    Bool.and_eq_true, decide_eq_true_eq, hthere]
  constructor
  · rintro ⟨⟨_, v⟩, hmember, rfl, hnull⟩
    exact ⟨v, hmember, hnull⟩
  · rintro ⟨v, hmember, hnull⟩
    exact ⟨(kind.listName, v), hmember, rfl, hnull⟩

theorem listName_mem_names (kind : TierKind) : kind.listName ∈ TierDocument.fields.names := by
  cases kind <;> decide

theorem absent_of_not_listed {entries : Entries} {kind : TierKind}
    (hunlisted : kind ∉ listedKinds entries) : Absent entries kind.listName := by
  rw [mem_listed_iff] at hunlisted
  by_cases hmember : ∃ v, (kind.listName, v) ∈ entries
  · obtain ⟨v, hv⟩ := hmember
    by_cases hnull : v = .null
    · exact Or.inl (hnull ▸ hv)
    · exact absurd ⟨v, hv, hnull⟩ hunlisted
  · exact Or.inr (not_exists.mp hmember)

/-- The entities of a kind are there if the kind is listed. -/
theorem HoldsEntities.isSome_iff {entries : Entries}
    (hknown : (TierDocument.fields.known entries).names.Nodup) {kind : TierKind}
    {o : Option Entities} (hholds : HoldsEntities entries kind o) :
    o.isSome = true ↔ kind ∈ listedKinds entries := by
  rw [mem_listed_iff]
  cases o with
  | some entities =>
      obtain ⟨_, items, hmember, _⟩ := hholds
      exact ⟨fun _ => ⟨.array items, hmember, nofun⟩, fun _ => rfl⟩
  | none =>
      refine ⟨nofun, ?_⟩
      rintro ⟨v, hmember, hnull⟩
      rcases hholds with hisnull | hmissing
      · have hname := listName_mem_names kind
        exact absurd (Document.Fields.member_unique hknown hname hmember hisnull) hnull
      · exact absurd hmember (hmissing v)

namespace TierDocument

def entitiesOf (d : TierDocument) : TierKind → Option Entities
  | .web => d.servers.map .servers
  | .application => d.services.map .services
  | .data => d.databases.map .databases
  | .secure => d.resources.map .resources

/-- An object holds what a tier document says. -/
structure WrittenIn (d : TierDocument) (entries : Entries) : Prop where
  name : ("name", .string d.name) ∈ entries
  switch : ("switch", .string d.switch) ∈ entries
  monitoringSubnet : HoldsText entries "monitoring_subnet" d.monitoringSubnet
  template : HoldsText entries "template" d.template
  lists : ∀ kind, HoldsEntities entries kind (d.entitiesOf kind)

theorem fields_given_iff {s : Setting} (hroomy : s.Roomy 3)
    (hlists : s.dialect.recordsAsLists = true) {entries : Entries} {d : TierDocument} :
    fields.Given s entries (d.name, d.switch, d.monitoringSubnet, d.template, d.servers,
      d.services, d.databases, d.resources, ()) ↔ d.WrittenIn entries := by
  constructor
  · intro hgiven
    obtain ⟨hname, hmore⟩ := given_cons_iff.mp hgiven
    obtain ⟨hswitch, hmore⟩ := given_cons_iff.mp hmore
    obtain ⟨hsubnet, hmore⟩ := given_cons_iff.mp hmore
    obtain ⟨htemplate, hmore⟩ := given_cons_iff.mp hmore
    obtain ⟨hservers, hmore⟩ := given_cons_iff.mp hmore
    obtain ⟨hservices, hmore⟩ := given_cons_iff.mp hmore
    obtain ⟨hdatabases, hmore⟩ := given_cons_iff.mp hmore
    obtain ⟨hresources, _⟩ := given_cons_iff.mp hmore
    refine ⟨given_text_iff.mp hname, given_text_iff.mp hswitch, given_maybe_text_iff.mp hsubnet,
      given_maybe_text_iff.mp htemplate, fun kind => ?_⟩
    cases kind with
    | web => exact (Server.listing.given_iff hroomy hlists).mp hservers
    | application => exact (Service.listing.given_iff hroomy hlists).mp hservices
    | data => exact (Database.listing.given_iff hroomy hlists).mp hdatabases
    | secure => exact (Resource.listing.given_iff hroomy hlists).mp hresources
  · intro hwritten
    exact .cons (given_text_iff.mpr hwritten.name) <|
      .cons (given_text_iff.mpr hwritten.switch) <|
      .cons (given_maybe_text_iff.mpr hwritten.monitoringSubnet) <|
      .cons (given_maybe_text_iff.mpr hwritten.template) <|
      .cons ((Server.listing.given_iff hroomy hlists).mpr (hwritten.lists .web)) <|
      .cons ((Service.listing.given_iff hroomy hlists).mpr (hwritten.lists .application)) <|
      .cons ((Database.listing.given_iff hroomy hlists).mpr (hwritten.lists .data)) <|
      .cons ((Resource.listing.given_iff hroomy hlists).mpr (hwritten.lists .secure)) .nil

/-- A tier document is read from the objects that hold what it says. -/
theorem decoder_eq_ok_iff {s : Setting} (hroomy : s.Roomy 4)
    (hlists : s.dialect.recordsAsLists = true) {entries : Entries}
    (hknown : (fields.known entries).names.Nodup) {d : TierDocument} :
    decoder s (.ofValue (.object entries)) = .ok d ↔ d.WrittenIn entries := by
  obtain ⟨inner, hinner, hwithin⟩ := hroomy.enter
  have hinnerlists : inner.dialect.recordsAsLists = true :=
    (Setting.dialect_enter hinner).symm ▸ hlists
  rw [decoder, Document.record_eq_ok_iff_given (by decide) hknown]
  constructor
  · rintro ⟨inner', row, hinner', hrow, rfl⟩
    cases hinner.symm.trans hinner'
    exact (fields_given_iff hwithin hinnerlists).mp hrow
  · intro hwritten
    exact ⟨inner, _, hinner, (fields_given_iff hwithin hinnerlists).mpr hwritten, rfl⟩

theorem lists_eq (d : TierDocument) : d.lists = TierKind.all.filterMap d.entitiesOf := by
  obtain ⟨_, _, _, _, servers, services, databases, resources⟩ := d
  cases servers <;> cases services <;> cases databases <;> cases resources <;> rfl

/-- The lists of a tier document are those of the kinds that are listed. -/
theorem WrittenIn.listed_eq {entries : Entries} (hknown : (fields.known entries).names.Nodup)
    {d : TierDocument} (hwritten : d.WrittenIn entries) :
    listedKinds entries = d.lists.map Entities.kind := by
  rw [lists_eq, List.map_filterMap, listedKinds, ← List.filterMap_eq_filter]
  apply List.filterMap_congr
  intro kind hkind
  have hholds := hwritten.lists kind
  have hlisted := hholds.isSome_iff hknown
  rw [listedKinds, List.mem_filter, and_iff_right hkind] at hlisted
  cases hentities : d.entitiesOf kind with
  | none =>
      rw [hentities, Option.isSome_none] at hlisted
      exact if_neg fun hmem => by cases hlisted.mpr hmem
  | some entities =>
      rw [hentities] at hholds hlisted
      exact (if_pos (hlisted.mp rfl)).trans (congrArg some hholds.1.symm)

theorem toTier_eq_ok_iff {d : TierDocument} {tier : Tier} :
    d.toTier = .ok tier ↔ ∃ entities, d.lists = [entities] ∧
      tier = ⟨d.name, d.switch, d.monitoringSubnet, d.template, entities⟩ := by
  unfold toTier
  match d.lists with
  | [] => simp
  | [entities] => simp [eq_comm]
  | _ :: _ :: _ => simp

theorem toTier_of_none (d : TierDocument) (hnone : d.lists = []) :
    d.toTier = .error (.noEntities d.name) := by
  rw [toTier, hnone]

theorem toTier_of_several (d : TierDocument) (hmany : 2 ≤ d.lists.length) :
    d.toTier = .error (.severalKinds d.name) := by
  unfold toTier
  match hlists : d.lists with
  | [] => simp [hlists] at hmany
  | [_] => simp [hlists] at hmany
  | _ :: _ :: _ => rfl

theorem entitiesOf_ofTier (tier : Tier) (kind : TierKind) :
    (ofTier tier).entitiesOf kind = if kind = tier.kind then some tier.entities else none := by
  obtain ⟨name, switch, monitoringSubnet, template, entities⟩ := tier
  cases entities <;> cases kind <;> rfl

end TierDocument

namespace Tier

/-- An object is a tier but for the number of its entity lists. -/
structure WellTyped (entries : Entries) : Prop where
  name : ∃ name, ("name", .string name) ∈ entries
  switch : ∃ switch, ("switch", .string switch) ∈ entries
  monitoringSubnet : ∃ given, HoldsText entries "monitoring_subnet" given
  template : ∃ given, HoldsText entries "template" given
  lists : ∀ kind, ReadableList entries kind

/-- An object holds a tier, with one entity list. -/
structure WrittenIn (tier : Tier) (entries : Entries) : Prop where
  name : ("name", .string tier.name) ∈ entries
  switch : ("switch", .string tier.switch) ∈ entries
  monitoringSubnet : HoldsText entries "monitoring_subnet" tier.monitoringSubnet
  template : HoldsText entries "template" tier.template
  listed : listedKinds entries = [tier.kind]
  entities : ∃ items, (tier.kind.listName, .array items) ∈ entries ∧
    List.Forall₂ (fun item e => decodeValue (Entity.decoderOf tier.kind) item = .ok e) items
      tier.entities.toList

variable {entries : Entries}

theorem writtenIn_iff (hknown : (TierDocument.fields.known entries).names.Nodup) {tier : Tier} :
    tier.WrittenIn entries ↔ ∃ d : TierDocument, d.WrittenIn entries ∧ d.toTier = .ok tier := by
  constructor
  · intro hwritten
    refine ⟨.ofTier tier, ⟨hwritten.name, hwritten.switch, hwritten.monitoringSubnet,
      hwritten.template, fun kind => ?_⟩, TierDocument.ofTier_toTier tier⟩
    rw [TierDocument.entitiesOf_ofTier]
    by_cases hkind : kind = tier.kind
    · rw [if_pos hkind, hkind]
      exact ⟨rfl, hwritten.entities⟩
    · rw [if_neg hkind]
      have hunlisted : kind ∉ listedKinds entries := by
        rw [hwritten.listed]
        simpa using hkind
      exact absent_of_not_listed hunlisted
  · rintro ⟨d, hwritten, htier⟩
    obtain ⟨entities, hlists, rfl⟩ := TierDocument.toTier_eq_ok_iff.mp htier
    have hmem : entities ∈ TierKind.all.filterMap d.entitiesOf := by
      rw [← d.lists_eq, hlists]
      exact List.mem_singleton_self _
    obtain ⟨kind, _, hentities⟩ := List.mem_filterMap.mp hmem
    have hholds := hwritten.lists kind
    rw [hentities] at hholds
    obtain ⟨rfl, hitems⟩ := hholds
    refine ⟨hwritten.name, hwritten.switch, hwritten.monitoringSubnet, hwritten.template, ?_,
      hitems⟩
    rw [hwritten.listed_eq hknown, hlists]
    rfl

theorem wellTyped_iff : WellTyped entries ↔ ∃ d : TierDocument, d.WrittenIn entries := by
  constructor
  · rintro ⟨⟨name, hname⟩, ⟨switch, hswitch⟩, ⟨subnet, hsubnet⟩, ⟨template, htemplate⟩, hlists⟩
    obtain ⟨servers, hservers⟩ := Server.listing.exists_holds (hlists .web)
    obtain ⟨services, hservices⟩ := Service.listing.exists_holds (hlists .application)
    obtain ⟨databases, hdatabases⟩ := Database.listing.exists_holds (hlists .data)
    obtain ⟨resources, hresources⟩ := Resource.listing.exists_holds (hlists .secure)
    refine ⟨⟨name, switch, subnet, template, servers, services, databases, resources⟩,
      hname, hswitch, hsubnet, htemplate, fun kind => ?_⟩
    cases kind with
    | web => exact hservers
    | application => exact hservices
    | data => exact hdatabases
    | secure => exact hresources
  · rintro ⟨d, hwritten⟩
    refine ⟨⟨_, hwritten.name⟩, ⟨_, hwritten.switch⟩, ⟨_, hwritten.monitoringSubnet⟩,
      ⟨_, hwritten.template⟩, fun kind => (hwritten.lists kind).readable⟩

theorem decoder_eq_ok_iff {s : Setting} {node : Document.Node} {tier : Tier} :
    decoder s node = .ok tier ↔
      ∃ d, TierDocument.decoder s node = .ok d ∧ d.toTier = .ok tier := by
  constructor
  · intro hread
    obtain ⟨d, hd, hread⟩ := Document.bind_eq_ok_iff.mp hread
    cases htier : d.toTier with
    | error e => simp [htier] at hread
    | ok found =>
        simp only [htier] at hread
        obtain rfl := Except.ok.inj hread
        exact ⟨d, hd, htier⟩
  · rintro ⟨d, hd, htier⟩
    refine Document.bind_eq_ok_iff.mpr ⟨d, hd, ?_⟩
    simp only [htier]
    rfl

section

variable {s : Setting}

/-- An object is read as the tiers that it holds, if no name is repeated. -/
theorem decoder_object_eq_ok_iff (hroomy : s.Roomy 4) (hlists : s.dialect.recordsAsLists = true)
    {tier : Tier} : decoder s (.ofValue (.object entries)) = .ok tier ↔
      (TierDocument.fields.known entries).names.Nodup ∧ tier.WrittenIn entries := by
  rw [decoder_eq_ok_iff]
  constructor
  · rintro ⟨d, hd, htier⟩
    have hknown := Document.record_names_nodup (by decide) hd
    have hwritten := (TierDocument.decoder_eq_ok_iff hroomy hlists hknown).mp hd
    exact ⟨hknown, (writtenIn_iff hknown).mpr ⟨d, hwritten, htier⟩⟩
  · rintro ⟨hknown, hwritten⟩
    obtain ⟨d, hd, htier⟩ := (writtenIn_iff hknown).mp hwritten
    exact ⟨d, (TierDocument.decoder_eq_ok_iff hroomy hlists hknown).mpr hd, htier⟩

theorem WrittenIn.wellTyped {tier : Tier} (hknown : (TierDocument.fields.known entries).names.Nodup)
    (hwritten : tier.WrittenIn entries) : WellTyped entries := by
  obtain ⟨d, hd, _⟩ := (writtenIn_iff hknown).mp hwritten
  exact wellTyped_iff.mpr ⟨d, hd⟩

/-- What becomes of an object that is well typed is decided by the number of its lists. -/
theorem decoder_of_wellTyped (hroomy : s.Roomy 4) (hlists : s.dialect.recordsAsLists = true)
    (hknown : (TierDocument.fields.known entries).names.Nodup) (htyped : WellTyped entries)
    {name : String} (hname : ("name", .string name) ∈ entries) :
    (listedKinds entries = [] → decoder s (.ofValue (.object entries)) =
      .error ⟨.refused (TierShapeError.noEntities name).message, none⟩) ∧
    (∀ kind, listedKinds entries = [kind] →
      ∃ tier, decoder s (.ofValue (.object entries)) = .ok tier) ∧
    (2 ≤ (listedKinds entries).length → decoder s (.ofValue (.object entries)) =
      .error ⟨.refused (TierShapeError.severalKinds name).message, none⟩) := by
  obtain ⟨d, hwritten⟩ := wellTyped_iff.mp htyped
  obtain rfl : name = d.name := by
    have heq := Document.Fields.member_unique hknown (by decide) hname hwritten.name
    exact Value.string.inj heq
  have hdecode := (TierDocument.decoder_eq_ok_iff hroomy hlists hknown).mpr hwritten
  have hrefused : ∀ e, d.toTier = .error e →
      decoder s (.ofValue (.object entries)) = .error ⟨.refused e.message, none⟩ := by
    intro e he
    simp only [decoder, hdecode, bind, Except.bind, he]
  rw [hwritten.listed_eq hknown, List.map_eq_nil_iff, List.length_map]
  refine ⟨fun hnone => hrefused _ (d.toTier_of_none hnone), fun kind hone => ?_,
    fun hmany => hrefused _ (d.toTier_of_several hmany)⟩
  obtain ⟨entities, hentities, _⟩ := List.map_eq_singleton_iff.mp hone
  exact ⟨_, decoder_eq_ok_iff.mpr ⟨d, hdecode,
    TierDocument.toTier_eq_ok_iff.mpr ⟨entities, hentities, rfl⟩⟩⟩

/-- Members of unknown names change nothing. -/
theorem decoder_known : decoder s (.ofValue (.object entries)) =
    decoder s (.ofValue (.object (TierDocument.fields.known entries))) := by
  simp only [decoder, TierDocument.decoder]
  rw [Document.record_known]

end

/-- An object is read as a tier exactly if one of the four entity lists is there, no known name is
repeated and all else is as it should be; the tier has the texts of the object and the entities of
that list, item by item.  An object that is well typed but for the number of its lists is refused by
the name of the tier, one that is not well typed is refused, and members of unknown names change
nothing. -/
theorem read_iff_one_list {s : Setting} (hroomy : s.Roomy 4)
    (hlists : s.dialect.recordsAsLists = true) :
    let read := decoder s (.ofValue (.object entries))
    let known := TierDocument.fields.known entries
    (∀ tier, read = .ok tier ↔ known.names.Nodup ∧ tier.WrittenIn entries) ∧
    (known.names.Nodup → WellTyped entries →
      ((∃ tier, read = .ok tier) ↔ ∃ kind, listedKinds entries = [kind]) ∧
      ∀ name, ("name", .string name) ∈ entries →
        (listedKinds entries = [] →
          read = .error ⟨.refused (TierShapeError.noEntities name).message, none⟩) ∧
        (2 ≤ (listedKinds entries).length →
          read = .error ⟨.refused (TierShapeError.severalKinds name).message, none⟩)) ∧
    (¬ WellTyped entries → ∃ complaint, read = .error complaint) ∧
    ∀ entries', TierDocument.fields.known entries' = known →
      decoder s (.ofValue (.object entries')) = read := by
  intro read known
  have hread : ∀ tier, read = .ok tier ↔ known.names.Nodup ∧ tier.WrittenIn entries := fun _ =>
    decoder_object_eq_ok_iff hroomy hlists
  refine ⟨hread, fun hknown htyped => ⟨⟨?_, ?_⟩, fun name hname => ?_⟩, fun hill => ?_,
    fun entries' hsame => ?_⟩
  · rintro ⟨tier, htier⟩
    exact ⟨tier.kind, ((hread tier).mp htier).2.listed⟩
  · rintro ⟨kind, hkind⟩
    obtain ⟨name, hname⟩ := htyped.name
    exact (decoder_of_wellTyped hroomy hlists hknown htyped hname).2.1 kind hkind
  · have hdecided := decoder_of_wellTyped hroomy hlists hknown htyped hname
    exact ⟨hdecided.1, hdecided.2.2⟩
  · cases hcase : read with
    | error complaint => exact ⟨complaint, rfl⟩
    | ok tier =>
        obtain ⟨hknown, hwritten⟩ := (hread tier).mp hcase
        exact absurd (hwritten.wellTyped hknown) hill
  · rw [decoder_known, hsame, ← decoder_known]

def twoServers : List Value :=
  [.object [("ip", .string "10.0.1.10"), ("enable_ssh", .bool true), ("name", .string "web-1")],
    .object [("name", .string "web-2"), ("ip", .string "10.0.1.11"), ("rack", .nat 3)]]

/-- A web tier of two servers, of which the services are null, with a member of another name. -/
def webTier : Entries :=
  [("note", .array [.null]), ("services", .null), ("name", .string "web"),
    ("servers", .array twoServers), ("switch", .string "ls-web")]

theorem read_webTier :
    let s : Setting := ⟨.json, [], some Json.maxDepth, []⟩
    s.Roomy 4 ∧ s.dialect.recordsAsLists = true ∧
      (TierDocument.fields.known webTier).names.Nodup ∧
      decoder s (.ofValue (.object webTier)) = .ok ⟨"web", "ls-web", none, none, .servers
        [⟨"web-1", "10.0.1.10", none, some true, none⟩,
          ⟨"web-2", "10.0.1.11", none, none, none⟩]⟩ := by
  intro s
  have hroomy : s.Roomy 4 := by simp [s, Setting.Roomy, Json.maxDepth]
  have hknown : (TierDocument.fields.known webTier).names.Nodup := by decide
  refine ⟨hroomy, rfl, hknown, ((read_iff_one_list hroomy rfl).1 _).mpr ⟨hknown, ?_⟩⟩
  exact {
    name := by simp [webTier]
    switch := by simp [webTier]
    monitoringSubnet := Or.inr (by simp [webTier])
    template := Or.inr (by simp [webTier])
    listed := rfl
    entities := ⟨twoServers, by simp [webTier, TierKind.listName, Tier.kind, Entities.kind],
      .cons rfl (.cons rfl .nil)⟩ }

end Tier

end PolicyRollout
