import PolicyRollout.Proofs.Document.Conveyed
import PolicyRollout.Topology.Load
/-!
Topologies are read back from their JSON text.
-/
namespace PolicyRollout

open Document (Conveys Decoder Field Fields)
open Json (Value)

section Members

variable {α : Type} {types : List Type} {room : Nat} {decode : Decoder α} {write : α → Value}
  {rest : Fields types} {entries : Json.Entries} {row : Document.Row types}

/-- A member that is written only when it is there. -/
theorem optionalMember_holds (name : String) {given : Option α}
    (hgiven : ∀ a ∈ given, Conveys decode room (write a) a ∧ write a ≠ .null)
    (hrest : rest.Holds room entries row) :
    (Fields.cons (.maybe name decode) rest).Holds room (optionalMember name write given ++ entries)
      (given, row) := by
  cases given with
  | none => exact .omitted rfl hrest
  | some a =>
      obtain ⟨hconveys, hnull⟩ := hgiven a rfl
      exact .member (hconveys.optional hnull) hrest

theorem optionalText_holds (name : String) (given : Option String)
    (hrest : rest.Holds room entries row) :
    (Fields.cons (.maybe name Document.text) rest).Holds room
      (optionalMember name .string given ++ entries) (given, row) :=
  optionalMember_holds name (fun s _ => ⟨.text room s, by simp⟩) hrest

theorem optionalFlag_holds (name : String) (given : Option Bool)
    (hrest : rest.Holds room entries row) :
    (Fields.cons (.maybe name Document.flag) rest).Holds room
      (optionalMember name .bool given ++ entries) (given, row) :=
  optionalMember_holds name (fun b _ => ⟨.flag room b, by simp⟩) hrest

theorem optionalPort_holds (name : String) {given : Option Nat}
    (hport : ∀ port ∈ given, port ≤ 65535) (hrest : rest.Holds room entries row) :
    (Fields.cons (.maybe name Document.nat16) rest).Holds room
      (optionalMember name .nat given ++ entries) (given, row) :=
  optionalMember_holds name (fun port h => ⟨.nat16 room (hport port h), by simp [Value.nat]⟩) hrest

end Members

/-- The name of an engine that was read stands for that engine. -/
theorem Engine.parse_name (name : String) : parse (parse name).name = parse name := by
  have hknown : parse "mysql" = .mySql ∧ parse "postgresql" = .postgreSql ∧
      parse "mongodb" = .mongoDb ∧ parse "redis" = .redis := by
    decide
  obtain ⟨hmysql, hpostgresql, hmongodb, hredis⟩ := hknown
  cases hparse : parse name with
  | mySql => exact hmysql
  | postgreSql => exact hpostgresql
  | mongoDb => exact hmongodb
  | redis => exact hredis
  | other kept =>
      have hkept : kept = name := by
        unfold parse at hparse
        simp only at hparse
        repeat' split at hparse
        all_goals simp_all
      rw [Engine.name, hkept, hparse, hkept]

theorem Engine.conveys (room : Nat) (name : String) :
    Conveys Engine.decoder room (.string (parse name).name) (parse name) where
  exact := .string _
  decodes := by
    intro s hs
    rw [decoder, (Conveys.text room _).decodes hs]
    exact congrArg Except.ok (parse_name name)

theorem Server.conveys (e : Server) : Conveys Server.decoder 2 e.toJson e := by
  have hholds : Server.fields.Holds 1
      (("name", .string e.name) :: ("ip", .string e.ip) ::
        (optionalMember "allowed_sources" .string e.allowedSources ++
        (optionalMember "enable_ssh" .bool e.enableSsh ++
        (optionalMember "ssh_sources" .string e.sshSources ++ []))))
      (e.name, e.ip, e.allowedSources, e.enableSsh, e.sshSources, ()) :=
    .member (.text 1 e.name) <| .member (.text 1 e.ip) <|
      optionalText_holds _ _ <| optionalFlag_holds _ _ <| optionalText_holds _ _ .nil
  have hconveys : Conveys Server.decoder 2 (.object _) e := hholds.conveys (by decide) _ _
  simpa [Server.toJson] using hconveys

theorem Service.conveys {e : Service} (hport : ∀ port ∈ e.port, port ≤ 65535) :
    Conveys Service.decoder 2 e.toJson e := by
  have hholds : Service.fields.Holds 1
      (("name", .string e.name) :: ("ip", .string e.ip) ::
        (optionalMember "port" .nat e.port ++ [("dependencies", .strings e.dependencies)]))
      (e.name, e.ip, e.port, e.dependencies, ()) :=
    .member (.text 1 e.name) <| .member (.text 1 e.ip) <| optionalPort_holds _ hport <|
      .member (.strings 0 e.dependencies) .nil
  have hconveys : Conveys Service.decoder 2 (.object _) e := hholds.conveys (by decide) _ _
  simpa [Service.toJson] using hconveys

theorem Database.conveys {e : Database} (hport : ∀ port ∈ e.port, port ≤ 65535)
    (hengine : ∃ name, e.engine = .parse name) : Conveys Database.decoder 2 e.toJson e := by
  obtain ⟨name, hname⟩ := hengine
  have hparsed : Conveys Engine.decoder 1 (.string e.engine.name) e.engine := by
    rw [hname]
    exact Engine.conveys 1 name
  have hholds : Database.fields.Holds 1
      (("name", .string e.name) :: ("type", .string e.engine.name) :: ("ip", .string e.ip) ::
        (optionalMember "port" .nat e.port ++ ("app_subnet", .string e.appSubnet) ::
        (optionalMember "backup_server" .string e.backupServer ++
        (optionalMember "enable_replication" .bool e.enableReplication ++
        [("replicas", .strings e.replicas)]))))
      (e.name, e.engine, e.ip, e.port, e.appSubnet, e.backupServer, e.enableReplication,
        e.replicas, ()) :=
    .member (.text 1 e.name) <| .member hparsed <| .member (.text 1 e.ip) <|
      optionalPort_holds _ hport <| .member (.text 1 e.appSubnet) <| optionalText_holds _ _ <|
      optionalFlag_holds _ _ <| .member (.strings 0 e.replicas) .nil
  have hconveys : Conveys Database.decoder 2 (.object _) e := hholds.conveys (by decide) _ _
  simpa [Database.toJson] using hconveys

theorem Resource.conveys {e : Resource} (hport : e.port ≤ 65535) :
    Conveys Resource.decoder 2 e.toJson e := by
  have hholds : Resource.fields.Holds 1
      (("name", .string e.name) :: ("ip", .string e.ip) :: ("port", .nat e.port) ::
        ("authorized_users", .strings e.authorizedUsers) ::
        (optionalMember "require_encryption" .bool e.requireEncryption ++ []))
      (e.name, e.ip, e.port, e.authorizedUsers, e.requireEncryption, ()) :=
    .member (.text 1 e.name) <| .member (.text 1 e.ip) <| .member (.nat16 1 hport) <|
      .member (.strings 0 e.authorizedUsers) <| optionalFlag_holds _ _ .nil
  have hconveys : Conveys Resource.decoder 2 (.object _) e := hholds.conveys (by decide) _ _
  simpa [Resource.toJson] using hconveys

/-- Ports have 16 bits, and engines are such as a name stands for. -/
def Entity.Representable : Entity → Prop
  | .server _ => True
  | .service e => ∀ port ∈ e.port, port ≤ 65535
  | .database e => (∀ port ∈ e.port, port ≤ 65535) ∧ ∃ name, e.engine = .parse name
  | .resource e => e.port ≤ 65535

def Topology.Representable (t : Topology) : Prop :=
  ∀ tier ∈ t.tiers, ∀ e ∈ tier.entities.toList, e.Representable

namespace TierDocument

def listFields : Fields [Option (List Server), Option (List Service), Option (List Database),
    Option (List Resource)] :=
  .cons (.maybe "servers" (Document.list Server.decoder)) <|
  .cons (.maybe "services" (Document.list Service.decoder)) <|
  .cons (.maybe "databases" (Document.list Database.decoder)) <|
  .cons (.maybe "resources" (Document.list Resource.decoder)) .nil

/-- A tier as it is written, with the one entity list it has. -/
def ofTier (t : Tier) : TierDocument where
  name := t.name
  switch := t.switch
  monitoringSubnet := t.monitoringSubnet
  template := t.template
  servers := match t.entities with
    | .servers list => some list
    | _ => none
  services := match t.entities with
    | .services list => some list
    | _ => none
  databases := match t.entities with
    | .databases list => some list
    | _ => none
  resources := match t.entities with
    | .resources list => some list
    | _ => none

theorem ofTier_toTier (t : Tier) : (ofTier t).toTier = .ok t := by
  obtain ⟨name, switch, monitoringSubnet, template, entities⟩ := t
  cases entities with
  | servers list => rfl
  | services list => rfl
  | databases list => rfl
  | resources list => rfl

/-- Of the four lists exactly the one that is there is written. -/
theorem listFields_holds {t : Tier} (ht : ∀ e ∈ t.entities.toList, e.Representable) :
    listFields.Holds 3 [t.entities.toMember]
      ((ofTier t).servers, (ofTier t).services, (ofTier t).databases, (ofTier t).resources,
        ()) := by
  obtain ⟨name, switch, monitoringSubnet, template, entities⟩ := t
  cases entities with
  | servers list =>
      have hlist := Conveys.list fun e (_ : e ∈ list) => e.conveys
      exact .member (hlist.optional (by simp)) <| .omitted rfl <| .omitted rfl <| .omitted rfl .nil
  | services list =>
      have hlist := Conveys.list fun e (he : e ∈ list) =>
        Service.conveys (ht (.service e) (List.mem_map_of_mem he))
      exact .omitted rfl <| .member (hlist.optional (by simp)) <| .omitted rfl <| .omitted rfl .nil
  | databases list =>
      have hlist := Conveys.list fun e (he : e ∈ list) =>
        have hrepresentable := ht (.database e) (List.mem_map_of_mem he)
        Database.conveys hrepresentable.1 hrepresentable.2
      exact .omitted rfl <| .omitted rfl <| .member (hlist.optional (by simp)) <| .omitted rfl .nil
  | resources list =>
      have hlist := Conveys.list fun e (he : e ∈ list) =>
        Resource.conveys (ht (.resource e) (List.mem_map_of_mem he))
      exact .omitted rfl <| .omitted rfl <| .omitted rfl <| .member (hlist.optional (by simp)) .nil

theorem conveys {t : Tier} (ht : ∀ e ∈ t.entities.toList, e.Representable) :
    Conveys TierDocument.decoder 4 t.toJson (ofTier t) := by
  have hholds : TierDocument.fields.Holds 3
      (("name", .string t.name) :: ("switch", .string t.switch) ::
        (optionalMember "monitoring_subnet" .string t.monitoringSubnet ++
        (optionalMember "template" .string t.template ++ [t.entities.toMember])))
      (t.name, t.switch, t.monitoringSubnet, t.template, _) :=
    .member (.text 3 t.name) <| .member (.text 3 t.switch) <| optionalText_holds _ _ <|
      optionalText_holds _ _ (listFields_holds ht)
  have hconveys : Conveys TierDocument.decoder 4 (.object _) (ofTier t) :=
    hholds.conveys (by decide) _ _
  simpa [Tier.toJson] using hconveys

end TierDocument

theorem Tier.conveys {t : Tier} (ht : ∀ e ∈ t.entities.toList, e.Representable) :
    Conveys Tier.decoder 4 t.toJson t where
  exact := (TierDocument.conveys ht).exact
  decodes := by
    intro s hs
    rw [decoder, (TierDocument.conveys ht).decodes hs]
    simp only [bind, Except.bind, TierDocument.ofTier_toTier]
    rfl

theorem Topology.conveys {t : Topology} (ht : t.Representable) :
    Conveys Topology.decoder 6 t.toJson t := by
  have htiers := Conveys.list fun tier (htier : tier ∈ t.tiers) => Tier.conveys (ht tier htier)
  have hholds : Topology.fields.Holds 5 [("tiers", .array (t.tiers.map Tier.toJson))]
      (t.tiers, ()) :=
    .member htiers .nil
  exact hholds.conveys (by decide) _ _

namespace Topology

theorem ofText_of_decode {t : Topology} {format : DocumentFormat} {text : String}
    (hdecode : format.decode Topology.decoder text = .ok t) :
    ofText format text = match checkTopology t with
      | .error violation => .error (.invalid violation)
      | .ok () => .ok t := by
  cases hcheck : checkTopology t with
  | error violation => simp only [ofText, hdecode, hcheck]
  | ok _ => simp only [ofText, hdecode, hcheck]

/-- A topology is read back from its JSON text, on one line or indented, and then
checked; nothing else can come of it. -/
theorem ofText_toJson (t : Topology) (ht : t.Representable) :
    let checked := match checkTopology t with
      | .error violation => Except.error (.invalid violation)
      | .ok () => .ok t
    ofText .json t.toJson.text = checked ∧ ofText .json t.toJson.prettyText = checked := by
  have hroom : 6 ≤ Json.maxDepth := by decide
  exact ⟨ofText_of_decode ((conveys ht).decode_text hroom),
    ofText_of_decode ((conveys ht).decode_prettyText hroom)⟩

/-- One tier of every kind, with texts that are escaped and attributes that are absent. -/
def everyKind : Topology := ⟨[
  ⟨"we\"b\\", "ls\x01", none, some "web \u2028 template", .servers [
    ⟨"a\n", "10.0.0.1", some "10.0.0.0/8", none, none⟩, ⟨"é😀", "::1", none, some false, none⟩]⟩,
  ⟨"app", "ls-app", some "10.1.0.0/16", none, .services [
    ⟨"api", "10.1.0.1", some 65535, ["db", "\x7f"]⟩, ⟨"db", "10.1.0.2", none, []⟩]⟩,
  ⟨"data", "ls-data", none, none, .databases [
    ⟨"main", .postgreSql, "10.2.0.1", none, "10.1.0.0/16", some "10.2.0.9", some true,
      ["10.2.0.2"]⟩,
    ⟨"wide", .other "Cockroach\tDB", "10.2.0.3", some 26257, "10.1.0.0/16", none, none, []⟩]⟩,
  ⟨"vault", "ls-vault", none, none, .resources [⟨"keys", "10.3.0.1", 8200, [], some true⟩]⟩,
  ⟨"empty", "ls-empty", none, none, .servers []⟩]⟩

theorem everyKind_representable : everyKind.Representable := by
  have hknown : ∃ name, Engine.postgreSql = .parse name := ⟨"PostgreSQL", by decide⟩
  have hother : ∃ name, Engine.other "Cockroach\tDB" = .parse name :=
    ⟨"Cockroach\tDB", by decide⟩
  simp [Representable, everyKind, Entities.toList, Entity.Representable, hknown, hother]

theorem checkTopology_everyKind : checkTopology everyKind = .ok () := rfl

theorem ofText_toJson_everyKind : everyKind.Representable ∧
    ofText .json everyKind.toJson.text = .ok everyKind ∧
    ofText .json everyKind.toJson.prettyText = .ok everyKind := by
  have hread := ofText_toJson everyKind everyKind_representable
  rw [checkTopology_everyKind] at hread
  exact ⟨everyKind_representable, hread⟩

end Topology

end PolicyRollout
