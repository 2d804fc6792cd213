import PolicyRollout.Http.Client
import PolicyRollout.Proofs.Document.Kept
/-!
Bodies of requests.  The body of a call is a JSON object from which all its arguments
can be read back: what the variables are sent as names every field of their record
once, and no two records name the same fields, so that not even their kind is lost.
-/
namespace PolicyRollout

open Document (Conveys Fields decodeValue)
open Json (Entries Value arrangedEntries)

/-- A text, a truth value or a natural number. -/
inductive Json.Value.Plain : Value → Prop
  | bool (b : Bool) : Plain (.bool b)
  | nat (n : Nat) : Plain (.nat n)
  | string (s : String) : Plain (.string s)

section Records

variable {members : Entries}

/-! Variables are decoded from their members in whatever order these stand. -/

theorem WebServerVariables.conveys {v : WebServerVariables} (hperm : members.Perm v.toEntries) :
    Conveys decoder 1 (.object members) v := by
  have hholds : fields.Holds 0 v.toEntries
      (v.serverIp, v.allowedSources, v.enableSsh, v.sshSources, ()) :=
    .member (.text 0 _) <| .member (.text 0 _) <| .member (.flag 0 _) <| .member (.text 0 _) .nil
  exact hholds.conveys_perm (by decide) hperm _ _

theorem MicroserviceVariables.conveys {v : MicroserviceVariables} (hport : v.servicePort ≤ 65535)
    (hperm : members.Perm v.toEntries) : Conveys decoder 1 (.object members) v := by
  have hholds : fields.Holds 0 v.toEntries
      (v.serviceName, v.serviceIp, v.servicePort, v.allowedServices, v.monitoringSubnet, ()) :=
    .member (.text 0 _) <| .member (.text 0 _) <| .member (.nat16 0 hport) <|
      .member (.text 0 _) <| .member (.text 0 _) .nil
  exact hholds.conveys_perm (by decide) hperm _ _

theorem DatabaseServerVariables.conveys {v : DatabaseServerVariables} (hport : v.dbPort ≤ 65535)
    (hperm : members.Perm v.toEntries) : Conveys decoder 1 (.object members) v := by
  have hholds : fields.Holds 0 v.toEntries (v.dbIp, v.dbPort, v.appSubnet, v.backupServer,
      v.enableReplication, v.replicaIps, ()) :=
    .member (.text 0 _) <| .member (.nat16 0 hport) <| .member (.text 0 _) <|
      .member (.stringOrNull 0 _) <| .member (.flag 0 _) <| .member (.text 0 _) .nil
  exact hholds.conveys_perm (by decide) hperm _ _

theorem ZeroTrustVariables.conveys {v : ZeroTrustVariables} (hport : v.resourcePort ≤ 65535)
    (hperm : members.Perm v.toEntries) : Conveys decoder 1 (.object members) v := by
  have hholds : fields.Holds 0 v.toEntries
      (v.resourceIp, v.resourcePort, v.authorizedUsers, v.requireEncryption, ()) :=
    .member (.text 0 _) <| .member (.nat16 0 hport) <| .member (.text 0 _) <|
      .member (.flag 0 _) .nil
  exact hholds.conveys_perm (by decide) hperm _ _

end Records

namespace Variables

/-- Ports are numbers of 16 bits. -/
def Representable : Variables → Prop
  | .webServer _ => True
  | .microservice v => v.servicePort ≤ 65535
  | .databaseServer v => v.dbPort ≤ 65535
  | .zeroTrust v => v.resourcePort ≤ 65535

def fieldNames : TierKind → List String
  | .web => WebServerVariables.fields.names
  | .application => MicroserviceVariables.fields.names
  | .data => DatabaseServerVariables.fields.names
  | .secure => ZeroTrustVariables.fields.names

/-- They are for a database that has no backup server. -/
def LacksBackup : Variables → Prop
  | .databaseServer v => v.backupServer = none
  | _ => False

/-- Members that stand for variables and for nothing else. -/
structure SentAs (vars : Variables) (members : Entries) : Prop where
  names : (Entries.names members).Perm (fieldNames vars.kind)
  plain : ∀ e ∈ members, e.2.Plain ∨ e = ("backup_server", .null) ∧ vars.LacksBackup
  decoded : decodeValue (decoderFor vars.kind) (.object members) = .ok vars

variable {vars others : Variables} {members : Entries}

/-- The fields tell the kinds apart. -/
theorem fieldNames_injective {k k' : TierKind} (hperm : (fieldNames k).Perm (fieldNames k')) :
    k = k' := by
  cases k <;> cases k' <;> first | rfl | exact absurd hperm (by decide)

theorem names_toEntries (vars : Variables) :
    Entries.names vars.toEntries = fieldNames vars.kind := by
  cases vars <;> rfl

theorem names_toEntries_nodup (vars : Variables) : (Entries.names vars.toEntries).Nodup := by
  rw [names_toEntries]
  cases vars.kind <;> decide

theorem toEntries_plain (vars : Variables) :
    ∀ e ∈ vars.toEntries, e.2.Plain ∨ e = ("backup_server", .null) ∧ vars.LacksBackup := by
  cases vars with
  | webServer v =>
      simp [toEntries, WebServerVariables.toEntries, Value.Plain.string, Value.Plain.bool]
  | microservice v =>
      simp [toEntries, MicroserviceVariables.toEntries, Value.Plain.string, Value.Plain.nat]
  | databaseServer v =>
      obtain ⟨dbIp, dbPort, appSubnet, backupServer, enableReplication, replicaIps⟩ := v
      cases backupServer with
      | none =>
          simp [toEntries, DatabaseServerVariables.toEntries, Value.stringOrNull, LacksBackup,
            Value.Plain.string, Value.Plain.nat, Value.Plain.bool]
      | some s =>
          simp [toEntries, DatabaseServerVariables.toEntries, Value.stringOrNull,
            Value.Plain.string, Value.Plain.nat, Value.Plain.bool]
  | zeroTrust v =>
      simp [toEntries, ZeroTrustVariables.toEntries, Value.Plain.string, Value.Plain.nat,
        Value.Plain.bool]

theorem conveys (hvars : vars.Representable) (hperm : members.Perm vars.toEntries) :
    Conveys (decoderFor vars.kind) 1 (.object members) vars := by
  cases vars with
  | webServer v => exact (WebServerVariables.conveys hperm).map Variables.webServer
  | microservice v => exact (MicroserviceVariables.conveys hvars hperm).map Variables.microservice
  | databaseServer v =>
      exact (DatabaseServerVariables.conveys hvars hperm).map Variables.databaseServer
  | zeroTrust v => exact (ZeroTrustVariables.conveys hvars hperm).map Variables.zeroTrust

theorem toMap_perm (vars : Variables) : vars.toMap.Perm vars.toEntries :=
  Entries.sorted_perm (names_toEntries_nodup vars)

theorem toMap_sentAs (hvars : vars.Representable) : vars.SentAs vars.toMap where
  names := names_toEntries vars ▸ (toMap_perm vars).map Prod.fst
  plain := fun e he => toEntries_plain vars e ((toMap_perm vars).mem_iff.mp he)
  decoded := (conveys hvars (toMap_perm vars)).decodes nofun

/-- Members stand for one record of variables only. -/
theorem SentAs.unique (hvars : vars.SentAs members) (hothers : others.SentAs members) :
    vars = others := by
  have hkind : vars.kind = others.kind :=
    fieldNames_injective (hvars.names.symm.trans hothers.names)
  have hdecoded := hvars.decoded
  rw [hkind, hothers.decoded] at hdecoded
  exact (Except.ok.inj hdecoded).symm

theorem toJson_wellFormed (vars : Variables) : vars.toJson.WellFormed := by
  apply Value.WellFormed.object (names_toEntries_nodup vars)
  rintro ⟨name, v⟩ he
  rcases toEntries_plain vars _ he with hplain | ⟨heq, _⟩
  · cases hplain with
    | bool b => exact .bool b
    | nat n => exact .number nofun
    | string s => exact .string s
  · cases heq
    exact .null

theorem arranged_toJson (vars : Variables) : vars.toJson.arranged = .object vars.toMap := by
  cases vars with
  | databaseServer v =>
      obtain ⟨dbIp, dbPort, appSubnet, backupServer, enableReplication, replicaIps⟩ := v
      cases backupServer <;> rfl
  | _ => rfl

theorem depth_toJson (vars : Variables) : vars.toJson.depth = 1 := by
  cases vars with
  | databaseServer v =>
      obtain ⟨dbIp, dbPort, appSubnet, backupServer, enableReplication, replicaIps⟩ := v
      cases backupServer <;> rfl
  | _ => rfl

end Variables

/-- A call that sends variables which can be represented. -/
def Call.Posts : Call → Prop
  | .list .. => False
  | .validate _ vars => vars.Representable
  | .instantiate _ vars _ _ => vars.Representable

/-- The members of the body of a call, in the order of their names. -/
def Call.bodyMembers : Call → Entries
  | .list .. => []
  | .validate id vars => [("template_id", .string id), ("variables", .object vars.toMap)]
  | .instantiate id vars switch dryRun =>
      ("dry_run", .bool dryRun) :: (optionalMember "target_switch" .string switch ++
        [("template_id", .string id), ("variables", .object vars.toMap)])

/-- All arguments of a call are among the members of its body. -/
theorem Call.bodyMembers_injective {call call' : Call} (hcall : call.Posts)
    (hcall' : call'.Posts) (heq : call.bodyMembers = call'.bodyMembers) : call = call' := by
  have hunique : ∀ {vars vars' : Variables}, vars.Representable → vars'.Representable →
      vars.toMap = vars'.toMap → vars = vars' := by
    intro vars vars' hvars hvars' hmap
    exact (Variables.toMap_sentAs hvars).unique (hmap ▸ Variables.toMap_sentAs hvars')
  cases call with
  | list category tags => exact hcall.elim
  | validate id vars =>
      cases call' with
      | list category tags => exact hcall'.elim
      | validate id' vars' =>
          simp only [bodyMembers, List.cons.injEq, Prod.mk.injEq, Value.string.injEq,
            Value.object.injEq, and_true, true_and] at heq
          rw [heq.1, hunique hcall hcall' heq.2]
      | instantiate id' vars' switch dryRun => simp [bodyMembers] at heq
  | instantiate id vars switch dryRun =>
      cases call' with
      | list category tags => exact hcall'.elim
      | validate id' vars' => simp [bodyMembers] at heq
      | instantiate id' vars' switch' dryRun' =>
          have hargs : dryRun = dryRun' ∧ switch = switch' ∧ id = id' ∧
              vars.toMap = vars'.toMap := by
            cases switch <;> cases switch' <;> simp_all [bodyMembers, optionalMember]
          obtain ⟨rfl, rfl, rfl, hmap⟩ := hargs
          rw [hunique hcall hcall' hmap]

def Call.body : Call → Value
  | .list .. => .null
  | .validate id vars => Http.Client.validationBody id vars
  | .instantiate id vars switch dryRun => Http.Client.instantiationBody id vars switch dryRun

namespace Call

variable {call : Call}

theorem body_wellFormed (call : Call) : call.body.WellFormed := by
  cases call with
  | list category tags => exact .null
  | validate id vars =>
      exact .object (by simp [Entries.names])
        (by simp [Value.WellFormed.string, vars.toJson_wellFormed])
  | instantiate id vars switch dryRun =>
      cases switch <;> exact .object (by simp [Entries.names, optionalMember])
        (by simp [optionalMember, Value.WellFormed.string, Value.WellFormed.bool,
          vars.toJson_wellFormed])

theorem body_exact (hcall : call.Posts) : call.body.Exact := by
  cases call with
  | list category tags => exact .null
  | validate id vars =>
      have hvars : vars.toJson.Exact := (Variables.conveys hcall (.refl _)).exact
      exact .object (by simp [Value.Exact.string, hvars])
  | instantiate id vars switch dryRun =>
      have hvars : vars.toJson.Exact := (Variables.conveys hcall (.refl _)).exact
      cases switch <;> exact .object (by simp [optionalMember, Value.Exact.string,
        Value.Exact.bool, hvars])

theorem depth_body (call : Call) : call.body.depth ≤ 2 := by
  cases call with
  | list category tags => exact Nat.zero_le _
  | validate id vars =>
      simp [body, Http.Client.validationBody, Value.depth, Json.entriesDepth, vars.depth_toJson]
  | instantiate id vars switch dryRun =>
      cases switch <;> simp [body, Http.Client.instantiationBody, optionalMember, Value.depth,
        Json.entriesDepth, vars.depth_toJson]

theorem bodyMembers_ordered (call : Call) : Entries.Ordered call.bodyMembers := by
  have hnames : (Entries.names call.bodyMembers).Pairwise (· < ·) := by
    cases call with
    | list category tags => exact .nil
    | validate id vars => exact show List.Pairwise (· < ·) ["template_id", "variables"] by decide
    | instantiate id vars switch dryRun =>
        cases switch with
        | none =>
            exact show List.Pairwise (· < ·) ["dry_run", "template_id", "variables"] by decide
        | some s =>
            exact show List.Pairwise (· < ·)
              ["dry_run", "target_switch", "template_id", "variables"] by decide
  exact List.pairwise_map.mp hnames

theorem arranged_body (hcall : call.Posts) : call.body.arranged = .object call.bodyMembers := by
  have hordered := bodyMembers_ordered call
  cases call with
  | list category tags => exact hcall.elim
  | validate id vars =>
      rw [body, Http.Client.validationBody, Value.arranged, Json.arrangedEntries_eq_map]
      simp only [List.map_cons, List.map_nil, vars.arranged_toJson]
      exact congrArg Value.object (hordered.sorted_eq_of_perm (.refl _))
  | instantiate id vars switch dryRun =>
      have hswitch : arrangedEntries (optionalMember "target_switch" .string switch) =
          optionalMember "target_switch" .string switch := by
        cases switch <;> rfl
      rw [body, Http.Client.instantiationBody, Value.arranged, Json.arrangedEntries_append, hswitch,
        Json.arrangedEntries_eq_map]
      simp only [List.map_cons, List.map_nil, vars.arranged_toJson]
      apply congrArg Value.object
      apply hordered.sorted_eq_of_perm
      exact @List.perm_append_comm _ [("template_id", .string id), ("variables", .object _)]
        (("dry_run", .bool dryRun) :: optionalMember "target_switch" .string switch)

/-- The text of a body is read back as its members. -/
theorem parse?_body (hcall : call.Posts) :
    Json.parse? call.body.text = some (.object call.bodyMembers) := by
  have hdepth : call.body.depth ≤ Json.maxDepth :=
    Nat.le_trans (depth_body call) (by decide)
  rw [Document.parse?_text (body_wellFormed call) (body_exact hcall) hdepth, arranged_body hcall]

/-- It is so read wherever it is sent. -/
theorem parse?_sent (hcall : call.Posts) (c : Http.Client) (url? : Option Http.Url) :
    (url?.bind fun url => some (c.requestTo .post url call.body.text)).map
        (fun q => Json.parse? q.body) =
      url?.map fun _ => some (.object call.bodyMembers) := by
  cases url? with
  | none => rfl
  | some url => exact congrArg some (parse?_body hcall)

theorem body_of_request? {c : Http.Client} {q : Http.Request} (hcall : call.Posts)
    (hq : c.request? call = some q) : q.body = call.body.text := by
  cases call with
  | list category tags => exact hcall.elim
  | validate id vars =>
      obtain ⟨url, _, hrequest⟩ := Option.bind_eq_some_iff.mp hq
      obtain rfl := Option.some_inj.mp hrequest
      rfl
  | instantiate id vars switch dryRun =>
      obtain ⟨url, _, hrequest⟩ := Option.bind_eq_some_iff.mp hq
      obtain rfl := Option.some_inj.mp hrequest
      rfl

end Call

namespace Http

/-- Bodies lose nothing.  A body to validate has the template and the variables, one to
instantiate also whether it is a dry run and, where one is given, the target switch, and
either is sent wherever there is a URL to send it to; the variables are sent under the names
of their record, with plain values but for an absent backup server, and are decoded from
that; and no two calls have the same body. -/
theorem bodies_lossless :
    (∀ (c : Client) (id : String) (vars : Variables), vars.Representable →
      (c.request? (.validate id vars)).map (fun q => Json.parse? q.body) =
        (c.url? "/validate".toList).map fun _ =>
          some (.object [("template_id", .string id), ("variables", .object vars.toMap)])) ∧
    (∀ (c : Client) (id : String) (vars : Variables) (switch : Option String) (dryRun : Bool),
      vars.Representable →
      (c.request? (.instantiate id vars switch dryRun)).map (fun q => Json.parse? q.body) =
        (c.url? "/instantiate".toList).map fun _ => some (.object (("dry_run", .bool dryRun) ::
          (optionalMember "target_switch" .string switch ++
            [("template_id", .string id), ("variables", .object vars.toMap)])))) ∧
    (∀ vars : Variables, vars.Representable → vars.SentAs vars.toMap) ∧
    ∀ (c c' : Client) (call call' : Call) (q q' : Request), call.Posts → call'.Posts →
      c.request? call = some q → c'.request? call' = some q' → q.body = q'.body →
      call = call' := by
  refine ⟨?_, ?_, fun vars => Variables.toMap_sentAs, ?_⟩
  · intro c id vars hvars
    exact @Call.parse?_sent (.validate id vars) hvars c (c.url? "/validate".toList)
  · intro c id vars switch dryRun hvars
    exact @Call.parse?_sent (.instantiate id vars switch dryRun) hvars c
      (c.url? "/instantiate".toList)
  · intro c c' call call' q q' hcall hcall' hq hq' heq
    rw [Call.body_of_request? hcall hq, Call.body_of_request? hcall' hq'] at heq
    have hmembers := Call.parse?_body hcall
    rw [heq, Call.parse?_body hcall'] at hmembers
    have hsame := Value.object.inj (Option.some_inj.mp hmembers)
    exact Call.bodyMembers_injective hcall hcall' hsame.symm

namespace BodiesExample

def client : Client := ⟨"https://policies.test", "Bearer token"⟩

/-- A database without a backup server. -/
def orders : Variables :=
  .databaseServer ⟨"10.0.3.10", 5432, "10.0.2.0/24", none, false, ""⟩

theorem orders_representable : orders.Representable := by
  show 5432 ≤ 65535
  decide

def url (operation : String) : Url :=
  ⟨"https", [], "policies.test", none,
    ["api".toList, "v1".toList, "templates".toList, operation.toList], none⟩

theorem url?_validate : client.url? "/validate".toList = some (url "validate") := by
  decide +kernel

theorem url?_instantiate : client.url? "/instantiate".toList = some (url "instantiate") := by
  decide +kernel

def request (operation : String) (call : Call) : Request :=
  client.requestTo .post (url operation) call.body.text

theorem request?_instantiate (id : String) (vars : Variables) (switch : Option String)
    (dryRun : Bool) :
    client.request? (.instantiate id vars switch dryRun) =
      some (request "instantiate" (.instantiate id vars switch dryRun)) := by
  rw [Client.request?, url?_instantiate]
  rfl

theorem bodies_lossless_orders :
    (client.request? (.validate "db" orders)).map (fun q => Json.parse? q.body) =
        some (some (.object [("template_id", .string "db"), ("variables", .object orders.toMap)])) ∧
      (client.request? (.instantiate "db" orders (some "s1") true)).map
          (fun q => Json.parse? q.body) =
        some (some (.object [("dry_run", .bool true), ("target_switch", .string "s1"),
          ("template_id", .string "db"), ("variables", .object orders.toMap)])) ∧
      orders.SentAs orders.toMap ∧
      (request "instantiate" (.instantiate "db" orders none true)).body ≠
        (request "instantiate" (.instantiate "db" orders none false)).body := by
  have hvars := orders_representable
  obtain ⟨hvalidate, hinstantiate, hsent, hsame⟩ := bodies_lossless
  have hvalidate' := hvalidate client "db" orders hvars
  have hinstantiate' := hinstantiate client "db" orders (some "s1") true hvars
  rw [url?_validate] at hvalidate'
  rw [url?_instantiate] at hinstantiate'
  refine ⟨hvalidate', hinstantiate', hsent orders hvars, fun heq => ?_⟩
  have hcall := hsame client client (.instantiate "db" orders none true)
    (.instantiate "db" orders none false) _ _ hvars hvars (request?_instantiate ..)
    (request?_instantiate ..) heq
  cases hcall

end BodiesExample

end Http

end PolicyRollout
