import PolicyRollout.Proofs.Cli.FailureDiscipline
import PolicyRollout.Proofs.Cli.GivenOptions
import PolicyRollout.Proofs.Deployment.OptionEffects
import PolicyRollout.Proofs.Topology.Representable
/-!
The options a deployment is carried out with.  What the environment sets and what the arguments give
is joined before anything starts, and all that is sent and printed follows these options: the
listing of templates, the mark of a dry run, and the number of requests that wait at once.
-/
namespace PolicyRollout

open Http (Client Method Request Url)

namespace Settings

/-- What is set under a key, if it can be parsed. -/
def parsed? {α : Type} (lookup : String → Option String) (parse? : List Char → Option α)
    (key : SettingKey) : Option α :=
  (lookup key.name).bind fun text => parse? (Text.trimChars text.toList)

variable {lookup : String → Option String}

theorem eq_of_valueOr {α : Type} {parse? : List Char → Option α} {key : SettingKey} {default v : α}
    (hvalue : valueOr lookup parse? key default = .ok v) :
    v = (parsed? lookup parse? key).getD default := by
  unfold valueOr at hvalue
  unfold parsed?
  cases hset : lookup key.name with
  | none =>
      rw [hset] at hvalue
      exact (Except.ok.inj hvalue).symm
  | some text =>
      simp only [hset] at hvalue
      rw [Option.bind_some]
      cases hparse : parse? (Text.trimChars text.toList) with
      | none => simp [hparse] at hvalue
      | some found =>
          rw [hparse] at hvalue
          exact (Except.ok.inj hvalue).symm

/-- The options among the settings are those that are set, or else the standard ones. -/
theorem options_of_ofLookup {settings : Settings} (hsettings : ofLookup lookup = .ok settings) :
    settings.options.dryRun = (parsed? lookup truth? .dryRun).getD false ∧
    settings.options.verifyTemplates = (parsed? lookup truth? .verifyTemplates).getD false ∧
    settings.options.entityConcurrency =
      (parsed? lookup natural64? .entityConcurrency).getD 1 ∧
    settings.options.entityConcurrency ≠ 0 := by
  unfold ofLookup at hsettings
  simp only at hsettings
  split at hsettings
  · contradiction
  · obtain ⟨timeout, _, hsettings⟩ := Document.bind_eq_ok_iff.mp hsettings
    obtain ⟨dryRun, hdryRun, hsettings⟩ := Document.bind_eq_ok_iff.mp hsettings
    obtain ⟨concurrency, hconcurrency, hsettings⟩ := Document.bind_eq_ok_iff.mp hsettings
    obtain ⟨verify, hverify, hsettings⟩ := Document.bind_eq_ok_iff.mp hsettings
    by_cases hzero : concurrency = 0
    · rw [if_pos hzero] at hsettings
      contradiction
    · rw [if_neg hzero] at hsettings
      obtain rfl := Except.ok.inj hsettings
      exact ⟨eq_of_valueOr hdryRun, eq_of_valueOr hverify, eq_of_valueOr hconcurrency, hzero⟩

end Settings

/-- The body of a request has one member that tells whether it is for a dry run. -/
def Http.Request.Marks (q : Request) (dryRun : Bool) : Prop :=
  ∃ members, Json.parse? q.body = some (.object members) ∧
    ∀ v, ("dry_run", v) ∈ members ↔ v = .bool dryRun

namespace Http.Client

theorem marks_of_creation {c : Client} {p : Instantiation} (hvars : p.vars.Representable)
    {dryRun : Bool} {q : Request} (hq : c.request? (p.creation dryRun) = some q) :
    q.Marks dryRun := by
  have hposts : (p.creation dryRun).Posts := hvars
  refine ⟨(p.creation dryRun).bodyMembers, ?_, ?_⟩
  · rw [Call.body_of_request? hposts hq, Call.parse?_body hposts]
  · intro v
    simp [Instantiation.creation, Call.bodyMembers, optionalMember]

/-- Listings get something, and other calls post something. -/
theorem method_of_request? {c : Client} {call : Call} {q : Request}
    (hq : c.request? call = some q) : q.method = if call.lists then .get else .post := by
  have hwritten : ∀ {url? : Option Url} {write : Url → Request} {method : Method},
      (∀ url, (write url).method = method) →
      (url?.bind fun url => some (write url)) = some q → q.method = method := by
    intro url? write method hmethod hsome
    obtain ⟨url, _, hurl⟩ := Option.bind_eq_some_iff.mp hsome
    rw [← Option.some_inj.mp hurl]
    exact hmethod url
  cases call with
  | list category tags => exact hwritten (fun _ => rfl) hq
  | validate id vars => exact hwritten (fun _ => rfl) hq
  | instantiate id vars switch dryRun => exact hwritten (fun _ => rfl) hq

theorem requests_eq (c : Client) (h : History) :
    c.requests h = h.callsMade.filterMap c.request? := by
  rw [requests, History.callsMade, List.filterMap_filterMap]
  rfl

/-- Of the requests of a deployment the first one lists templates exactly if it has to list them. -/
theorem head?_requests {c : Client} {q : Request} (hq : c.request? Rollout.listing = some q)
    {verify dryRun : Bool} {later : List Call} {t : Topology}
    (hlater : ∀ call ∈ later, t.Asks dryRun call) :
    (((if verify then [Rollout.listing] else []) ++ later).filterMap c.request?).head? = some q ↔
      verify = true := by
  cases verify with
  | true => simp [hq]
  | false =>
      have hget : q.method = .get := method_of_request? hq
      simp only [Bool.false_eq_true, if_false, List.nil_append, iff_false]
      intro hhead
      obtain ⟨call, hmem, hasked⟩ := List.mem_filterMap.mp (List.mem_of_head? hhead)
      have hmethod := method_of_request? hasked
      rw [hget, (hlater call hmem).lists_eq] at hmethod
      contradiction

/-- If templates cannot be asked for, nothing can. -/
theorem requests_eq_nil_of_listing {c : Client} (hnone : c.request? Rollout.listing = none)
    (h : History) : c.requests h = [] := by
  have hsends : c.sends = false := by
    rw [← c.isSome_request? Rollout.listing, hnone]
    rfl
  exact requests_eq_nil hsends h

end Http.Client

namespace Cli

/-- The options that the environment and the arguments come to together. -/
structure Effective (lookup : String → Option String) (arguments : List String)
    (options : DeploymentOptions) : Prop where
  dryRun : options.dryRun = true ↔
    Settings.parsed? lookup Settings.truth? .dryRun = some true ∨ "--dry-run" ∈ arguments
  verifyTemplates : options.verifyTemplates = true ↔
    Settings.parsed? lookup Settings.truth? .verifyTemplates = some true ∨
      "--verify-templates" ∈ arguments
  given : ∀ text, Gives arguments "concurrency" text →
    Settings.natural64? text.toList = some options.window
  set : (∀ text, ¬ Gives arguments "concurrency" text) →
    options.window = (Settings.parsed? lookup Settings.natural64? .entityConcurrency).getD 1

theorem Ready.effective {lookup : String → Option String} {w : World} {a : DeployArguments}
    {settings : Settings} {t : Topology} {client : Client} {arguments : List String}
    (hready : Ready lookup w a settings t client) (hgiven : a.GivenBy arguments) :
    Effective lookup arguments (effectiveOptions a settings.options) := by
  obtain ⟨hdryRun, hverify, hconcurrency, hpositive⟩ :=
    Settings.options_of_ofLookup hready.settings_eq
  have hflag : ∀ parsed : Option Bool, parsed.getD false = true ↔ parsed = some true := by
    intro parsed
    cases parsed <;> simp
  constructor
  case dryRun =>
    rw [← hflag, ← hgiven.dryRun, ← hdryRun]
    exact Bool.or_eq_true_iff
  case verifyTemplates =>
    rw [← hflag, ← hgiven.verifyTemplates, ← hverify]
    exact Bool.or_eq_true_iff
  case given =>
    intro text htext
    obtain ⟨n, hread, hn⟩ := hgiven.concurrency text htext
    have hne : n ≠ 0 := fun hzero => hready.concurrency_ne (hzero ▸ hn)
    rw [hread, effectiveOptions, DeploymentOptions.window, hn]
    exact congrArg some (Nat.max_eq_right (Nat.one_le_iff_ne_zero.mpr hne)).symm
  case set =>
    intro hnone
    rw [← hconcurrency, effectiveOptions, DeploymentOptions.window, hgiven.noConcurrency hnone]
    exact Nat.max_eq_right (Nat.one_le_iff_ne_zero.mpr hpositive)

/-- A topology that is used is representable. -/
theorem World.loads_representable {w : World} {t : Topology} {path : Option String}
    (hloads : w.Loads t path) : t.Representable := by
  cases path with
  | none => exact hloads ▸ Reference.topology_representable
  | some path =>
      obtain ⟨text, _, hdecode, _⟩ := World.ofContent_eq_ok_iff.mp hloads
      exact Topology.representable_of_decode hdecode

namespace DryRunExample

/-- An environment that asks for a dry run over an encrypted connection. -/
def lookup : String → Option String
  | "TEMPLATE_API_URL" => some "https://policies.test/"
  | "TEMPLATE_API_TOKEN" => some "token"
  | "DEPLOY_DRY_RUN" => some " true\n"
  | "DEPLOY_ENTITY_CONCURRENCY" => some "8"
  | _ => none

def arguments : List String :=
  ["--verify-templates", "--concurrency", "2"]

def given : DeployArguments := ⟨none, false, some 2, true, .text⟩

def settings : Settings := ⟨⟨"https://policies.test/", "token", 30⟩, ⟨true, 8, false⟩, none⟩

def client : Client := ⟨"https://policies.test", "Bearer token"⟩

/-- A world without files in which nothing is answered. -/
def world : World :=
  ⟨fun _ => .error .missing, "run", fun _ => "now", fun _ _ => .unanswered, fun _ _ => 0⟩

theorem ready : Ready lookup world given settings Reference.topology client where
  settings_eq := by decide +kernel
  concurrency_ne := by decide
  loads := rfl
  client_eq := by decide +kernel

end DryRunExample

end Cli

end PolicyRollout
