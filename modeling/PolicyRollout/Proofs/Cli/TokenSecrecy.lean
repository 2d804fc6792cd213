import PolicyRollout.Cli.Program
import PolicyRollout.Proofs.Cli.SideBySide
/-!
The token stays secret.  It identifies the program to the platform and is used for nothing else:
two runs of the program under different tokens that are told the same put out the same, fail with
the same words and the same status, and send the same requests but for the header with the token.
-/
namespace PolicyRollout

namespace Http.Client

/-- The client with another header that identifies the program. -/
def authorizedBy (authorization : String) (c : Client) : Client :=
  { c with authorization }

section Authorized

variable (c : Client) (authorization : String)

theorem url?_authorizedBy (path : List Char) :
    (c.authorizedBy authorization).url? path = c.url? path :=
  rfl

/-- Requests differ in the header that identifies the program, and in nothing else. -/
theorem request?_authorizedBy (call : Call) :
    ((c.authorizedBy authorization).request? call).map Request.anonymous =
      (c.request? call).map Request.anonymous := by
  cases call with
  | list category tags =>
      rw [request?, request?, url?_authorizedBy]
      cases c.url? [] <;> rfl
  | validate id vars =>
      rw [request?, request?, url?_authorizedBy]
      cases c.url? "/validate".toList <;> rfl
  | instantiate id vars switch dryRun =>
      rw [request?, request?, url?_authorizedBy]
      cases c.url? "/instantiate".toList <;> rfl

theorem templateRequest?_authorizedBy (id : String) :
    ((c.authorizedBy authorization).templateRequest? id).map Request.anonymous =
      (c.templateRequest? id).map Request.anonymous := by
  rw [templateRequest?, templateRequest?, url?_authorizedBy]
  cases c.url? ('/' :: encodeSegment id) <;> rfl

/-- Whether there was a request, and where it was sent, is all that counts. -/
theorem conclude_congr {α : Type} (decoder : Document.Decoder α) (id : Option String)
    {q? q?' : Option Request} (hsame : q?.map Request.anonymous = q?'.map Request.anonymous)
    (exchange : Exchange) : conclude decoder id q? exchange = conclude decoder id q?' exchange := by
  rcases Request.cases_of_anonymous hsame with ⟨rfl, rfl⟩ | ⟨q, q', rfl, rfl, hanonymous⟩
  · rfl
  · have hurl : q.url = q'.url :=
      show q.anonymous.url = q'.anonymous.url from congrArg Request.url hanonymous
    cases exchange with
    | answered response => rfl
    | unanswered => rw [conclude, conclude, hurl]

theorem answer_authorizedBy (exchange : Exchange) (call : Call) :
    (c.authorizedBy authorization).answer exchange call = c.answer exchange call := by
  have hsame := request?_authorizedBy c authorization call
  cases call with
  | list category tags =>
      exact congrArg (reply _) (conclude_congr templateListDecoder none hsame exchange)
  | validate id vars =>
      exact congrArg (reply _) (conclude_congr Verdict.decoder (some id) hsame exchange)
  | instantiate id vars switch dryRun =>
      exact congrArg (reply _) (conclude_congr Creation.decoder (some id) hsame exchange)

theorem platform_authorizedBy (exchanges : Nat → Exchange) :
    (c.authorizedBy authorization).platform exchanges = c.platform exchanges := by
  funext history serial call
  exact answer_authorizedBy c authorization (exchanges serial) call

theorem template_authorizedBy (id : String) (exchange : Exchange) :
    (c.authorizedBy authorization).template id exchange = c.template id exchange :=
  conclude_congr _ _ (templateRequest?_authorizedBy c authorization id) exchange

theorem isNone_request?_authorizedBy (call : Call) :
    ((c.authorizedBy authorization).request? call).isNone = (c.request? call).isNone := by
  rw [← Option.isNone_map, request?_authorizedBy, Option.isNone_map]

theorem unstamped_reply {α : Type} {event : α → Event} (hevent : ∀ v, (event v).Unstamped)
    (result : Except PlatformError α) : ∀ e ∈ (reply event result).notes, e.Unstamped := by
  intro e hmem
  cases result with
  | error source => contradiction
  | ok v => exact List.mem_singleton.mp hmem ▸ hevent v

/-- The events that come with answers do not name the run. -/
theorem unstamped_answer (exchange : Exchange) (call : Call) :
    ∀ e ∈ (c.answer exchange call).notes, e.Unstamped := by
  cases call <;> exact unstamped_reply (fun _ _ => rfl) _

theorem platform_unstamped (exchanges : Nat → Exchange) : (c.platform exchanges).Unstamped :=
  ⟨fun _ _ _ _ => rfl, fun _ serial call => unstamped_answer c (exchanges serial) call⟩

end Authorized

end Http.Client

namespace Cli

open Http (Client)

variable {w w' : World} {n : Nat}

/-- Templates are shown alike under any header that identifies the program. -/
theorem alike_showTemplate (client : Client) (authorization : String) (timeout : Nat)
    (id : String) :
    Alike w w' n (showTemplate client timeout id)
      (showTemplate (client.authorizedBy authorization) timeout id) := by
  refine .ask timeout (client.templateRequest?_authorizedBy authorization id).symm ?_
  intro exchange
  rw [Client.template_authorizedBy]
  cases client.template id exchange with
  | error source => exact .stop rfl rfl
  | ok template => exact .say _ (.stop rfl rfl)

theorem alike_sayAll {α : Type} (text : α → String) (items : List α) :
    Alike w w' n (items.foldr (fun item next => .say (text item) next) (.stop .success))
      (items.foldr (fun item next => .say (text item) next) (.stop .success)) := by
  induction items with
  | nil => exact .stop rfl rfl
  | cons item rest ih => exact .say (text item) ih

theorem alike_showListing (client : Client) (authorization : String) (timeout : Nat)
    (category : Option String) (tags : List String) :
    Alike w w' n (showListing client timeout category tags)
      (showListing (client.authorizedBy authorization) timeout category tags) := by
  refine .ask timeout (client.request?_authorizedBy authorization _).symm ?_
  intro exchange
  rw [Client.answer_authorizedBy]
  refine .recordAll (client.unstamped_answer exchange _) ?_
  cases (client.answer exchange (.list category tags)).result with
  | error source => exact .stop rfl rfl
  | ok templates => exact .record (.templatesFound _) (alike_sayAll templateText templates)

section Deployments

variable (job : DeployJob) (authorization : String)

def DeployJob.authorizedBy : DeployJob :=
  { job with client := job.client.authorizedBy authorization }

/-- A call that cannot be written down is passed over. -/
theorem tell_called_of_none {job : DeployJob} {call : Call}
    (hnone : job.client.request? call = none) (serial : Nat) (entity : Option Nat) (next : Dialogue) :
    job.tell (.called serial entity call) next = next := by
  simp only [DeployJob.tell, hnone]

/-- A call that can be written down is sent off. -/
theorem tell_called_of_some {job : DeployJob} {call : Call} {request : Http.Request}
    (hsome : job.client.request? call = some request) (serial : Nat) (entity : Option Nat)
    (next : Dialogue) :
    job.tell (.called serial entity call) next = .send job.timeout request next := by
  simp only [DeployJob.tell, hsome]

/-- What has happened is told alike when it names the runs by their ids. -/
theorem alike_tell {d d' : Dialogue} (hnext : Alike w w' n d d') (happened : List Occurrence) :
    Alike w w' n ((happened.map (Occurrence.restamp w.runId)).foldr job.tell d)
      ((happened.map (Occurrence.restamp w'.runId)).foldr (job.authorizedBy authorization).tell
        d') := by
  induction happened with
  | nil => exact hnext
  | cons o rest ih =>
      cases o with
      | noted event => exact .record event ih
      | answered serial entity outturn => exact ih
      | called serial entity call =>
          have hsame := job.client.request?_authorizedBy authorization call
          simp only [List.map_cons, List.foldr_cons, Occurrence.restamp]
          rcases Http.Request.cases_of_anonymous hsame.symm with
            ⟨hnone, hnone'⟩ | ⟨q, q', hq, hq', hanonymous⟩
          · rw [tell_called_of_none hnone, tell_called_of_none hnone']
            exact ih
          · rw [tell_called_of_some hq, tell_called_of_some hq']
            exact .send job.timeout hanonymous ih

theorem pending_restamp (s : RunStamp) (r : Rollout) : pending (r.restamp s) = pending r := by
  obtain ⟨topology, options, stamp, report, stage, calls, history⟩ := r
  cases stage <;> rfl

theorem ready?_restamp (s : RunStamp) (r : Rollout) :
    (r.restamp s).current?.bind TierRun.ready? = r.current?.bind TierRun.ready? := by
  obtain ⟨topology, options, stamp, report, stage, calls, history⟩ := r
  cases stage <;> rfl

theorem happened_restamp (s : RunStamp) (before after : Rollout) :
    happened (before.restamp s) (after.restamp s) =
      (happened before after).map (Occurrence.restamp s.runId) := by
  simp only [happened, Rollout.restamp, History.restamp, List.length_map, List.map_take,
    List.map_reverse]

theorem move_restamp (s : RunStamp) (exchange : Http.Exchange) (index : Nat) (r : Rollout) :
    (job.authorizedBy authorization).move exchange index (r.restamp s) =
      (job.move exchange index r).restamp s := by
  rw [DeployJob.move, DeployJob.move, DeployJob.authorizedBy, Client.platform_authorizedBy]
  exact Rollout.restamp_move s r (job.client.platform_unstamped _) index

/-- The stamp under which a deployment is carried out: no time at which it finishes is known. -/
def World.opening (w : World) : RunStamp :=
  ⟨w.runId, w.clock 0, w.clock 0⟩

theorem alike_conclude (result : Except DeploymentError Report) :
    Alike w w' 1 (job.conclude (restampResult w.opening result))
      ((job.authorizedBy authorization).conclude (restampResult w'.opening result)) := by
  refine .askTime ?_
  cases result with
  | ok report =>
      exact .report job.format { report with finishedAt := some "" } (.stop rfl rfl)
  | error source =>
      exact .report job.format { source.completed with finishedAt := some "" } (.stop rfl rfl)

/-- What a deployment came to, or else what it has come to so far. -/
theorem getD_result?_restamp (s : RunStamp) (r : Rollout) :
    (r.restamp s).result?.getD (.ok (r.restamp s).report) =
      restampResult s (r.result?.getD (.ok r.report)) := by
  rw [Rollout.result?_restamp]
  cases r.result? <;> rfl

/-- A move is told alike, and leads to deployments that are carried on alike. -/
theorem alike_move {moves : Nat}
    (hnext : ∀ r : Rollout, Alike w w' 1 (job.carryOn moves (r.restamp w.opening))
      ((job.authorizedBy authorization).carryOn moves (r.restamp w'.opening)))
    (exchange : Http.Exchange) (index : Nat) (r : Rollout) :
    Alike w w' 1
      ((happened (r.restamp w.opening) (job.move exchange index (r.restamp w.opening))).foldr
        job.tell (job.carryOn moves (job.move exchange index (r.restamp w.opening))))
      ((happened (r.restamp w'.opening)
          ((job.authorizedBy authorization).move exchange index (r.restamp w'.opening))).foldr
        (job.authorizedBy authorization).tell
        ((job.authorizedBy authorization).carryOn moves
          ((job.authorizedBy authorization).move exchange index (r.restamp w'.opening)))) := by
  have hmove : job.move exchange index (r.restamp w.opening) =
      (job.move exchange index r).restamp w.opening :=
    move_restamp job job.client.authorization w.opening exchange index r
  rw [hmove, move_restamp, happened_restamp, happened_restamp]
  exact alike_tell job authorization (hnext _) _

/-- Deployments are carried on alike under different stamps and headers. -/
theorem alike_carryOn (moves : Nat) (r : Rollout) :
    Alike w w' 1 (job.carryOn moves (r.restamp w.opening))
      ((job.authorizedBy authorization).carryOn moves (r.restamp w'.opening)) := by
  induction moves generalizing r with
  | zero =>
      rw [DeployJob.carryOn, DeployJob.carryOn, getD_result?_restamp, getD_result?_restamp]
      exact alike_conclude job authorization _
  | succ moves ih =>
      have hunsent : (fun p : Pending =>
          ((job.authorizedBy authorization).client.request? p.call).isNone) =
          fun p => (job.client.request? p.call).isNone := by
        funext p
        exact job.client.isNone_request?_authorizedBy authorization p.call
      rw [DeployJob.carryOn, DeployJob.carryOn]
      simp only [Rollout.result?_restamp, pending_restamp, ready?_restamp, hunsent]
      cases r.result? with
      | some result => exact alike_conclude job authorization result
      | none =>
          cases (pending r).find? fun p => (job.client.request? p.call).isNone with
          | some p => exact alike_move job authorization ih .unanswered p.index r
          | none =>
              cases r.current?.bind TierRun.ready? with
              | some index => exact alike_move job authorization ih .unanswered index r
              | none =>
                  exact .await fun _ exchange => alike_move job authorization ih exchange _ r

theorem alike_carryOut (options : DeploymentOptions) (t : Topology) :
    Alike w w' 0 (job.carryOut options t) ((job.authorizedBy authorization).carryOut options t) := by
  let r := Rollout.start options ⟨"", "", ""⟩ t []
  have hstart : ∀ s, Rollout.start options s t [] = r.restamp s :=
    fun s => Rollout.restamp_start s options ⟨"", "", ""⟩ t
  have hhistory : ∀ s, (r.restamp s).history.reverse =
      r.history.reverse.map (Occurrence.restamp s.runId) :=
    fun s => List.map_reverse.symm
  refine .askRunId (.askTime ?_)
  change Alike w w' 1
    ((Rollout.start options w.opening t []).history.reverse.foldr job.tell
      (job.carryOn (DeployJob.enough t) (Rollout.start options w.opening t [])))
    ((Rollout.start options w'.opening t []).history.reverse.foldr
      (job.authorizedBy authorization).tell
      ((job.authorizedBy authorization).carryOn (DeployJob.enough t)
        (Rollout.start options w'.opening t [])))
  rw [hstart, hstart, hhistory, hhistory]
  exact alike_tell job authorization (alike_carryOn job authorization _ r) _

end Deployments

/-- A topology is loaded alike. -/
theorem alike_withTopology (path : Option String) {next next' : Topology → Dialogue}
    (hnext : ∀ t, Alike w w' n (next t) (next' t)) :
    Alike w w' n (withTopology path next) (withTopology path next') := by
  cases path with
  | none => exact .record .usingReference (hnext _)
  | some path =>
      refine .record (.loadingTopology path) (.readFile path fun content => ?_)
      cases Topology.ofContent path content with
      | error source => exact .stop rfl rfl
      | ok t => exact hnext t

/-- A token that can be sent. -/
def Sendable (token : String) : Prop :=
  token ≠ "" ∧ token.toList.all Client.isHeaderChar = true

instance (token : String) : Decidable (Sendable token) :=
  inferInstanceAs (Decidable (token ≠ "" ∧ token.toList.all Client.isHeaderChar = true))

/-- Two environments differ in the token at most, and both tokens can be sent. -/
structure DifferInToken (lookup lookup' : String → Option String) (token token' : String) :
    Prop where
  same : ∀ name, name ≠ SettingKey.apiToken.name → lookup name = lookup' name
  found : lookup SettingKey.apiToken.name = some token
  found' : lookup' SettingKey.apiToken.name = some token'
  sendable : Sendable token
  sendable' : Sendable token'

def withToken (token : String) (settings : Settings) : Settings :=
  { settings with service := { settings.service with apiToken := token } }

namespace DifferInToken

variable {lookup lookup' : String → Option String} {token token' : String}

theorem valueOr_eq (hdiffer : DifferInToken lookup lookup' token token') {α : Type}
    (parse? : List Char → Option α) (key : SettingKey) (default : α)
    (hkey : key.name ≠ SettingKey.apiToken.name) :
    Settings.valueOr lookup' parse? key default = Settings.valueOr lookup parse? key default := by
  rw [Settings.valueOr, Settings.valueOr, hdiffer.same _ hkey]

/-- The settings differ in the token at most. -/
theorem ofLookup_eq (hdiffer : DifferInToken lookup lookup' token token') :
    Settings.ofLookup lookup' = (Settings.ofLookup lookup).map (withToken token') := by
  have hkept : ∀ {token : String}, token ≠ "" → (some token).filter (· ≠ "") = some token :=
    fun hne => Option.filter_some_pos (decide_eq_true hne)
  unfold Settings.ofLookup
  rw [hdiffer.found, hdiffer.found', hkept hdiffer.sendable.1, hkept hdiffer.sendable'.1,
    hdiffer.valueOr_eq _ _ _ (by decide), hdiffer.valueOr_eq _ _ _ (by decide),
    hdiffer.valueOr_eq _ _ _ (by decide), hdiffer.valueOr_eq _ _ _ (by decide),
    hdiffer.same _ (by decide), hdiffer.same _ (by decide)]
  cases Settings.valueOr lookup Settings.natural64? .apiTimeout ServiceSettings.defaultTimeout with
  | error source => rfl
  | ok timeout =>
  cases Settings.valueOr lookup Settings.truth? .dryRun false with
  | error source => rfl
  | ok dryRun =>
  cases Settings.valueOr lookup Settings.natural64? .entityConcurrency 1 with
  | error source => rfl
  | ok concurrency =>
  cases Settings.valueOr lookup Settings.truth? .verifyTemplates false with
  | error source => rfl
  | ok verify =>
      by_cases hnone : concurrency = 0
      · subst hnone
        rfl
      · simp only [bind, Except.bind, if_neg hnone]
        rfl

/-- The token of the settings is the one that was found. -/
theorem apiToken_eq (hdiffer : DifferInToken lookup lookup' token token') {settings : Settings}
    (hsettings : Settings.ofLookup lookup = .ok settings) : settings.service.apiToken = token := by
  have hself : DifferInToken lookup lookup token token :=
    ⟨fun _ _ => rfl, hdiffer.found, hdiffer.found, hdiffer.sendable, hdiffer.sendable⟩
  have heq := hself.ofLookup_eq
  rw [hsettings] at heq
  rw [Except.ok.inj heq]
  rfl

/-- Clients differ in the header that holds the token. -/
theorem exists_client (hdiffer : DifferInToken lookup lookup' token token') {settings : Settings}
    (hsettings : Settings.ofLookup lookup = .ok settings) :
    ∃ client authorization, Client.ofSettings settings.service = .ok client ∧
      Client.ofSettings (withToken token' settings).service =
        .ok (client.authorizedBy authorization) := by
  have hsendable := hdiffer.sendable.2
  rw [← hdiffer.apiToken_eq hsettings] at hsendable
  exact ⟨_, _, if_pos hsendable, if_pos hdiffer.sendable'.2⟩

/-- The settings are found alike, and so are clients made of them. -/
theorem alike_withSettings (hdiffer : DifferInToken lookup lookup' token token')
    {next next' : Settings → Dialogue}
    (hnext : ∀ settings client authorization, Client.ofSettings settings.service = .ok client →
      Client.ofSettings (withToken token' settings).service =
        .ok (client.authorizedBy authorization) →
      Alike w w' n (next settings) (next' (withToken token' settings))) :
    Alike w w' n (withSettings lookup next) (withSettings lookup' next') := by
  unfold withSettings
  rw [hdiffer.ofLookup_eq]
  cases hsettings : Settings.ofLookup lookup with
  | error source => exact .stop rfl rfl
  | ok settings =>
      obtain ⟨client, authorization, hclient, hclient'⟩ := hdiffer.exists_client hsettings
      exact hnext settings client authorization hclient hclient'

theorem alike_withClient {settings settings' : ServiceSettings} {client client' : Client}
    (hclient : Client.ofSettings settings = .ok client)
    (hclient' : Client.ofSettings settings' = .ok client')
    (hbase : settings.baseUrl = settings'.baseUrl) {next next' : Client → Dialogue}
    (hnext : Alike w w' n (next client) (next' client')) :
    Alike w w' n (withClient settings next) (withClient settings' next') := by
  unfold withClient
  rw [Client.announcement, Client.announcement, hbase, hclient, hclient']
  exact .record (.usingService _) hnext

theorem alike_deployTopology (hdiffer : DifferInToken lookup lookup' token token')
    (a : DeployArguments) :
    Alike w w' 0 (deployTopology lookup a) (deployTopology lookup' a) := by
  refine hdiffer.alike_withSettings fun settings client authorization hclient hclient' => ?_
  by_cases hnone : a.concurrency = some 0
  · rw [if_pos hnone, if_pos hnone]
    exact .stop rfl rfl
  · rw [if_neg hnone, if_neg hnone]
    refine .record (.apiAddress _) (alike_withTopology a.topology fun t => ?_)
    exact alike_withClient hclient hclient' rfl
      (alike_carryOut ⟨client, settings.service.timeoutSeconds, a.format⟩ authorization _ t)

theorem alike_showTemplates (hdiffer : DifferInToken lookup lookup' token token')
    (a : TemplatesArguments) :
    Alike w w' 0 (showTemplates lookup a) (showTemplates lookup' a) := by
  refine hdiffer.alike_withSettings fun settings client authorization hclient hclient' => ?_
  refine alike_withClient hclient hclient' rfl ?_
  cases a.id with
  | some id => exact alike_showTemplate client authorization _ id
  | none => exact alike_showListing client authorization _ a.category a.tags

theorem alike_printPlan (path : Option String) :
    Alike w w' 0 (printPlan path) (printPlan path) := by
  refine alike_withTopology path fun t => .recordAll ?_ (.say _ (.stop rfl rfl))
  intro event hmem
  obtain ⟨name, _, rfl⟩ := List.mem_map.mp hmem
  exact fun _ => rfl

/-- The arguments come to the same whatever the token. -/
theorem ofArguments_eq (hdiffer : DifferInToken lookup lookup' token token')
    (arguments : List String) :
    Invocation.ofArguments lookup arguments = Invocation.ofArguments lookup' arguments := by
  have htopology : Invocation.topologyOr lookup = Invocation.topologyOr lookup' := by
    funext given
    cases given with
    | some path => rfl
    | none =>
        rw [Invocation.topologyOr, Invocation.topologyOr, hdiffer.same _ (by decide)]
  unfold Invocation.ofArguments Invocation.deploy Invocation.plan
  rw [htopology]

theorem alike_program (hdiffer : DifferInToken lookup lookup' token token')
    (arguments : List String) :
    Alike w w' 0 (program lookup arguments) (program lookup' arguments) := by
  unfold program
  rw [hdiffer.ofArguments_eq arguments]
  cases Invocation.ofArguments lookup' arguments with
  | run command =>
      cases command with
      | deploy a => exact hdiffer.alike_deployTopology a
      | templates a => exact hdiffer.alike_showTemplates a
      | plan path => exact alike_printPlan path
  | help topic => exact .say _ (.stop rfl rfl)
  | version => exact .say _ (.stop rfl rfl)
  | misuse error => exact .stop rfl rfl

end DifferInToken

/-- Whether an event is logged does not depend on the id of the run. -/
theorem admits_restamp (f : LogFilter) (event : Event) (runId : String) :
    f.admits (event.restamp runId) = f.admits event := by
  have hlevel : (event.restamp runId).level = event.level := by cases event <;> rfl
  have htarget : (event.restamp runId).target = event.target := by cases event <;> rfl
  rw [LogFilter.admits, LogFilter.admits, hlevel, htarget]

/-- Whatever the topology, the arguments, the rest of the environment and the world: two runs under
different tokens that are told the same send the same requests but for the header that identifies
the program, and put out the same texts and events but for the stamp of the run, of which the same
are logged; and when they fail they do so with the same words and the same status.  They are told
the same by worlds that do not look at that header. -/
theorem token_secrecy {lookup lookup' : String → Option String} {token token' : String}
    (hdiffer : DifferInToken lookup lookup' token token') (arguments : List String) (w w' : World) :
    ((program lookup arguments).heard w = (program lookup' arguments).heard w' →
      Indistinct w.stamp w'.stamp ((program lookup arguments).converse w)
        ((program lookup' arguments).converse w')) ∧
    (Impartial w w' → (program lookup arguments).heard w = (program lookup' arguments).heard w') ∧
    ∀ event runId, (filterOf lookup).admits (event.restamp runId) =
      (filterOf lookup').admits event := by
  have halike : Alike w w' 0 (program lookup arguments) (program lookup' arguments) :=
    hdiffer.alike_program arguments
  refine ⟨halike.indistinct, fun himpartial => halike.heardFrom_eq himpartial .start, ?_⟩
  intro event runId
  have hfilter : filterName ≠ SettingKey.apiToken.name := by decide
  rw [filterOf, filterOf, hdiffer.same _ hfilter]
  exact admits_restamp _ event runId

/-- An environment in which a token is set, and a URL that asks for encryption. -/
def encrypted (token name : String) : Option String :=
  if name = SettingKey.apiToken.name then some token
  else if name = SettingKey.apiUrl.name then some "https://policies.test" else none

/-- A world without files in which all credentials are refused. -/
def refusing (runId time : String) : World where
  read _ := .error .missing
  runId
  clock _ := time
  exchange _ _ := .answered (.ofText 401 "no entry")
  arrival _ _ := 0

theorem token_secrecy_refused :
    DifferInToken (encrypted "alpha") (encrypted "beta") "alpha" "beta" ∧
      Impartial (refusing "1" "noon") (refusing "2" "night") ∧
      Indistinct (refusing "1" "noon").stamp (refusing "2" "night").stamp
        ((program (encrypted "alpha") ["deploy"]).converse (refusing "1" "noon"))
        ((program (encrypted "beta") ["deploy"]).converse (refusing "2" "night")) := by
  have hdiffer : DifferInToken (encrypted "alpha") (encrypted "beta") "alpha" "beta" :=
    ⟨fun _ hname => (if_neg hname).trans (if_neg hname).symm, rfl, rfl, by decide, by decide⟩
  have himpartial : Impartial (refusing "1" "noon") (refusing "2" "night") :=
    ⟨fun _ => rfl, fun _ _ _ _ => rfl, fun _ _ _ _ => rfl⟩
  obtain ⟨hindistinct, hheard, _⟩ :=
    token_secrecy hdiffer ["deploy"] (refusing "1" "noon") (refusing "2" "night")
  exact ⟨hdiffer, himpartial, hindistinct (hheard himpartial)⟩

end Cli

end PolicyRollout
