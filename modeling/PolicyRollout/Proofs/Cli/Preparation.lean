import PolicyRollout.Cli.Program
import PolicyRollout.Proofs.Cli.Conclusion
import PolicyRollout.Proofs.Topology.Validity
/-!
What a deployment needs before it starts: settings, a concurrency, a topology and a client.  Either
all of them are good, and the program goes on to carry the deployment out; or something is in the
way, and the program fails without having sent or printed anything.
-/
namespace PolicyRollout

open Http (Client)

/-- A topology comes from a text if it is decoded and valid. -/
theorem Topology.ofText_eq_ok_iff {format : DocumentFormat} {text : String} {t : Topology} :
    Topology.ofText format text = .ok t ↔
      format.decode Topology.decoder text = .ok t ∧ t.Valid := by
  unfold Topology.ofText
  cases hdecode : format.decode Topology.decoder text with
  | error complaint => simp
  | ok found =>
      by_cases hvalid : found.Valid
      · simp only [checkTopology_eq_ok_iff.mpr hvalid]
        constructor
        · rintro ⟨⟩
          exact ⟨rfl, hvalid⟩
        · rintro ⟨⟨⟩, _⟩
          rfl
      · cases hcheck : checkTopology found with
        | ok _ => exact absurd (checkTopology_eq_ok_iff.mp hcheck) hvalid
        | error violation =>
            simp only [hcheck]
            constructor
            · rintro ⟨⟩
            · rintro ⟨⟨⟩, hfound⟩
              exact absurd hfound hvalid

namespace Cli

def World.text? (w : World) (path : String) : Option String :=
  match w.read path with
  | .ok bytes => Text.decodeStrict? bytes
  | .error _ => none

/-- The topology that is used for a path: the one of the file, or else the reference topology. -/
def World.Loads (w : World) (t : Topology) : (path : Option String) → Prop
  | none => t = Reference.topology
  | some path => Topology.ofContent path (w.read path) = .ok t

/-- There is a file, and it holds no topology that is valid. -/
inductive World.Unloadable (w : World) : (path : Option String) → Prop
  | unreadable {path : String} (htext : w.text? path = none) : Unloadable w (some path)
  | undecodable {path text : String} (htext : w.text? path = some text)
      {complaint : Document.Complaint}
      (hdecode : (DocumentFormat.ofPath path).decode Topology.decoder text = .error complaint) :
      Unloadable w (some path)
  | invalid {path text : String} (htext : w.text? path = some text) {t : Topology}
      (hdecode : (DocumentFormat.ofPath path).decode Topology.decoder text = .ok t)
      (hinvalid : ¬ t.Valid) : Unloadable w (some path)

/-- What keeps a deployment from starting. -/
inductive Impediment (lookup : String → Option String) (w : World) (a : DeployArguments) : Prop
  | settings {source : SettingsError} (hsettings : Settings.ofLookup lookup = .error source)
  | concurrency (hzero : a.concurrency = some 0)
  | topology (hload : w.Unloadable a.topology)
  | token {settings : Settings} (hsettings : Settings.ofLookup lookup = .ok settings) {c : Char}
      (hmem : c ∈ settings.service.apiToken.toList) (hchar : Client.isHeaderChar c = false)

/-- What a deployment starts with. -/
structure Ready (lookup : String → Option String) (w : World) (a : DeployArguments)
    (settings : Settings) (t : Topology) (client : Client) : Prop where
  settings_eq : Settings.ofLookup lookup = .ok settings
  concurrency_ne : a.concurrency ≠ some 0
  loads : w.Loads t a.topology
  client_eq : Client.ofSettings settings.service = .ok client

/-- The program has failed without having sent or printed anything. -/
structure Refused (out : Transcript) : Prop where
  requests : out.requests = []
  texts : out.texts = []
  status : out.ending.status ≠ 0

namespace World

variable {w : World} {t : Topology} {path : String}

theorem ofContent_eq_ok_iff : Topology.ofContent path (w.read path) = .ok t ↔
    ∃ text, w.text? path = some text ∧
      (DocumentFormat.ofPath path).decode Topology.decoder text = .ok t ∧ t.Valid := by
  unfold Topology.ofContent text?
  cases w.read path with
  | error fault => simp
  | ok bytes =>
      simp only
      cases Text.decodeStrict? bytes with
      | none => simp
      | some text => simp [Topology.ofText_eq_ok_iff]

theorem Loads.unique {path : Option String} {t t' : Topology} (hloads : w.Loads t path)
    (hloads' : w.Loads t' path) : t = t' := by
  cases path with
  | none => exact hloads.trans hloads'.symm
  | some path => exact Except.ok.inj (hloads.symm.trans hloads')

theorem Loads.not_unloadable {path : Option String} (hloads : w.Loads t path) :
    ¬ w.Unloadable path := by
  intro hunloadable
  cases hunloadable with
  | unreadable htext =>
      obtain ⟨text, htext', _⟩ := ofContent_eq_ok_iff.mp hloads
      rw [htext] at htext'
      contradiction
  | undecodable htext hdecode =>
      obtain ⟨text, htext', hdecode', _⟩ := ofContent_eq_ok_iff.mp hloads
      obtain rfl := Option.some_inj.mp (htext.symm.trans htext')
      rw [hdecode] at hdecode'
      contradiction
  | invalid htext hdecode hinvalid =>
      obtain ⟨text, htext', hdecode', hvalid⟩ := ofContent_eq_ok_iff.mp hloads
      obtain rfl := Option.some_inj.mp (htext.symm.trans htext')
      obtain rfl := Except.ok.inj (hdecode.symm.trans hdecode')
      exact hinvalid hvalid

theorem unloadable_of_error {source : TopologyError}
    (herror : Topology.ofContent path (w.read path) = .error source) :
    w.Unloadable (some path) := by
  have hnone : ∀ t, Topology.ofContent path (w.read path) ≠ .ok t := by
    intro t hok
    rw [herror] at hok
    contradiction
  cases htext : w.text? path with
  | none => exact .unreadable htext
  | some text =>
      cases hdecode : (DocumentFormat.ofPath path).decode Topology.decoder text with
      | error complaint => exact .undecodable htext hdecode
      | ok t =>
          refine .invalid htext hdecode fun hvalid => ?_
          exact hnone t (ofContent_eq_ok_iff.mpr ⟨text, htext, hdecode, hvalid⟩)

end World

theorem Ready.not_impediment {lookup : String → Option String} {w : World} {a : DeployArguments}
    {settings : Settings} {t : Topology} {client : Client}
    (hready : Ready lookup w a settings t client) : ¬ Impediment lookup w a := by
  intro himpediment
  cases himpediment with
  | settings hsettings =>
      rw [hready.settings_eq] at hsettings
      contradiction
  | concurrency hzero => exact hready.concurrency_ne hzero
  | topology hload => exact hready.loads.not_unloadable hload
  | @token settings' hsettings c hmem hchar =>
      obtain rfl := Except.ok.inj (hready.settings_eq.symm.trans hsettings)
      have hclient := hready.client_eq
      unfold Client.ofSettings at hclient
      split at hclient
      · rename_i hall
        rw [List.all_eq_true.mp hall c hmem] at hchar
        contradiction
      · contradiction

section Leads

/-- The conversation goes on as another one; until then nothing has happened but events. -/
structure Leads (w : World) (d : Dialogue) (p : Progress) (d' : Dialogue) (p' : Progress) :
    Prop where
  fresh : p'.Fresh
  converse : d.converseFrom w p = d'.converseFrom w p'
  moments : ∀ m ∈ d.momentsFrom w p, m.waiting = [] ∨ m ∈ d'.momentsFrom w p'

variable {lookup : String → Option String} {w : World} {d d' d'' : Dialogue} {p p' p'' : Progress}

theorem Leads.refl (hfresh : p.Fresh) : Leads w d p d p :=
  ⟨hfresh, rfl, fun _ => Or.inr⟩

theorem Leads.trans (hfirst : Leads w d p d' p') (hsecond : Leads w d' p' d'' p'') :
    Leads w d p d'' p'' where
  fresh := hsecond.fresh
  converse := hfirst.converse.trans hsecond.converse
  moments := fun m hm => (hfirst.moments m hm).elim Or.inl (hsecond.moments m)

theorem Leads.record (hfresh : p.Fresh) (event : Event) :
    Leads w (.record event d) p d (p.put (.event event)) where
  fresh := hfresh.record event
  converse := rfl
  moments := by
    intro m hm
    rcases List.mem_cons.mp hm with rfl | hm
    · exact Or.inl hfresh.waiting
    · exact Or.inr hm

theorem Leads.readFile (hfresh : p.Fresh) (path : String)
    {next : Except Files.ReadFault (List UInt8) → Dialogue} :
    Leads w (.readFile path next) p (next (w.read path)) p where
  fresh := hfresh
  converse := rfl
  moments := by
    intro m hm
    rcases List.mem_cons.mp hm with rfl | hm
    · exact Or.inl hfresh.waiting
    · exact Or.inr hm

/-- A failure before anything has been sent or printed. -/
theorem Leads.refused {source : Failure} (hleads : Leads w d p (.fail source) p') :
    Refused (d.converseFrom w p) := by
  rw [hleads.converse]
  exact ⟨hleads.fresh.sent, hleads.fresh.silent, Nat.one_ne_zero⟩

/-- A topology is loaded, or there is none and the program fails. -/
theorem withTopology_cases (w : World) (path : Option String) (next : Topology → Dialogue)
    (hfresh : p.Fresh) :
    (w.Unloadable path ∧ Refused ((withTopology path next).converseFrom w p)) ∨
      ∃ t p', w.Loads t path ∧ Leads w (withTopology path next) p (next t) p' := by
  cases path with
  | none => exact Or.inr ⟨Reference.topology, _, rfl, .record hfresh _⟩
  | some path =>
      have hread : Leads w (withTopology (some path) next) p _ _ :=
        (Leads.record hfresh _).trans (.readFile (hfresh.record _) path)
      cases hcontent : Topology.ofContent path (w.read path) with
      | error source =>
          simp only [hcontent] at hread
          exact Or.inl ⟨w.unloadable_of_error hcontent, hread.refused⟩
      | ok t =>
          simp only [hcontent] at hread
          exact Or.inr ⟨t, _, hcontent, hread⟩

/-- A client is made, or its token fits into no header and the program fails. -/
theorem withClient_cases (w : World) (settings : ServiceSettings) (next : Client → Dialogue)
    (hfresh : p.Fresh) :
    ((∃ c ∈ settings.apiToken.toList, Client.isHeaderChar c = false) ∧
      Refused ((withClient settings next).converseFrom w p)) ∨
      ∃ client p', Client.ofSettings settings = .ok client ∧
        Leads w (withClient settings next) p (next client) p' := by
  have hrecord : Leads w (withClient settings next) p _ _ := Leads.record hfresh _
  by_cases htoken : settings.apiToken.toList.all Client.isHeaderChar = true
  · have hclient : ∃ client, Client.ofSettings settings = .ok client := by
      rw [Client.ofSettings, if_pos htoken]
      exact ⟨_, rfl⟩
    obtain ⟨client, hclient⟩ := hclient
    simp only [hclient] at hrecord
    exact Or.inr ⟨client, _, hclient, hrecord⟩
  · have hclient : ∃ source, Client.ofSettings settings = .error source := by
      rw [Client.ofSettings, if_neg htoken]
      exact ⟨_, rfl⟩
    obtain ⟨source, hclient⟩ := hclient
    simp only [hclient] at hrecord
    exact Or.inl ⟨by simpa using htoken, hrecord.refused⟩

/-- The deployment that is carried out with some settings and a client. -/
def jobOf (settings : Settings) (client : Client) (a : DeployArguments) : DeployJob :=
  ⟨client, settings.service.timeoutSeconds, a.format⟩

/-- Something is in the way and the program fails, or the deployment is carried out. -/
theorem deployTopology_cases (lookup : String → Option String) (w : World) (a : DeployArguments)
    (hfresh : p.Fresh) :
    (Impediment lookup w a ∧ Refused ((deployTopology lookup a).converseFrom w p)) ∨
      ∃ settings t client p', Ready lookup w a settings t client ∧
        Leads w (deployTopology lookup a) p
          ((jobOf settings client a).carryOut (effectiveOptions a settings.options) t) p' := by
  unfold deployTopology withSettings
  cases hsettings : Settings.ofLookup lookup with
  | error source => exact Or.inl ⟨.settings hsettings, (Leads.refl hfresh).refused⟩
  | ok settings =>
      by_cases hzero : a.concurrency = some 0
      · simp only [hzero, if_true]
        exact Or.inl ⟨.concurrency hzero, (Leads.refl hfresh).refused⟩
      · simp only [hzero, if_false]
        have hrecord := hfresh.record (.apiAddress settings.service.baseUrl)
        rcases withTopology_cases w a.topology _ hrecord with
          ⟨hload, hrefused⟩ | ⟨t, p₁, hloads, hleads⟩
        · exact Or.inl ⟨.topology hload, hrefused⟩
        · have hgo := (Leads.record hfresh _).trans hleads
          rcases withClient_cases w settings.service _ hleads.fresh with
            ⟨⟨c, hmem, hchar⟩, hrefused⟩ | ⟨client, p₂, hclient, hleads'⟩
          · refine Or.inl ⟨.token hsettings hmem hchar, ?_⟩
            rw [hgo.converse]
            exact hrefused
          · exact Or.inr ⟨settings, t, client, p₂, ⟨hsettings, hzero, hloads, hclient⟩,
              hgo.trans hleads'⟩

/-- A deployment that is ready is carried out to its end, and no more requests wait at any moment
than a window. -/
theorem Ready.ends {a : DeployArguments} {settings : Settings} {t : Topology} {client : Client}
    (hready : Ready lookup w a settings t client) :
    let d := deployTopology lookup a
    let options := effectiveOptions a settings.options
    (∃ exchanges schedule result,
      let r := (Rollout.start options ⟨w.runId, w.clock 0, w.clock 1⟩ t []).run
        (client.platform exchanges) schedule
      (jobOf settings client a).Ended r result (d.converse w) ∧ (client.sends = true →
        w.Answers (d.converse w).requests r.history.answeredSerials exchanges)) ∧
    ∀ m ∈ d.moments w, m.waiting.length ≤ options.window := by
  intro d options
  rcases deployTopology_cases lookup w a Progress.start_fresh with
    ⟨himpediment, _⟩ | ⟨settings', t', client', p, hready', hleads⟩
  · exact absurd himpediment hready.not_impediment
  · obtain rfl := Except.ok.inj (hready.settings_eq.symm.trans hready'.settings_eq)
    obtain rfl := hready.loads.unique hready'.loads
    obtain rfl := Except.ok.inj (hready.client_eq.symm.trans hready'.client_eq)
    have hends := (jobOf settings client a).carryOut_ends w options t hleads.fresh
    rw [← hleads.converse] at hends
    refine ⟨hends.1, fun m hm => ?_⟩
    rcases hleads.moments m hm with hnone | hlater
    · rw [hnone]
      exact Nat.zero_le _
    · exact hends.2 m hlater

end Leads

end Cli

end PolicyRollout
