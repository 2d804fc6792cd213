import PolicyRollout.Proofs.Network.Sources
import PolicyRollout.Proofs.Text.Digits
import PolicyRollout.Settings
/-!
Settings from a look-up.  There are settings exactly if the token is set, each value that has to be
read can be read, and the concurrency is not zero; each setting then comes from its own name alone.
Otherwise the first thing that is amiss is reported: the token, then the values in the order in
which they are read, and a concurrency of zero only when all values could be read.
-/
namespace PolicyRollout

namespace Text

/-- Characters without blanks are what is left of them between blanks. -/
theorem trimChars_between {left core right : List Char} (hleft : ∀ c ∈ left, isBlank c = true)
    (hcore : ∀ c ∈ core, isBlank c = false) (hright : ∀ c ∈ right, isBlank c = true) :
    trimChars (left ++ core ++ right) = core := by
  rw [trimChars_append hright, trimChars_prepend hleft, trimChars_eq_self hcore]

theorem exists_trimChars (cs : List Char) : ∃ left right : List Char,
    cs = left ++ trimChars cs ++ right ∧ (∀ c ∈ left, isBlank c = true) ∧
      ∀ c ∈ right, isBlank c = true := by
  have hback : cs.dropWhile isBlank =
      trimChars cs ++ ((cs.dropWhile isBlank).reverse.takeWhile isBlank).reverse := by
    rw [trimChars, ← List.reverse_append, List.takeWhile_append_dropWhile, List.reverse_reverse]
  refine ⟨cs.takeWhile isBlank, ((cs.dropWhile isBlank).reverse.takeWhile isBlank).reverse,
    ?_, fun c hc => List.mem_takeWhile_imp hc,
    fun c hc => List.mem_takeWhile_imp (List.mem_reverse.mp hc)⟩
  rw [List.append_assoc, ← hback, List.takeWhile_append_dropWhile]

theorem Spells.not_blank {digits : List Char} {n : Nat} (hspells : Spells digits n) :
    ∀ c ∈ digits, isBlank c = false := by
  intro c hc
  have hdigit : 48 ≤ c.toNat ∧ c.toNat ≤ 57 := Char.isDigit_iff_toNat.mp (hspells.isDigit c hc)
  simp only [isBlank, Bool.or_eq_false_iff, Bool.and_eq_false_iff, decide_eq_false_iff_not,
    beq_eq_false_iff_ne]
  omega

end Text

namespace Settings

section Values

variable {α : Type} {parse? : List Char → Option α} {writes : List Char → α → Prop}
  {lookup : String → Option String} {key : SettingKey} {text : String} {default v : α}

/-- Digits of a natural number of 64 bits, with one plus sign before them or without. -/
def WritesNatural64 (cs : List Char) (n : Nat) : Prop :=
  (∃ digits, (cs = digits ∨ cs = '+' :: digits) ∧ Text.Spells digits n) ∧ n ≤ maxNatural64

/-- The name of a truth value. -/
def WritesTruth (cs : List Char) (b : Bool) : Prop :=
  cs = (if b then "true" else "false").toList

/-- A text with nothing but blanks around the characters that write a value. -/
def Shows (writes : List Char → α → Prop) (text : String) (v : α) : Prop :=
  ∃ left core right : List Char, text.toList = left ++ core ++ right ∧
    (∀ c ∈ left, Text.isBlank c = true) ∧ (∀ c ∈ right, Text.isBlank c = true) ∧ writes core v

/-- The value under a key is what the text there shows, or the default if there is none. -/
def Gives (lookup : String → Option String) (writes : List Char → α → Prop) (key : SettingKey)
    (default v : α) : Prop :=
  (lookup key.name = none ∧ v = default) ∨ ∃ text, lookup key.name = some text ∧ Shows writes text v

/-- A parser of exactly what is written in some way, with no blanks in it. -/
structure Parses (parse? : List Char → Option α) (writes : List Char → α → Prop) : Prop where
  eq_some_iff : ∀ {cs v}, parse? cs = some v ↔ writes cs v
  not_blank : ∀ {cs v}, writes cs v → ∀ c ∈ cs, Text.isBlank c = false

theorem parses_natural64 : Parses natural64? WritesNatural64 where
  eq_some_iff := Text.unsigned?_eq_some_iff
  not_blank := by
    rintro cs n ⟨⟨digits, rfl | rfl, hspells⟩, _⟩
    · exact hspells.not_blank
    · exact List.forall_mem_cons.mpr ⟨by decide, hspells.not_blank⟩

theorem parses_truth : Parses truth? WritesTruth where
  eq_some_iff := by
    intro cs b
    have hne : "true".toList ≠ "false".toList := by simp
    unfold truth? WritesTruth
    by_cases htrue : cs = "true".toList
    · rw [if_pos htrue]
      cases b with
      | false => exact iff_of_false nofun fun hfalse => hne (htrue.symm.trans hfalse)
      | true => exact iff_of_true rfl htrue
    · rw [if_neg htrue]
      by_cases hfalse : cs = "false".toList
      · rw [if_pos hfalse]
        cases b with
        | false => exact iff_of_true rfl hfalse
        | true => exact iff_of_false nofun htrue
      · rw [if_neg hfalse]
        cases b with
        | false => exact iff_of_false nofun hfalse
        | true => exact iff_of_false nofun htrue
  not_blank := by
    rintro cs b rfl
    cases b with
    | false => simp [Text.isBlank]
    | true => simp [Text.isBlank]

theorem Parses.trimmed_iff (hparses : Parses parse? writes) :
    parse? (Text.trimChars text.toList) = some v ↔ Shows writes text v := by
  constructor
  · intro hread
    obtain ⟨left, right, hsplit, hleft, hright⟩ := Text.exists_trimChars text.toList
    exact ⟨left, _, right, hsplit, hleft, hright, hparses.eq_some_iff.mp hread⟩
  · rintro ⟨left, core, right, hsplit, hleft, hright, hwrites⟩
    rw [hsplit, Text.trimChars_between hleft (hparses.not_blank hwrites) hright]
    exact hparses.eq_some_iff.mpr hwrites

theorem valueOr_of_gives (hparses : Parses parse? writes)
    (hgives : Gives lookup writes key default v) : valueOr lookup parse? key default = .ok v := by
  unfold valueOr
  rcases hgives with ⟨hnone, rfl⟩ | ⟨text, htext, hshows⟩
  · rw [hnone]
  · simp only [htext, hparses.trimmed_iff.mpr hshows]

theorem valueOr_of_not_shows (hparses : Parses parse? writes) (htext : lookup key.name = some text)
    (hnot : ¬ ∃ v, Shows writes text v) :
    valueOr lookup parse? key default = .error (.invalid key text) := by
  have hnone : parse? (Text.trimChars text.toList) = none := by
    rw [Option.eq_none_iff_forall_ne_some]
    exact fun v hread => hnot ⟨v, hparses.trimmed_iff.mp hread⟩
  unfold valueOr
  simp only [htext, hnone]

theorem exists_gives (hshows : ∀ text, lookup key.name = some text → ∃ v, Shows writes text v)
    (default : α) : ∃ v, Gives lookup writes key default v := by
  cases hset : lookup key.name with
  | none => exact ⟨default, .inl ⟨hset, rfl⟩⟩
  | some text =>
      obtain ⟨v, hv⟩ := hshows text hset
      exact ⟨v, .inr ⟨text, hset, hv⟩⟩

theorem exists_valueOr (hparses : Parses parse? writes)
    (hshows : ∀ text, lookup key.name = some text → ∃ v, Shows writes text v) (default : α) :
    ∃ v, valueOr lookup parse? key default = .ok v := by
  obtain ⟨v, hgives⟩ := exists_gives hshows default
  exact ⟨v, valueOr_of_gives hparses hgives⟩

end Values

/-- The settings whose values have to be read, in the order in which they are. -/
def parsedKeys : List SettingKey :=
  [.apiTimeout, .dryRun, .entityConcurrency, .verifyTemplates]

/-- The texts that can be read as the value of a setting. -/
def Allows : SettingKey → String → Prop
  | .apiTimeout, text | .entityConcurrency, text => ∃ n, Shows WritesNatural64 text n
  | .dryRun, text | .verifyTemplates, text => ∃ b, Shows WritesTruth text b
  | .apiUrl, _ | .apiToken, _ | .topologyPath, _ => True

variable {lookup lookup' : String → Option String} {settings : Settings} {e : SettingsError}

/-- A setting is absent or can be read. -/
def Readable (lookup : String → Option String) (key : SettingKey) : Prop :=
  ∀ text, lookup key.name = some text → Allows key text

/-- The token is there and not empty. -/
def HasToken (lookup : String → Option String) : Prop :=
  ∃ token, lookup SettingKey.apiToken.name = some token ∧ token ≠ ""

def ZeroConcurrency (lookup : String → Option String) : Prop :=
  ∃ text, lookup SettingKey.entityConcurrency.name = some text ∧ Shows WritesNatural64 text 0

/-- Settings of which each is what a look-up gives under its name. -/
structure Configured (lookup : String → Option String) (settings : Settings) : Prop where
  baseUrl : settings.service.baseUrl = (lookup SettingKey.apiUrl.name).getD defaultUrl
  apiToken : lookup SettingKey.apiToken.name = some settings.service.apiToken
  apiToken_ne : settings.service.apiToken ≠ ""
  timeout : Gives lookup WritesNatural64 .apiTimeout 30 settings.service.timeoutSeconds
  dryRun : Gives lookup WritesTruth .dryRun false settings.options.dryRun
  concurrency : Gives lookup WritesNatural64 .entityConcurrency 1 settings.options.entityConcurrency
  concurrency_ne : settings.options.entityConcurrency ≠ 0
  verify : Gives lookup WritesTruth .verifyTemplates false settings.options.verifyTemplates
  topologyPath : settings.topologyPath = lookup SettingKey.topologyPath.name

/-- What is amiss with a look-up: the first fault in the order in which settings are read. -/
inductive Fault (lookup : String → Option String) : SettingsError → Prop
  | token (hmissing : ¬ HasToken lookup) : Fault lookup (.missing .apiToken)
  | unreadable (htoken : HasToken lookup) {key : SettingKey} (hkey : key ∈ parsedKeys)
      (hbefore : ∀ k ∈ parsedKeys.takeWhile (· ≠ key), Readable lookup k) {text : String}
      (htext : lookup key.name = some text) (hnot : ¬ Allows key text) :
      Fault lookup (.invalid key text)
  | zero (htoken : HasToken lookup) (hread : ∀ key ∈ parsedKeys, Readable lookup key)
      (hzero : ZeroConcurrency lookup) : Fault lookup (.invalid .entityConcurrency "0")

/-- Of some keys all are as they should be, or there is a first one that is not. -/
theorem forall_or_first {P : SettingKey → Prop} (keys : List SettingKey) :
    (∀ k ∈ keys, P k) ∨ ∃ k ∈ keys, (∀ j ∈ keys.takeWhile (· ≠ k), P j) ∧ ¬ P k := by
  induction keys with
  | nil => exact .inl nofun
  | cons first rest ih =>
      by_cases hfirst : P first
      · rcases ih with hall | ⟨k, hk, hbefore, hnot⟩
        · exact .inl (List.forall_mem_cons.mpr ⟨hfirst, hall⟩)
        · have hne : first ≠ k := fun heq => hnot (heq ▸ hfirst)
          refine .inr ⟨k, List.mem_cons_of_mem first hk, ?_, hnot⟩
          rw [List.takeWhile_cons_of_pos (by simpa using hne)]
          exact List.forall_mem_cons.mpr ⟨hfirst, hbefore⟩
      · exact .inr ⟨first, List.mem_cons_self, by simp, hfirst⟩

theorem ofLookup_of_not_hasToken (hmissing : ¬ HasToken lookup) :
    ofLookup lookup = .error (.missing .apiToken) := by
  have hfilter : (lookup SettingKey.apiToken.name).filter (· ≠ "") = none := by
    rw [Option.filter_eq_none_iff]
    intro token htoken
    simpa using fun hne => hmissing ⟨token, htoken, hne⟩
  simp only [ofLookup, hfilter]

/-- With a token, the values are read one after the other. -/
theorem ofLookup_of_token {token : String} (htoken : lookup SettingKey.apiToken.name = some token)
    (hne : token ≠ "") :
    ofLookup lookup = (do
      let timeout ← valueOr lookup natural64? .apiTimeout 30
      let dryRun ← valueOr lookup truth? .dryRun false
      let concurrency ← valueOr lookup natural64? .entityConcurrency 1
      let verify ← valueOr lookup truth? .verifyTemplates false
      if concurrency = 0 then .error (.invalid .entityConcurrency "0")
      else return ⟨⟨(lookup SettingKey.apiUrl.name).getD defaultUrl, token, timeout⟩,
        ⟨dryRun, concurrency, verify⟩, lookup SettingKey.topologyPath.name⟩) := by
  have hfilter : (lookup SettingKey.apiToken.name).filter (· ≠ "") = some token := by
    rw [htoken, Option.filter_some, if_pos (by simpa using hne)]
  simp only [ofLookup, hfilter]
  rfl

theorem ofLookup_of_configured (hconfigured : Configured lookup settings) :
    ofLookup lookup = .ok settings := by
  rw [ofLookup_of_token hconfigured.apiToken hconfigured.apiToken_ne,
    valueOr_of_gives parses_natural64 hconfigured.timeout,
    valueOr_of_gives parses_truth hconfigured.dryRun,
    valueOr_of_gives parses_natural64 hconfigured.concurrency,
    valueOr_of_gives parses_truth hconfigured.verify]
  simp only [bind, Except.bind, if_neg hconfigured.concurrency_ne, ← hconfigured.baseUrl,
    ← hconfigured.topologyPath]
  rfl

theorem ofLookup_of_fault (hfault : Fault lookup e) : ofLookup lookup = .error e := by
  cases hfault with
  | token hmissing => exact ofLookup_of_not_hasToken hmissing
  | @unreadable htoken key hkey hbefore text htext hnot =>
      obtain ⟨token, htoken, hne⟩ := htoken
      rw [ofLookup_of_token htoken hne]
      cases key with
      | apiUrl => exact absurd hkey (by decide)
      | apiToken => exact absurd hkey (by decide)
      | topologyPath => exact absurd hkey (by decide)
      | apiTimeout =>
          rw [valueOr_of_not_shows parses_natural64 htext hnot]
          rfl
      | dryRun =>
          obtain ⟨_, htimeout⟩ :=
            exists_valueOr parses_natural64 (hbefore .apiTimeout (by decide)) 30
          rw [htimeout, valueOr_of_not_shows parses_truth htext hnot]
          rfl
      | entityConcurrency =>
          obtain ⟨_, htimeout⟩ :=
            exists_valueOr parses_natural64 (hbefore .apiTimeout (by decide)) 30
          obtain ⟨_, hdryRun⟩ := exists_valueOr parses_truth (hbefore .dryRun (by decide)) false
          rw [htimeout, hdryRun, valueOr_of_not_shows parses_natural64 htext hnot]
          rfl
      | verifyTemplates =>
          obtain ⟨_, htimeout⟩ :=
            exists_valueOr parses_natural64 (hbefore .apiTimeout (by decide)) 30
          obtain ⟨_, hdryRun⟩ := exists_valueOr parses_truth (hbefore .dryRun (by decide)) false
          obtain ⟨_, hconcurrency⟩ :=
            exists_valueOr parses_natural64 (hbefore .entityConcurrency (by decide)) 1
          rw [htimeout, hdryRun, hconcurrency, valueOr_of_not_shows parses_truth htext hnot]
          rfl
  | zero htoken hread hzero =>
      obtain ⟨token, htoken, hne⟩ := htoken
      obtain ⟨_, htimeout⟩ := exists_valueOr parses_natural64 (hread .apiTimeout (by decide)) 30
      obtain ⟨_, hdryRun⟩ := exists_valueOr parses_truth (hread .dryRun (by decide)) false
      obtain ⟨_, hverify⟩ := exists_valueOr parses_truth (hread .verifyTemplates (by decide)) false
      have hnone : Gives lookup WritesNatural64 .entityConcurrency 1 0 := .inr hzero
      rw [ofLookup_of_token htoken hne, htimeout, hdryRun,
        valueOr_of_gives parses_natural64 hnone, hverify]
      rfl

theorem exists_configured (htoken : HasToken lookup)
    (hread : ∀ key ∈ parsedKeys, Readable lookup key) (hzero : ¬ ZeroConcurrency lookup) :
    ∃ settings, Configured lookup settings := by
  obtain ⟨token, htoken, hne⟩ := htoken
  obtain ⟨timeout, htimeout⟩ := exists_gives (hread .apiTimeout (by decide)) 30
  obtain ⟨dryRun, hdryRun⟩ := exists_gives (hread .dryRun (by decide)) false
  obtain ⟨concurrency, hconcurrency⟩ := exists_gives (hread .entityConcurrency (by decide)) 1
  obtain ⟨verify, hverify⟩ := exists_gives (hread .verifyTemplates (by decide)) false
  have hne_zero : concurrency ≠ 0 := by
    rintro rfl
    rcases hconcurrency with ⟨_, habsurd⟩ | hset
    · exact absurd habsurd (by decide)
    · exact hzero hset
  exact ⟨⟨⟨_, token, timeout⟩, ⟨dryRun, concurrency, verify⟩, _⟩,
    rfl, htoken, hne, htimeout, hdryRun, hconcurrency, hne_zero, hverify, rfl⟩

/-- Either there are settings or something is amiss. -/
theorem exists_configured_or_fault (lookup : String → Option String) :
    (HasToken lookup ∧ (∀ key ∈ parsedKeys, Readable lookup key) ∧ ¬ ZeroConcurrency lookup ∧
      ∃ settings, Configured lookup settings) ∨ ∃ e, Fault lookup e := by
  by_cases htoken : HasToken lookup
  · rcases forall_or_first (P := Readable lookup) parsedKeys with
      hread | ⟨key, hkey, hbefore, hnot⟩
    · by_cases hzero : ZeroConcurrency lookup
      · exact .inr ⟨_, .zero htoken hread hzero⟩
      · exact .inl ⟨htoken, hread, hzero, exists_configured htoken hread hzero⟩
    · obtain ⟨text, hnot⟩ := not_forall.mp hnot
      obtain ⟨htext, hnot⟩ := Classical.not_imp.mp hnot
      exact .inr ⟨_, .unreadable htoken hkey hbefore htext hnot⟩
  · exact .inr ⟨_, .token htoken⟩

theorem ofLookup_eq_ok_iff : ofLookup lookup = .ok settings ↔ Configured lookup settings := by
  refine ⟨fun hload => ?_, ofLookup_of_configured⟩
  rcases exists_configured_or_fault lookup with ⟨_, _, _, found, hfound⟩ | ⟨e, hfault⟩
  · obtain rfl := Except.ok.inj ((ofLookup_of_configured hfound).symm.trans hload)
    exact hfound
  · cases (ofLookup_of_fault hfault).symm.trans hload

theorem ofLookup_eq_error_iff : ofLookup lookup = .error e ↔ Fault lookup e := by
  refine ⟨fun hload => ?_, ofLookup_of_fault⟩
  rcases exists_configured_or_fault lookup with ⟨_, _, _, found, hfound⟩ | ⟨found, hfault⟩
  · cases (ofLookup_of_configured hfound).symm.trans hload
  · obtain rfl := Except.error.inj ((ofLookup_of_fault hfault).symm.trans hload)
    exact hfault

theorem exists_ofLookup_iff : (∃ settings, ofLookup lookup = .ok settings) ↔
    HasToken lookup ∧ (∀ key ∈ parsedKeys, Readable lookup key) ∧ ¬ ZeroConcurrency lookup := by
  constructor
  · rintro ⟨settings, hload⟩
    rcases exists_configured_or_fault lookup with ⟨htoken, hread, hzero, _⟩ | ⟨e, hfault⟩
    · exact ⟨htoken, hread, hzero⟩
    · cases (ofLookup_of_fault hfault).symm.trans hload
  · rintro ⟨htoken, hread, hzero⟩
    obtain ⟨settings, hconfigured⟩ := exists_configured htoken hread hzero
    exact ⟨settings, ofLookup_of_configured hconfigured⟩

/-- Nothing but the values under the names of the settings is looked at. -/
theorem ofLookup_congr (hsame : ∀ key : SettingKey, lookup' key.name = lookup key.name) :
    ofLookup lookup' = ofLookup lookup := by
  simp only [ofLookup, valueOr, hsame]

/-- There are settings exactly if there is a token, all values can be read and the concurrency is
not zero.  They are then what the look-up gives under each name, with a token that is not empty and
room for one entity at least; otherwise the first fault is reported.  Other names are of no
consequence. -/
theorem ofLookup_settles (lookup : String → Option String) :
    ((∃ settings, ofLookup lookup = .ok settings) ↔
      HasToken lookup ∧ (∀ key ∈ parsedKeys, Readable lookup key) ∧ ¬ ZeroConcurrency lookup) ∧
    (∀ settings, ofLookup lookup = .ok settings ↔ Configured lookup settings) ∧
    (∀ e, ofLookup lookup = .error e ↔ Fault lookup e) ∧
    (∀ lookup' : String → Option String,
      (∀ key : SettingKey, lookup' key.name = lookup key.name) →
        ofLookup lookup' = ofLookup lookup) ∧
    ∀ settings, ofLookup lookup = .ok settings →
      settings.service.apiToken ≠ "" ∧ 1 ≤ settings.options.entityConcurrency := by
  refine ⟨exists_ofLookup_iff, fun _ => ofLookup_eq_ok_iff, fun _ => ofLookup_eq_error_iff,
    fun _ => ofLookup_congr, ?_⟩
  intro settings hload
  have hconfigured := ofLookup_eq_ok_iff.mp hload
  exact ⟨hconfigured.apiToken_ne, Nat.one_le_iff_ne_zero.mpr hconfigured.concurrency_ne⟩

/-- A value that cannot be read is reported before a concurrency of zero. -/
example : ofLookup
    (fun
      | "TEMPLATE_API_TOKEN" => some "secret"
      | "DEPLOY_ENTITY_CONCURRENCY" => some " +00 "
      | "DEPLOY_VERIFY_TEMPLATES" => some "yes "
      | _ => none) = .error (.invalid .verifyTemplates "yes ") := by
  decide

end Settings

end PolicyRollout
