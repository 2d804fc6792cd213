import PolicyRollout.Proofs.Http.Lookups
/-!
What a response is taken for.  The status decides first: a body is read for a value only when the
status reports success, so no failure is taken for an answer, whatever its body holds.
-/
namespace PolicyRollout.Http

/-- Whether a status reports success. -/
def IsSuccess (status : Nat) : Prop :=
  200 ≤ status ∧ status < 300

instance (status : Nat) : Decidable (IsSuccess status) :=
  inferInstanceAs (Decidable (200 ≤ status ∧ status < 300))

/-- What a response of some status, the whole of whose body has come, is taken for.  `id` is the
template that was asked for, if one was. -/
structure Classified {α : Type} (decoder : Document.Decoder α) (id : Option String) (status : Nat)
    (body : List UInt8) (result : Except PlatformError α) : Prop where
  ok : ∀ v, result = .ok v ↔ IsSuccess status ∧ Json.decode decoder (Text.symbols body) = .ok v
  decode : ∀ message, result = .error (.decode message) ↔ IsSuccess status ∧
    ∃ c, Json.decode decoder (Text.symbols body) = .error c ∧ message = c.message .json
  authentication : ∀ code message, result = .error (.authentication code message) ↔
    (status = 401 ∨ status = 403) ∧ code = status ∧ message = Text.decodeLenient body
  unknownTemplate : ∀ unknown, result = .error (.unknownTemplate unknown) ↔
    status = 404 ∧ id = some unknown
  api : ∀ code text, result = .error (.api code text) ↔
    (¬IsSuccess status ∧ status ∉ [401, 403] ∧ (status = 404 → id = none)) ∧
      code = status ∧ text = Text.decodeLenient body
  transport : ∀ message, result ≠ .error (.transport message)
  configuration : ∀ message, result ≠ .error (.configuration message)
  empty : IsSuccess status → body = [] → ∃ message, result = .error (.decode message)
  status : ¬IsSuccess status → ∀ e, result = .error e → (∀ unknown, e ≠ .unknownTemplate unknown) →
    e.status = some status

section Interpret

variable {α : Type} {decoder : Document.Decoder α} {id : Option String} {r : Response}
  {body : List UInt8}

theorem isSuccess_iff : r.isSuccess = true ↔ IsSuccess r.status := by
  simp [Response.isSuccess, IsSuccess]

theorem interpret_of_isSuccess (hsuccess : IsSuccess r.status) (hbody : r.content? = some body) :
    Client.interpret decoder id r = Client.decodeBody decoder body := by
  rw [Client.interpret, if_pos (isSuccess_iff.mpr hsuccess), hbody]

theorem interpret_of_not_isSuccess (hfailure : ¬IsSuccess r.status) :
    Client.interpret decoder id r = .error (Client.refusal id r) :=
  if_neg (mt isSuccess_iff.mp hfailure)

theorem text_eq (hbody : r.content? = some body) : r.text = Text.decodeLenient body := by
  rw [Response.text, hbody]

/-- A body of success is a value or cannot be read. -/
theorem classified_decodeBody {status : Nat} (hsuccess : IsSuccess status)
    (hempty : (Json.decode decoder (Text.symbols [])).isOk = false) :
    Classified decoder id status body (Client.decodeBody decoder body) := by
  have hother : status ≠ 401 ∧ status ≠ 403 ∧ status ≠ 404 := by
    unfold IsSuccess at hsuccess
    omega
  unfold Client.decodeBody
  cases hdecoded : Json.decode decoder (Text.symbols body) with
  | ok v =>
      have hbody : body ≠ [] := by
        rintro rfl
        rw [hdecoded] at hempty
        contradiction
      constructor <;> simp [hsuccess, hdecoded, hother, hbody]
  | error c => constructor <;> simp [hsuccess, hdecoded, hother, eq_comm]

theorem refusal_eq_authentication (hstatus : r.status = 401 ∨ r.status = 403) :
    Client.refusal id r = .authentication r.status r.text :=
  if_pos (by simpa using hstatus)

theorem refusal_eq_unknownTemplate (hstatus : r.status = 404) (unknown : String) :
    Client.refusal (some unknown) r = .unknownTemplate unknown := by
  unfold Client.refusal
  rw [if_neg (by simp [hstatus]), hstatus]
  rfl

theorem refusal_eq_api (hstatus : ¬(r.status = 401 ∨ r.status = 403))
    (hid : r.status = 404 → id = none) : Client.refusal id r = .api r.status r.text := by
  unfold Client.refusal
  rw [if_neg (by simpa using hstatus)]
  split
  · rename_i hfound
    exact absurd (hid hfound) (Option.some_ne_none _)
  · rfl

/-- A failure is what its status says. -/
theorem classified_refusal (hfailure : ¬IsSuccess r.status) (hbody : r.content? = some body) :
    Classified decoder id r.status body (.error (Client.refusal id r)) := by
  by_cases hcredentials : r.status = 401 ∨ r.status = 403
  · have hfound : r.status ≠ 404 := by omega
    rw [refusal_eq_authentication hcredentials, text_eq hbody]
    constructor <;> simp [hfailure, hcredentials, hfound, eq_comm, PlatformError.status]
  by_cases hunknown : r.status = 404 ∧ id.isSome
  · obtain ⟨unknown, rfl⟩ := Option.isSome_iff_exists.mp hunknown.2
    have hnot : ¬IsSuccess 404 := by decide
    rw [refusal_eq_unknownTemplate hunknown.1]
    constructor <;> simp [hunknown.1, hnot, eq_comm]
  · have hid : r.status = 404 → id = none := by
      intro hstatus
      simpa [hstatus] using hunknown
    have hnone : ∀ unknown, r.status = 404 → id ≠ some unknown := by
      intro unknown hstatus hsome
      exact absurd (hsome.symm.trans (hid hstatus)) (Option.some_ne_none unknown)
    rw [refusal_eq_api hcredentials hid, text_eq hbody]
    constructor
    case unknownTemplate => simpa using hnone
    case api =>
      have hother : ¬IsSuccess r.status ∧ r.status ∉ [401, 403] ∧ (r.status = 404 → id = none) :=
        ⟨hfailure, by simpa using hcredentials, hid⟩
      intro code text
      rw [and_iff_right hother]
      simp [eq_comm]
    all_goals simp [hfailure, not_or.mp hcredentials, eq_comm, PlatformError.status]

theorem classified_interpret (hbody : r.content? = some body)
    (hempty : (Json.decode decoder (Text.symbols [])).isOk = false) :
    Classified decoder id r.status body (Client.interpret decoder id r) := by
  by_cases hsuccess : IsSuccess r.status
  · rw [interpret_of_isSuccess hsuccess hbody]
    exact classified_decodeBody hsuccess hempty
  · rw [interpret_of_not_isSuccess hsuccess]
    exact classified_refusal hsuccess hbody

end Interpret

namespace Client

variable {c : Client} {r : Response} {body : List UInt8}

/-- A request that was sent is concluded by what its response is taken for. -/
theorem classified_conclude {α : Type} {decoder : Document.Decoder α} {id : Option String}
    {request : Option Request} (hsent : request.isSome = true) (hbody : r.content? = some body)
    (hempty : (Json.decode decoder (Text.symbols [])).isOk = false) :
    Classified decoder id r.status body (conclude decoder id request (.answered r)) := by
  obtain ⟨q, rfl⟩ := Option.isSome_iff_exists.mp hsent
  exact classified_interpret hbody hempty

theorem isSome_templateRequest? (c : Client) (id : String) :
    (c.templateRequest? id).isSome = c.sends := by
  rw [← isSome_url? c (isTail_encodeSegment id), templateRequest?]
  cases c.url? ('/' :: encodeSegment id) <;> rfl

/-- Every response to a request that was sent, and the whole of whose body has come, is taken for
what its status and its body say: a value only if the status reports success and the body holds
what was asked for, which an empty one never does. -/
theorem answers_classified (hsends : c.sends = true) (hbody : r.content? = some body) :
    (∀ category tags, Classified templateListDecoder none r.status body
      (c.answer (.answered r) (.list category tags)).result) ∧
    (∀ id vars, Classified Verdict.decoder (some id) r.status body
      (c.answer (.answered r) (.validate id vars)).result) ∧
    (∀ id vars switch dryRun, Classified Creation.decoder (some id) r.status body
      (c.answer (.answered r) (.instantiate id vars switch dryRun)).result) ∧
    ∀ id, Classified TemplateDescriptor.decoder (some id) r.status body
      (c.template id (.answered r)) := by
  have hsent : ∀ call, (c.request? call).isSome = true := by
    intro call
    rw [isSome_request?, hsends]
  refine ⟨?_, ?_, ?_, ?_⟩
  · intro category tags
    exact classified_conclude (hsent (.list category tags)) hbody (by decide +kernel)
  · intro id vars
    exact classified_conclude (hsent (.validate id vars)) hbody (by decide +kernel)
  · intro id vars switch dryRun
    exact classified_conclude (hsent (.instantiate id vars switch dryRun)) hbody
      (by decide +kernel)
  · intro id
    exact classified_conclude ((isSome_templateRequest? c id).trans hsends) hbody
      (by decide +kernel)

/-- A refusal stays one although its body holds a good answer. -/
theorem answers_classified_valid_refusal :
    (⟨"http://127.0.0.1:8080", "Bearer t"⟩ : Client).sends = true ∧
      (Response.ofText 403 "\x7b\"valid\":true\x7d").content? =
        some (Text.encode "\x7b\"valid\":true\x7d") ∧
      ∀ id vars, ((⟨"http://127.0.0.1:8080", "Bearer t"⟩ : Client).answer
          (.answered (Response.ofText 403 "\x7b\"valid\":true\x7d")) (.validate id vars)).result =
        .error (.authentication 403 (Text.decodeLenient (Text.encode "\x7b\"valid\":true\x7d"))) := by
  have hsends : (⟨"http://127.0.0.1:8080", "Bearer t"⟩ : Client).sends = true := by
    decide +kernel
  have hbody : (Response.ofText 403 "\x7b\"valid\":true\x7d").content? =
      some (Text.encode "\x7b\"valid\":true\x7d") := rfl
  refine ⟨hsends, hbody, fun id vars => ?_⟩
  exact (((answers_classified hsends hbody).2.1 id vars).authentication _ _).mpr
    ⟨Or.inr rfl, rfl, rfl⟩

end Client

end PolicyRollout.Http
