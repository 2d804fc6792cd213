import Mathlib.Data.List.Induction
import Mathlib.Data.List.Perm.Basic
import PolicyRollout.Platform.Verdict
import PolicyRollout.Proofs.Document.Given
import PolicyRollout.Proofs.Text.ByteOrder
/-!
The forms of a verdict.  Errors come as a list, as an object of one message for each field, as null
or not at all, and in no other form.  The messages of an object become lines in the byte order of
their fields, so that the order of the object is of no account, and a verdict is read from its own
JSON as it was.
-/
namespace PolicyRollout

open Document (Decoder Field Fields Setting)
open Document.Fields (given_cons_iff)
open Json (Entries Value)

namespace Verdict

/-- A message as the member of an object. -/
def asMember (entry : String × String) : String × Value := (entry.1, .string entry.2)

def line (entry : String × String) : String := entry.1 ++ ": " ++ entry.2

/-- The messages of an object, in the order in which they are kept. -/
def gather (given : List (String × String)) : List (String × String) :=
  given.foldl (fun messages entry => insertMessage entry.1 entry.2 messages) []

/-- The messages that are given, one for each field and the last if there are several, in the byte
order of the fields. -/
structure Gathered (given messages : List (String × String)) : Prop where
  ordered : messages.Pairwise fun a b => Text.encode a.1 < Text.encode b.1
  mem_iff : ∀ field message,
    (field, message) ∈ messages ↔ given.reverse.lookup field = some message

section Gathering

variable {given others messages : List (String × String)} {field message : String}

theorem asMember_injective : Function.Injective asMember := by
  intro a b heq
  obtain ⟨hfield, hmessage⟩ := Prod.mk.inj heq
  exact Prod.ext hfield (Value.string.inj hmessage)

theorem names_map_asMember (given : List (String × String)) :
    Entries.names (given.map asMember) = given.map Prod.fst := by
  rw [Entries.names, List.map_map]
  rfl

/-- Messages are kept as the members of free-form objects are. -/
theorem map_insertMessage (field message : String) (messages : List (String × String)) :
    (insertMessage field message messages).map asMember =
      Entries.insert field (.string message) (messages.map asMember) := by
  induction messages with
  | nil => rfl
  | cons first rest ih =>
      obtain ⟨f, m⟩ := first
      have hmap : ((f, m) :: rest).map asMember = (f, .string m) :: rest.map asMember := rfl
      rw [insertMessage, hmap, Entries.insert]
      by_cases hlt : field < f
      · rw [if_pos hlt, if_pos hlt]
        rfl
      · rw [if_neg hlt, if_neg hlt]
        by_cases heq : field = f
        · rw [if_pos heq, if_pos heq]
          rfl
        · rw [if_neg heq, if_neg heq, List.map_cons, ih]
          rfl

theorem gather_concat (given : List (String × String)) (entry : String × String) :
    gather (given ++ [entry]) = insertMessage entry.1 entry.2 (gather given) := by
  rw [gather, List.foldl_append]
  rfl

theorem map_gather (given : List (String × String)) :
    (gather given).map asMember = Entries.sorted (given.map asMember) := by
  induction given using List.reverseRecOn with
  | nil => rfl
  | append_singleton front entry ih =>
      rw [gather_concat, map_insertMessage, ih, List.map_append, Entries.sorted, Entries.sorted,
        List.foldl_append]
      rfl

theorem gather_ordered (given : List (String × String)) :
    (gather given).Pairwise fun a b => a.1 < b.1 := by
  have hordered := Entries.sorted_ordered (given.map asMember)
  rw [← map_gather, Entries.Ordered, List.pairwise_map] at hordered
  exact hordered

/-- A message that is put in takes the place of the one for its field. -/
theorem mem_insertMessage_iff (hordered : messages.Pairwise fun a b => a.1 < b.1)
    {e : String × String} : e ∈ insertMessage field message messages ↔
      e = (field, message) ∨ e.1 ≠ field ∧ e ∈ messages := by
  induction messages with
  | nil => simp [insertMessage]
  | cons first rest ih =>
      obtain ⟨f, m⟩ := first
      obtain ⟨hfirst, hrest⟩ := List.pairwise_cons.mp hordered
      rw [insertMessage]
      by_cases hlt : field < f
      · have hfield : e ∈ (f, m) :: rest → e.1 ≠ field := by
          rintro hmem rfl
          rcases List.mem_cons.mp hmem with rfl | hmem
          · exact String.lt_irrefl _ hlt
          · exact String.lt_irrefl _ (String.lt_trans hlt (hfirst e hmem))
        rw [if_pos hlt, List.mem_cons, and_iff_right_of_imp hfield]
      · rw [if_neg hlt]
        by_cases heq : field = f
        · have hfield : e ∈ rest → e.1 ≠ field := by
            rintro hmem rfl
            exact String.lt_irrefl _ (heq ▸ hfirst e hmem)
          have hreplaced : ¬ (e.1 ≠ field ∧ e = (f, m)) := by
            rintro ⟨hne, rfl⟩
            exact hne heq.symm
          rw [if_pos heq, List.mem_cons, List.mem_cons, and_or_left, or_iff_right hreplaced,
            and_iff_right_of_imp hfield]
        · have hfield : e = (f, m) → e.1 ≠ field := by
            rintro rfl
            exact Ne.symm heq
          rw [if_neg heq, List.mem_cons, ih hrest, List.mem_cons, and_or_left,
            and_iff_right_of_imp hfield, or_left_comm]

theorem mem_gather_iff (given : List (String × String)) :
    (field, message) ∈ gather given ↔ given.reverse.lookup field = some message := by
  induction given using List.reverseRecOn with
  | nil => simp [gather]
  | append_singleton front entry ih =>
      rw [gather_concat, mem_insertMessage_iff (gather_ordered front), List.reverse_concat,
        List.lookup_cons, ih]
      by_cases hfield : field = entry.1
      · simp [hfield, Prod.ext_iff, eq_comm]
      · have hother : (field == entry.1) = false := beq_eq_false_iff_ne.mpr hfield
        simp [hfield, hother, Prod.ext_iff]

theorem gathered_gather (given : List (String × String)) : Gathered given (gather given) where
  ordered := (gather_ordered given).imp Text.encode_lt_iff.mpr
  mem_iff _ _ := mem_gather_iff given

theorem Gathered.nodup (hgathered : Gathered given messages) : messages.Nodup := by
  apply hgathered.ordered.imp
  rintro a b hlt rfl
  exact List.lt_irrefl _ hlt

/-- Only one list of messages is gathered. -/
theorem Gathered.eq_gather (hgathered : Gathered given messages) : messages = gather given := by
  have hsame : ∀ e, e ∈ messages ↔ e ∈ gather given := fun (field, message) =>
    (hgathered.mem_iff field message).trans (mem_gather_iff given).symm
  have hperm := (List.perm_ext_iff_of_nodup hgathered.nodup (gathered_gather given).nodup).mpr hsame
  apply hperm.eq_of_pairwise _ hgathered.ordered (gathered_gather given).ordered
  intro a b _ _ hlt hgt
  exact absurd hgt (List.lt_asymm hlt)

/-- Messages for different fields are all kept. -/
theorem gather_perm (hfields : (given.map Prod.fst).Nodup) : (gather given).Perm given := by
  rw [← names_map_asMember] at hfields
  have hperm := Entries.sorted_perm hfields
  rw [← map_gather] at hperm
  exact (List.map_perm_map_iff asMember_injective).mp hperm

/-- The order in which they are given is of no account. -/
theorem gather_eq_of_perm (hfields : (given.map Prod.fst).Nodup) (hperm : given.Perm others) :
    gather given = gather others := by
  rw [← names_map_asMember] at hfields
  have heq := Entries.sorted_eq_of_perm hfields (hperm.map asMember)
  rw [← map_gather, ← map_gather] at heq
  exact asMember_injective.list_map heq

end Gathering

/-- What a value says the errors are. -/
inductive TellsErrors : Value → List String → Prop
  | null : TellsErrors .null []
  | list (errors : List String) : TellsErrors (.strings errors) errors
  | messages {given messages : List (String × String)} (hgathered : Gathered given messages) :
      TellsErrors (.object (given.map asMember)) (messages.map line)

section Reading

variable {s : Setting} {entries : Entries} {v : Value} {errors : List String}

theorem readMessages_eq_ok_iff {kept messages : List (String × String)} :
    readMessages s (Document.Node.ofEntries entries) kept = .ok messages ↔
      ∃ given : List (String × String), entries = given.map asMember ∧ messages =
        given.foldl (fun messages entry => insertMessage entry.1 entry.2 messages) kept := by
  induction entries generalizing kept with
  | nil =>
      constructor
      · intro hread
        exact ⟨[], rfl, (Except.ok.inj hread).symm⟩
      · rintro ⟨given, hnil, rfl⟩
        rw [List.map_eq_nil_iff.mp hnil.symm]
        rfl
  | cons entry entries ih =>
      obtain ⟨field, v⟩ := entry
      constructor
      · intro hread
        obtain ⟨message, hmessage, hread⟩ := Document.bind_eq_ok_iff.mp hread
        obtain rfl := Document.text_ofValue_eq_ok_iff.mp hmessage
        obtain ⟨given, rfl, rfl⟩ := ih.mp hread
        exact ⟨(field, message) :: given, rfl, rfl⟩
      · rintro ⟨given, hgiven, rfl⟩
        obtain ⟨⟨_, message⟩, rest, rfl, hfirst, rfl⟩ := List.map_eq_cons_iff.mp hgiven.symm
        obtain ⟨rfl, rfl⟩ := Prod.mk.inj hfirst
        exact ih.mpr ⟨rest, rfl, rfl⟩

theorem errorsOfMapping_eq_ok_iff : errorsOfMapping s (.ofValue v) = .ok errors ↔
    ∃ given : List (String × String), v = .object (given.map asMember) ∧
      errors = (gather given).map line := by
  cases v with
  | object entries =>
      constructor
      · intro hread
        obtain ⟨messages, hmessages, hlines⟩ := Document.bind_eq_ok_iff.mp hread
        obtain ⟨given, rfl, rfl⟩ := readMessages_eq_ok_iff.mp hmessages
        exact ⟨given, rfl, (Except.ok.inj hlines).symm⟩
      · rintro ⟨given, hobject, rfl⟩
        obtain rfl := Value.object.inj hobject
        exact Document.bind_eq_ok_iff.mpr ⟨_, readMessages_eq_ok_iff.mpr ⟨given, rfl, rfl⟩, rfl⟩
  | number n => cases n <;> exact ⟨nofun, nofun⟩
  | _ => exact ⟨nofun, nofun⟩

/-- Whatever tells errors can be read as a whole. -/
theorem TellsErrors.exists_value (hroomy : s.Roomy 1) (htells : TellsErrors v errors) :
    ∃ whole, Document.value s (.ofValue v) = .ok whole := by
  obtain ⟨inner, hinner, _⟩ := hroomy.enter
  cases htells with
  | null => exact ⟨.null, rfl⟩
  | list =>
      have hitems : ∀ item ∈ errors.map Value.string,
          Document.freeForm inner (.ofValue item) = .ok item.arranged := by
        intro item hitem
        obtain ⟨error, _, rfl⟩ := List.mem_map.mp hitem
        rfl
      have hread := Document.freeFormItems_ofItems hitems
      exact ⟨.array _, Document.bind_eq_ok_iff.mpr
        ⟨inner, hinner, Document.bind_eq_ok_iff.mpr ⟨_, hread, rfl⟩⟩⟩
  | @messages given messages _ =>
      have hentries : ∀ e ∈ given.map asMember,
          Document.freeForm inner (.ofValue e.2) = .ok e.2.arranged := by
        intro e he
        obtain ⟨entry, _, rfl⟩ := List.mem_map.mp he
        rfl
      have hread := Document.freeFormEntries_ofEntries hentries []
      exact ⟨.object _, Document.bind_eq_ok_iff.mpr
        ⟨inner, hinner, Document.bind_eq_ok_iff.mpr ⟨_, hread, rfl⟩⟩⟩

/-- Errors are read from the values that tell them and from no others. -/
theorem errorsDecoder_eq_ok_iff (hroomy : s.Roomy 1) :
    errorsDecoder s (.ofValue v) = .ok errors ↔ TellsErrors v errors := by
  constructor
  · intro hread
    obtain ⟨whole, hwhole, hread⟩ := Document.bind_eq_ok_iff.mp hread
    rcases Document.optional_ofValue_eq_ok_iff.mp hwhole with ⟨rfl, rfl⟩ | ⟨_, kept, _, rfl⟩
    · obtain rfl := Except.ok.inj hread
      exact .null
    · dsimp only at hread
      split at hread
      · rename_i texts hlist
        obtain rfl := Except.ok.inj hread
        obtain rfl := (Document.list_text_ofValue_eq_ok_iff hroomy).mp hlist
        exact .list texts
      · split at hread
        · rename_i lines hmapping
          obtain rfl := Except.ok.inj hread
          obtain ⟨given, rfl, rfl⟩ := errorsOfMapping_eq_ok_iff.mp hmapping
          exact .messages (gathered_gather given)
        · cases hread
  · intro htells
    obtain ⟨whole, hwhole⟩ := htells.exists_value hroomy
    have hthere : v ≠ .null → Document.optional Document.value s (.ofValue v) = .ok (some whole) :=
      fun hnull => Document.optional_ofValue_eq_ok_iff.mpr (Or.inr ⟨hnull, whole, hwhole, rfl⟩)
    cases htells with
    | null => rfl
    | list =>
        refine Document.bind_eq_ok_iff.mpr ⟨_, hthere nofun, ?_⟩
        simp only [(Document.list_text_ofValue_eq_ok_iff hroomy).mpr rfl]
        rfl
    | @messages given messages hgathered =>
        have hmapping : errorsOfMapping s (.ofValue (.object (given.map asMember))) =
            .ok (messages.map line) :=
          errorsOfMapping_eq_ok_iff.mpr ⟨given, rfl, hgathered.eq_gather ▸ rfl⟩
        refine Document.bind_eq_ok_iff.mpr ⟨_, hthere nofun, ?_⟩
        -- An object is no list, so it is read as the messages it holds.
        cases hlist : Document.list Document.text s (.ofValue (.object (given.map asMember))) with
        | ok texts => exact nomatch (Document.list_text_ofValue_eq_ok_iff hroomy).mp hlist
        | error complaint =>
            simp only [hmapping]
            rfl

end Reading

def HasErrorsForm (told : Value) : Prop :=
  told = .null ∨ (∃ errors, told = .strings errors) ∨
    ∃ given : List (String × String), told = .object (given.map asMember)

/-- The errors of an object are missing, or they have one of the forms of errors. -/
def ErrorsTyped (entries : Entries) : Prop :=
  (∀ told, ("errors", told) ∉ entries) ∨ ∃ told, ("errors", told) ∈ entries ∧ HasErrorsForm told

/-- The warnings of an object are missing, or they are a list of texts. -/
def WarningsTyped (entries : Entries) : Prop :=
  (∀ told, ("warnings", told) ∉ entries) ∨ ∃ warnings, ("warnings", .strings warnings) ∈ entries

/-- An object holds what a verdict says. -/
structure WrittenIn (v : Verdict) (entries : Entries) : Prop where
  valid : ("valid", .bool v.valid) ∈ entries
  errors : (∃ told, ("errors", told) ∈ entries ∧ TellsErrors told v.errors) ∨
    (∀ told, ("errors", told) ∉ entries) ∧ v.errors = []
  warnings : ("warnings", .strings v.warnings) ∈ entries ∨
    (∀ told, ("warnings", told) ∉ entries) ∧ v.warnings = []

theorem hasErrorsForm_iff {told : Value} :
    HasErrorsForm told ↔ ∃ errors, TellsErrors told errors := by
  constructor
  · rintro (rfl | ⟨errors, rfl⟩ | ⟨given, rfl⟩)
    · exact ⟨[], .null⟩
    · exact ⟨errors, .list errors⟩
    · exact ⟨_, .messages (gathered_gather given)⟩
  · rintro ⟨errors, htells⟩
    cases htells with
    | null => exact Or.inl rfl
    | list => exact Or.inr (Or.inl ⟨errors, rfl⟩)
    | @messages given => exact Or.inr (Or.inr ⟨given, rfl⟩)

theorem tellsErrors_object_iff {given : List (String × String)} {errors : List String} :
    TellsErrors (.object (given.map asMember)) errors ↔ errors = (gather given).map line := by
  constructor
  · intro htells
    generalize hobject : Value.object (given.map asMember) = told at htells
    cases htells with
    | null => cases hobject
    | list => cases hobject
    | @messages given' messages hgathered =>
        obtain rfl := asMember_injective.list_map (Value.object.inj hobject)
        rw [hgathered.eq_gather]
  · rintro rfl
    exact .messages (gathered_gather given)

section Records

variable {s : Setting} {entries : Entries} {v : Verdict}

theorem fields_given_iff (hroomy : s.Roomy 1) :
    fields.Given s entries (v.valid, v.errors, v.warnings, ()) ↔ v.WrittenIn entries := by
  have hvalid : (Field.required "valid" Document.flag).Given s entries v.valid ↔
      ("valid", .bool v.valid) ∈ entries := by
    simp only [Document.given_required_iff, Document.flag_ofValue_eq_ok_iff, exists_eq_right]
  have herrors : (Field.withDefault "errors" [] errorsDecoder).Given s entries v.errors ↔
      (∃ told, ("errors", told) ∈ entries ∧ TellsErrors told v.errors) ∨
      (∀ told, ("errors", told) ∉ entries) ∧ v.errors = [] := by
    have hstep : (s.step (.member "errors")).Roomy 1 := hroomy
    simp only [Document.given_withDefault_iff, errorsDecoder_eq_ok_iff hstep]
  have hwarnings : (Field.withDefault "warnings" [] (Document.list Document.text)).Given s entries
      v.warnings ↔ ("warnings", .strings v.warnings) ∈ entries ∨
      (∀ told, ("warnings", told) ∉ entries) ∧ v.warnings = [] := by
    have hstep : (s.step (.member "warnings")).Roomy 1 := hroomy
    simp only [Document.given_withDefault_iff, Document.list_text_ofValue_eq_ok_iff hstep,
      exists_eq_right]
  constructor
  · intro hgiven
    obtain ⟨hv, hmore⟩ := given_cons_iff.mp hgiven
    obtain ⟨he, hmore⟩ := given_cons_iff.mp hmore
    obtain ⟨hw, _⟩ := given_cons_iff.mp hmore
    exact ⟨hvalid.mp hv, herrors.mp he, hwarnings.mp hw⟩
  · intro hwritten
    exact .cons (hvalid.mpr hwritten.valid) <| .cons (herrors.mpr hwritten.errors) <|
      .cons (hwarnings.mpr hwritten.warnings) .nil

/-- A verdict is read from the objects that hold what it says. -/
theorem decoder_eq_ok_iff (hroomy : s.Roomy 2) :
    decoder s (.ofValue (.object entries)) = .ok v ↔
      (fields.known entries).names.Nodup ∧ v.WrittenIn entries := by
  obtain ⟨inner, hinner, hwithin⟩ := hroomy.enter
  constructor
  · intro hread
    have hknown := Document.record_names_nodup (by decide) hread
    obtain ⟨inner', row, hinner', hrow, rfl⟩ :=
      (Document.record_eq_ok_iff_given (by decide) hknown).mp hread
    cases hinner.symm.trans hinner'
    exact ⟨hknown, (fields_given_iff hwithin).mp hrow⟩
  · rintro ⟨hknown, hwritten⟩
    exact (Document.record_eq_ok_iff_given (by decide) hknown).mpr
      ⟨inner, _, hinner, (fields_given_iff hwithin).mpr hwritten, rfl⟩

/-- With a truth value and warnings that can be read, the form of the errors decides. -/
theorem exists_decoded_iff (hroomy : s.Roomy 2) (hknown : (fields.known entries).names.Nodup)
    (hvalid : ∃ b, ("valid", .bool b) ∈ entries) (hwarnings : WarningsTyped entries) :
    (∃ v, decoder s (.ofValue (.object entries)) = .ok v) ↔ ErrorsTyped entries := by
  simp only [decoder_eq_ok_iff hroomy, and_iff_right hknown]
  constructor
  · rintro ⟨v, hwritten⟩
    rcases hwritten.errors with ⟨told, hmember, htells⟩ | ⟨habsent, _⟩
    · exact Or.inr ⟨told, hmember, hasErrorsForm_iff.mpr ⟨_, htells⟩⟩
    · exact Or.inl habsent
  · intro herrors
    obtain ⟨b, hb⟩ := hvalid
    have hread : ∃ errors, (∃ told, ("errors", told) ∈ entries ∧ TellsErrors told errors) ∨
        (∀ told, ("errors", told) ∉ entries) ∧ errors = [] := by
      rcases herrors with habsent | ⟨told, hmember, hform⟩
      · exact ⟨[], Or.inr ⟨habsent, rfl⟩⟩
      · obtain ⟨errors, htells⟩ := hasErrorsForm_iff.mp hform
        exact ⟨errors, Or.inl ⟨told, hmember, htells⟩⟩
    obtain ⟨errors, herrors⟩ := hread
    rcases hwarnings with habsent | ⟨warnings, hmember⟩
    · exact ⟨⟨b, errors, []⟩, hb, herrors, Or.inr ⟨habsent, rfl⟩⟩
    · exact ⟨⟨b, errors, warnings⟩, hb, herrors, Or.inl hmember⟩

/-- Every message of an object is kept once, in the byte order of the fields. -/
theorem errors_of_messages (hroomy : s.Roomy 2) {given : List (String × String)}
    (hfields : (given.map Prod.fst).Nodup)
    (hmember : ("errors", .object (given.map asMember)) ∈ entries)
    (hread : decoder s (.ofValue (.object entries)) = .ok v) :
    ∃ messages, Gathered given messages ∧ messages.Perm given ∧ v.errors = messages.map line := by
  obtain ⟨hknown, hwritten⟩ := (decoder_eq_ok_iff hroomy).mp hread
  refine ⟨gather given, gathered_gather given, gather_perm hfields, ?_⟩
  rcases hwritten.errors with ⟨told, htold, htells⟩ | ⟨habsent, _⟩
  · obtain rfl := Document.Fields.member_unique hknown (by decide) hmember htold
    exact tellsErrors_object_iff.mp htells
  · exact absurd hmember (habsent _)

/-- An object whose errors are replaced by others that tell the same is read as the same verdict. -/
theorem WrittenIn.replace {front back : Entries} {told told' : Value}
    (hwritten : v.WrittenIn (front ++ ("errors", told) :: back))
    (hknown : (fields.known (front ++ ("errors", told) :: back)).names.Nodup)
    (hsame : ∀ errors, TellsErrors told errors → TellsErrors told' errors) :
    v.WrittenIn (front ++ ("errors", told') :: back) := by
  have hmiddle : ("errors", told) ∈ front ++ ("errors", told) :: back :=
    List.mem_append_right _ List.mem_cons_self
  have hmiddle' : ("errors", told') ∈ front ++ ("errors", told') :: back :=
    List.mem_append_right _ List.mem_cons_self
  have hother : ∀ {name w}, name ≠ "errors" → ((name, w) ∈ front ++ ("errors", told) :: back ↔
      (name, w) ∈ front ++ ("errors", told') :: back) := fun hname => by simp [hname]
  refine ⟨(hother (by decide)).mp hwritten.valid, Or.inl ⟨told', hmiddle', hsame _ ?_⟩, ?_⟩
  · rcases hwritten.errors with ⟨found, hfound, htells⟩ | ⟨habsent, _⟩
    · exact Document.Fields.member_unique hknown (by decide) hmiddle hfound ▸ htells
    · exact absurd hmiddle (habsent _)
  · rcases hwritten.warnings with hmember | ⟨habsent, hnone⟩
    · exact Or.inl ((hother (by decide)).mp hmember)
    · exact Or.inr ⟨fun w hw => habsent w ((hother (by decide)).mpr hw), hnone⟩

/-- The messages of an object may stand in any order. -/
theorem decoder_of_perm (hroomy : s.Roomy 2) {front back : Entries}
    {given others : List (String × String)} (hfields : (given.map Prod.fst).Nodup)
    (hperm : given.Perm others)
    (hread : decoder s (.ofValue (.object
      (front ++ ("errors", .object (given.map asMember)) :: back))) = .ok v) :
    decoder s (.ofValue (.object
      (front ++ ("errors", .object (others.map asMember)) :: back))) = .ok v := by
  obtain ⟨hknown, hwritten⟩ := (decoder_eq_ok_iff hroomy).mp hread
  have hname : "errors" ∈ fields.names := by decide
  refine (decoder_eq_ok_iff hroomy).mpr ⟨?_, hwritten.replace hknown fun errors htells => ?_⟩
  · simpa [Document.Fields.known, Entries.names, hname] using hknown
  · rw [tellsErrors_object_iff, gather_eq_of_perm hfields hperm] at htells
    exact tellsErrors_object_iff.mpr htells

end Records

/-- A verdict is read from its own JSON. -/
theorem conveys_toJson (v : Verdict) : Document.Conveys decoder 2 v.toJson v := by
  have herrors : Document.Conveys errorsDecoder 1 (.strings v.errors) v.errors :=
    ⟨(Document.Conveys.strings 0 v.errors).exact,
      fun hroomy => (errorsDecoder_eq_ok_iff hroomy).mpr (.list v.errors)⟩
  have hwarnings : (Fields.cons (.withDefault "warnings" [] (Document.list Document.text))
      Fields.nil).Holds 1 (if v.warnings.isEmpty then [] else [("warnings", .strings v.warnings)])
      (v.warnings, ()) := by
    by_cases hnone : v.warnings = []
    · rw [hnone]
      exact .omitted rfl .nil
    · rw [if_neg (by simpa using hnone)]
      exact .member (.strings 0 v.warnings) .nil
  have hholds : fields.Holds 1 _ (v.valid, v.errors, v.warnings, ()) :=
    .member (.flag 1 v.valid) (.member herrors hwarnings)
  exact hholds.conveys (by decide) _ _

/-- An object with a truth value and warnings that can be read is a verdict exactly if its errors
are missing, null, a list of texts or an object of texts.  The messages of an object are kept once
each, in the byte order of their fields and in whatever order they stand.  What is read is read
again from its own JSON, be it taken as a value or as a text. -/
theorem read_normalised {s : Setting} (hroomy : s.Roomy 2) (entries : Entries) :
    let read := fun entries : Entries => decoder s (.ofValue (.object entries))
    (∀ v, read entries = .ok v ↔ (fields.known entries).names.Nodup ∧ v.WrittenIn entries) ∧
    ((fields.known entries).names.Nodup → (∃ b, ("valid", .bool b) ∈ entries) →
      WarningsTyped entries → ((∃ v, read entries = .ok v) ↔ ErrorsTyped entries)) ∧
    (∀ given : List (String × String), (given.map Prod.fst).Nodup →
      ("errors", .object (given.map asMember)) ∈ entries → ∀ v, read entries = .ok v →
        ∃ messages, Gathered given messages ∧ messages.Perm given ∧
          v.errors = messages.map line) ∧
    (∀ front back, ∀ given others : List (String × String), (given.map Prod.fst).Nodup →
      given.Perm others → entries = front ++ ("errors", .object (given.map asMember)) :: back →
        ∀ v, (read entries = .ok v ↔
          read (front ++ ("errors", .object (others.map asMember)) :: back) = .ok v)) ∧
    ∀ v, read entries = .ok v → decoder s (.ofValue v.toJson) = .ok v ∧
      Json.decode decoder (Text.symbolsOfText v.toJson.text) = .ok v := by
  intro read
  refine ⟨fun v => decoder_eq_ok_iff hroomy, exists_decoded_iff hroomy,
    fun given hfields hmember v => errors_of_messages hroomy hfields hmember, ?_, fun v _ => ?_⟩
  · rintro front back given others hfields hperm rfl v
    have hothers : (others.map Prod.fst).Nodup := (hperm.map Prod.fst).nodup_iff.mp hfields
    exact ⟨decoder_of_perm hroomy hfields hperm, decoder_of_perm hroomy hothers hperm.symm⟩
  · exact ⟨v.conveys_toJson.decodes hroomy, v.conveys_toJson.decode_text (by decide)⟩

def messagesOfTwo : List (String × String) :=
  [("ssh_sources", "required"), ("server_ip", "invalid ipv4")]

/-- They are read alike in either order, and the field that comes first is named first. -/
theorem read_normalised_messagesOfTwo :
    let s : Setting := ⟨.json, [], some Json.maxDepth, []⟩
    let entries := fun given : List (String × String) =>
      [("valid", .bool false), ("errors", .object (given.map asMember)), ("score", .null)]
    let v : Verdict := ⟨false, ["server_ip: invalid ipv4", "ssh_sources: required"], []⟩
    s.Roomy 2 ∧ (messagesOfTwo.map Prod.fst).Nodup ∧
      decoder s (.ofValue (.object (entries messagesOfTwo))) = .ok v ∧
      decoder s (.ofValue (.object (entries messagesOfTwo.reverse))) = .ok v ∧
      decoder s (.ofValue v.toJson) = .ok v := by
  intro s entries v
  have hroomy : s.Roomy 2 := by simp [s, Setting.Roomy, Json.maxDepth]
  have hfields : (messagesOfTwo.map Prod.fst).Nodup := by decide
  have hread : decoder s (.ofValue (.object (entries messagesOfTwo))) = .ok v := rfl
  have hback : messagesOfTwo.Perm messagesOfTwo.reverse := messagesOfTwo.reverse_perm.symm
  obtain ⟨_, _, _, hreorder, hagain⟩ := read_normalised hroomy (entries messagesOfTwo)
  exact ⟨hroomy, hfields, hread, (hreorder [("valid", .bool false)] [("score", .null)] _ _ hfields
    hback rfl v).mp hread, (hagain v hread).1⟩

end Verdict

end PolicyRollout
