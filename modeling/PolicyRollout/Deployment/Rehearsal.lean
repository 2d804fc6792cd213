import PolicyRollout.Deployment.Timeline
/-!
Rehearsals.  A script says how long the platform takes for each call and what
it answers, by the host address the call is about.  What the script does not
mention is answered at once and well: all templates are published, all
variables are good, and every instance has the same number of rules.
-/
namespace PolicyRollout

open Document (Decoder)
open Json (Value)

/-- What a script says about a call. -/
structure Cue where
  delay : Nat
  /-- The call fails. -/
  error : Option PlatformError
  /-- The body of the answer. -/
  body : Option Value

structure Script where
  /-- The number of rules of an instance. -/
  rules : Nat
  listing : Option Cue
  validations : List (String × Cue)
  instantiations : List (String × Cue)

namespace Script

def cueFor (ip : String) (cues : List (String × Cue)) : Option Cue :=
  (cues.find? (·.1 = ip)).map (·.2)

def cue? (s : Script) : Call → Option Cue
  | .list .. => s.listing
  | .validate _ vars => cueFor vars.ip s.validations
  | .instantiate _ vars .. => cueFor vars.ip s.instantiations

/-- The body of an answer as the value it stands for. -/
def decodeBody {α : Type} (decoder : Decoder α) (body : Value) : Except PlatformError α :=
  match Document.decodeValue decoder body with
  | .ok v => .ok v
  | .error c => .error (.decode (c.message .values))

/-- What a cue says, or else the usual answer. -/
def answer {α : Type} (decoder : Decoder α) (usual : α) : Option Cue → Except PlatformError α
  | none => .ok usual
  | some cue => match cue.error, cue.body with
    | some e, _ => .error e
    | none, some body => decodeBody decoder body
    | none, none => .ok usual

/-- The templates of all kinds of tiers, by their ids only. -/
def publishedTemplates : List TemplateDescriptor :=
  TierKind.all.map fun kind => .ofId kind.defaultTemplate

/-- The usual answer to an instantiation. -/
def usualCreation (s : Script) (dryRun : Bool) : Creation :=
  let rules := List.replicate s.rules (Value.object [])
  if dryRun then ⟨none, some rules, [("dry_run", .bool true)]⟩ else .ofRules rules

/-- The platform of a script; it records nothing of its own. -/
def platform (s : Script) : Platform := fun _ _ call =>
  match call with
  | .list category tags =>
    ⟨answer (Document.list TemplateDescriptor.decoder) publishedTemplates
      (s.cue? (.list category tags)), []⟩
  | .validate id vars =>
    ⟨answer Verdict.decoder .accepted (s.cue? (.validate id vars)), []⟩
  | .instantiate id vars switch dryRun =>
    ⟨answer Creation.decoder (s.usualCreation dryRun)
      (s.cue? (.instantiate id vars switch dryRun)), []⟩

/-- The time the platform of a script takes. -/
def latency (s : Script) : Latency := fun _ call =>
  match s.cue? call with
  | some cue => cue.delay
  | none => 0

end Script

end PolicyRollout
