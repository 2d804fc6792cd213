import Mathlib.Data.List.Range
import PolicyRollout.Cli.Deploy
import PolicyRollout.Proofs.Deployment.Occurrences
/-!
How conversations go.  The moments of a conversation are the points it passes through, and a
transcript has texts beside the events it records.  A deployment is told to the world occurrence
by occurrence: events are put out, calls are sent if they can be written, and nothing else happens.
-/
namespace PolicyRollout.Cli

/-- The text of what is put out, if it is no event. -/
def Output.text? : Output → Option String
  | .text content => some content
  | .event _ => none

/-- The texts a conversation has put out, apart from the events it has recorded. -/
def Transcript.texts (t : Transcript) : List String :=
  t.output.filterMap Output.text?

/-- The texts that have been put out so far. -/
def Progress.texts (p : Progress) : List String :=
  p.output.reverse.filterMap Output.text?

namespace Dialogue

/-- The points a conversation passes through, from where it has come to its end. -/
def momentsFrom (w : World) : Dialogue → Progress → List Progress
  | .say text next, p => p :: momentsFrom w next (p.put (.text text))
  | .record event next, p => p :: momentsFrom w next (p.put (.event event))
  | .readFile path next, p => p :: momentsFrom w (next (w.read path)) p
  | .askRunId next, p => p :: momentsFrom w (next w.runId) p
  | .askTime next, p =>
    p :: momentsFrom w (next (w.clock p.readings)) { p with readings := p.readings + 1 }
  | .send _ request next, p => p :: momentsFrom w next (p.send request)
  | .await next, p =>
    p :: momentsFrom w (next (p.next w) (p.exchange w (p.next w))) (p.answered (p.next w))
  | .stop _, p => [p]

/-- The points a conversation passes through. -/
def moments (w : World) (d : Dialogue) : List Progress :=
  d.momentsFrom w .start

end Dialogue

end PolicyRollout.Cli

namespace PolicyRollout.Http.Client

/-- The request for what an occurrence calls. -/
def requestOf (c : Client) (o : Occurrence) : Option Request :=
  o.call?.bind c.request?

/-- The requests for the calls of a history, in their order. -/
def requests (c : Client) (h : History) : List Request :=
  h.reverse.filterMap c.requestOf

theorem requests_append (c : Client) (later earlier : History) :
    c.requests (later ++ earlier) = c.requests earlier ++ c.requests later := by
  simp [requests]

end PolicyRollout.Http.Client

namespace PolicyRollout.Cli.DeployJob

variable (job : DeployJob)

/-- How far a conversation has come when an occurrence has been told. -/
def hear (p : Progress) : Occurrence → Progress
  | .noted event => p.put (.event event)
  | .called _ _ call => match job.client.request? call with
    | some request => p.send request
    | none => p
  | .answered .. => p

section Hear

variable (p : Progress)

theorem hear_cases (o : Occurrence) :
    (∃ event, job.client.requestOf o = none ∧ job.hear p o = p.put (.event event)) ∨
    (∃ request, job.client.requestOf o = some request ∧ job.hear p o = p.send request) ∨
    (job.client.requestOf o = none ∧ job.hear p o = p) := by
  cases o with
  | noted event => exact Or.inl ⟨event, rfl, rfl⟩
  | answered serial entity outturn => exact Or.inr (Or.inr ⟨rfl, rfl⟩)
  | called serial entity call =>
      right
      cases hrequest : job.client.request? call with
      | some request =>
          left
          exact ⟨request, hrequest, by simp [hear, hrequest]⟩
      | none =>
          right
          exact ⟨hrequest, by simp [hear, hrequest]⟩

theorem foldl_hear (os : List Occurrence) :
    (os.foldl job.hear p).sent = p.sent ++ os.filterMap job.client.requestOf ∧
    (os.foldl job.hear p).waiting =
      p.waiting ++ List.range' p.sent.length (os.filterMap job.client.requestOf).length ∧
    (os.foldl job.hear p).texts = p.texts ∧
    (os.foldl job.hear p).readings = p.readings := by
  induction os generalizing p with
  | nil => simp
  | cons o rest ih =>
      obtain ⟨hsent, hwaiting, htexts, hreadings⟩ := ih (job.hear p o)
      rw [List.foldl_cons, hsent, hwaiting, htexts, hreadings, List.filterMap_cons]
      rcases job.hear_cases p o with
        ⟨event, hnone, hhear⟩ | ⟨request, hsome, hhear⟩ | ⟨hnone, hhear⟩
      · rw [hnone, hhear]
        simp [Progress.put, Progress.texts, Output.text?]
      · rw [hsome, hhear]
        simp [Progress.send, Progress.texts, List.range'_succ]
      · rw [hnone, hhear]
        simp

theorem waiting_foldl_hear_le (os : List Occurrence) :
    p.waiting.length ≤ (os.foldl job.hear p).waiting.length := by
  rw [(job.foldl_hear p os).2.1, List.length_append]
  exact Nat.le_add_right ..

end Hear

variable (w : World) (os : List Occurrence) (next : Dialogue) (p : Progress)

/-- To tell what has happened is to hear all of it and go on. -/
theorem converseFrom_tell :
    (os.foldr job.tell next).converseFrom w p = next.converseFrom w (os.foldl job.hear p) := by
  induction os generalizing p with
  | nil => rfl
  | cons o rest ih =>
      rw [List.foldr_cons, List.foldl_cons, ← ih]
      cases o with
      | noted event => rfl
      | answered serial entity outturn => rfl
      | called serial entity call => cases hrequest : job.client.request? call <;>
          simp [tell, hear, hrequest, Dialogue.converseFrom]

/-- While it is told what has happened no more requests wait than when all has been told. -/
theorem waiting_le_of_tell {limit : Nat}
    (htold : (os.foldl job.hear p).waiting.length ≤ limit)
    (hnext : ∀ m ∈ next.momentsFrom w (os.foldl job.hear p), m.waiting.length ≤ limit) :
    ∀ m ∈ (os.foldr job.tell next).momentsFrom w p, m.waiting.length ≤ limit := by
  induction os generalizing p with
  | nil => exact hnext
  | cons o rest ih =>
      have hrest := ih (job.hear p o) htold hnext
      have hp := Nat.le_trans (job.waiting_foldl_hear_le p (o :: rest)) htold
      rw [List.foldr_cons]
      cases o with
      | noted event => exact List.forall_mem_cons.mpr ⟨hp, hrest⟩
      | answered serial entity outturn => exact hrest
      | called serial entity call =>
          cases hrequest : job.client.request? call with
          | some request =>
              simp only [tell, hear, hrequest] at hrest ⊢
              exact List.forall_mem_cons.mpr ⟨hp, hrest⟩
          | none =>
              simp only [tell, hear, hrequest] at hrest ⊢
              exact hrest

end PolicyRollout.Cli.DeployJob
