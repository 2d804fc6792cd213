import PolicyRollout.Proofs.Cli.Conversation
import PolicyRollout.Proofs.Deployment.Stamps
/-!
Two conversations side by side.  Dialogues are alike when they put out the same, but for the stamp
of the run, and send the same requests, but for the header that identifies the program, whatever
they are told.  Alike dialogues that are told the same cannot be told apart.
-/
namespace PolicyRollout

/-- The request without what identifies the program. -/
def Http.Request.anonymous (r : Http.Request) : Http.Request :=
  { r with authorization := "" }

/-- Of two requests that are the same but for what identifies the program, either both can be
written or none. -/
theorem Http.Request.cases_of_anonymous {q? q?' : Option Http.Request}
    (hsame : q?.map anonymous = q?'.map anonymous) :
    (q? = none ∧ q?' = none) ∨
      ∃ q q', q? = some q ∧ q?' = some q' ∧ q.anonymous = q'.anonymous := by
  cases q? with
  | none => exact Or.inl ⟨rfl, Option.map_eq_none_iff.mp hsame.symm⟩
  | some q =>
      obtain ⟨q', hq', hanonymous⟩ := Option.map_eq_some_iff.mp hsame.symm
      exact Or.inr ⟨q, q', rfl, hq', hanonymous.symm⟩

namespace Cli

/-- What a program is told, apart from the id of the run and the time. -/
inductive Heard where
  | content (content : Except Files.ReadFault (List UInt8))
  | answer (which : Nat) (exchange : Http.Exchange)
deriving DecidableEq

namespace Dialogue

/-- What a program is told in a conversation, from where it has come to its end. -/
def heardFrom (w : World) : Dialogue → Progress → List Heard
  | .say text next, p => heardFrom w next (p.put (.text text))
  | .record event next, p => heardFrom w next (p.put (.event event))
  | .readFile path next, p => .content (w.read path) :: heardFrom w (next (w.read path)) p
  | .askRunId next, p => heardFrom w (next w.runId) p
  | .askTime next, p =>
    heardFrom w (next (w.clock p.readings)) { p with readings := p.readings + 1 }
  | .send _ request next, p => heardFrom w next (p.send request)
  | .await next, p =>
    .answer (p.next w) (p.exchange w (p.next w)) ::
      heardFrom w (next (p.next w) (p.exchange w (p.next w))) (p.answered (p.next w))
  | .stop _, _ => []

/-- What a program is told in a conversation. -/
def heard (w : World) (d : Dialogue) : List Heard :=
  d.heardFrom w .start

end Dialogue

/-- The stamp of a deployment in a world: the time is asked for when it starts and when it
finishes. -/
def World.stamp (w : World) : RunStamp :=
  ⟨w.runId, w.clock 0, w.clock 1⟩

/-- What is put out, apart from the stamp of the run. -/
inductive Piece where
  | text (text : String)
  | event (event : Event)
  | report (format : ReportFormat) (report : Report)

/-- What is put out, with the stamp of a run. -/
def Piece.output (s : RunStamp) : Piece → Output
  | .text content => .text content
  | .event recorded => .event (recorded.restamp s.runId)
  | .report format finished => .text (format.render (finished.restamp s))

/-- Two conversations cannot be told apart, but for their stamps and for what identifies the
programs to the platform. -/
structure Indistinct (s s' : RunStamp) (t t' : Transcript) : Prop where
  requests : t.requests.map Http.Request.anonymous = t'.requests.map Http.Request.anonymous
  output : ∃ pieces : List Piece,
    t.output = pieces.map (Piece.output s) ∧ t'.output = pieces.map (Piece.output s')
  complaint : t.ending.complaint = t'.ending.complaint
  status : t.ending.status = t'.ending.status

/-- Two conversations have come equally far, and could not be told apart on the way. -/
structure Abreast (w w' : World) (n : Nat) (p p' : Progress) : Prop where
  readings : p.readings = n
  readings' : p'.readings = n
  sent : p.sent.map Http.Request.anonymous = p'.sent.map Http.Request.anonymous
  waiting : p.waiting = p'.waiting
  output : ∃ pieces : List Piece,
    p.output = pieces.map (Piece.output w.stamp) ∧ p'.output = pieces.map (Piece.output w'.stamp)

namespace Abreast

variable {w w' : World} {n : Nat} {p p' : Progress}

theorem start : Abreast w w' 0 .start .start :=
  ⟨rfl, rfl, rfl, rfl, [], rfl, rfl⟩

theorem put (habreast : Abreast w w' n p p') (piece : Piece) :
    Abreast w w' n (p.put (piece.output w.stamp)) (p'.put (piece.output w'.stamp)) := by
  obtain ⟨pieces, houtput, houtput'⟩ := habreast.output
  refine ⟨habreast.readings, habreast.readings', habreast.sent, habreast.waiting,
    piece :: pieces, ?_, ?_⟩
  · exact congrArg (_ :: ·) houtput
  · exact congrArg (_ :: ·) houtput'

theorem send (habreast : Abreast w w' n p p') {q q' : Http.Request}
    (hsame : q.anonymous = q'.anonymous) : Abreast w w' n (p.send q) (p'.send q') := by
  have hlength : p.sent.length = p'.sent.length := by
    simpa using congrArg List.length habreast.sent
  refine ⟨habreast.readings, habreast.readings', ?_, ?_, habreast.output⟩
  · simp only [Progress.send, List.map_append, habreast.sent, List.map_cons, hsame, List.map_nil]
  · simp only [Progress.send, habreast.waiting, hlength]

theorem answered (habreast : Abreast w w' n p p') (which : Nat) :
    Abreast w w' n (p.answered which) (p'.answered which) :=
  ⟨habreast.readings, habreast.readings', habreast.sent,
    congrArg (fun waiting => waiting.eraseIdx which) habreast.waiting, habreast.output⟩

theorem read (habreast : Abreast w w' n p p') :
    Abreast w w' (n + 1) { p with readings := n + 1 } { p' with readings := n + 1 } :=
  ⟨rfl, rfl, habreast.sent, habreast.waiting, habreast.output⟩

end Abreast

/-- Two worlds hold the same files, and answer the same requests alike whatever identifies the
program. -/
structure Impartial (w w' : World) : Prop where
  read : ∀ path, w.read path = w'.read path
  exchange : ∀ sent sent' serial,
    sent.map Http.Request.anonymous = sent'.map Http.Request.anonymous →
    w.exchange sent serial = w'.exchange sent' serial
  arrival : ∀ sent sent' waiting,
    sent.map Http.Request.anonymous = sent'.map Http.Request.anonymous →
    w.arrival sent waiting = w'.arrival sent' waiting

namespace Impartial

variable {w w' : World} {n : Nat} {p p' : Progress}

theorem next_eq (himpartial : Impartial w w') (habreast : Abreast w w' n p p') :
    p.next w = p'.next w' := by
  simp only [Progress.next, habreast.waiting, himpartial.arrival _ _ p'.waiting habreast.sent]

theorem exchange_eq (himpartial : Impartial w w') (habreast : Abreast w w' n p p') (which : Nat) :
    p.exchange w which = p'.exchange w' which := by
  rw [Progress.exchange, Progress.exchange, habreast.waiting]
  cases p'.waiting[which]? with
  | none => rfl
  | some serial => exact himpartial.exchange _ _ serial habreast.sent

end Impartial

/-- Dialogues that are alike for whoever tells them the same, when the time has been asked for as
often as this. -/
inductive Alike (w w' : World) : (readings : Nat) → Dialogue → Dialogue → Prop
  | say {n : Nat} {d d' : Dialogue} (text : String) (hnext : Alike w w' n d d') :
      Alike w w' n (.say text d) (.say text d')
  | report {n : Nat} {d d' : Dialogue} (format : ReportFormat) (report : Report)
      (hnext : Alike w w' n d d') :
      Alike w w' n (.say (format.render (report.restamp w.stamp)) d)
        (.say (format.render (report.restamp w'.stamp)) d')
  | record {n : Nat} {d d' : Dialogue} (event : Event) (hnext : Alike w w' n d d') :
      Alike w w' n (.record (event.restamp w.runId) d) (.record (event.restamp w'.runId) d')
  | readFile {n : Nat} {next next' : Except Files.ReadFault (List UInt8) → Dialogue}
      (path : String) (hnext : ∀ content, Alike w w' n (next content) (next' content)) :
      Alike w w' n (.readFile path next) (.readFile path next')
  | askRunId {n : Nat} {next next' : String → Dialogue}
      (hnext : Alike w w' n (next w.runId) (next' w'.runId)) :
      Alike w w' n (.askRunId next) (.askRunId next')
  | askTime {n : Nat} {next next' : String → Dialogue}
      (hnext : Alike w w' (n + 1) (next (w.clock n)) (next' (w'.clock n))) :
      Alike w w' n (.askTime next) (.askTime next')
  | send {n : Nat} {q q' : Http.Request} {d d' : Dialogue} (timeout : Nat)
      (hsame : q.anonymous = q'.anonymous) (hnext : Alike w w' n d d') :
      Alike w w' n (.send timeout q d) (.send timeout q' d')
  | await {n : Nat} {next next' : Nat → Http.Exchange → Dialogue}
      (hnext : ∀ which exchange, Alike w w' n (next which exchange) (next' which exchange)) :
      Alike w w' n (.await next) (.await next')
  | stop {n : Nat} {ending ending' : Ending} (hcomplaint : ending.complaint = ending'.complaint)
      (hstatus : ending.status = ending'.status) : Alike w w' n (.stop ending) (.stop ending')

namespace Alike

variable {w w' : World} {n : Nat} {d d' : Dialogue}

/-- Alike dialogues that have come equally far and are told the same end alike. -/
theorem indistinct_from (halike : Alike w w' n d d') {p p' : Progress}
    (habreast : Abreast w w' n p p') (hheard : d.heardFrom w p = d'.heardFrom w' p') :
    Indistinct w.stamp w'.stamp (d.converseFrom w p) (d'.converseFrom w' p') := by
  induction halike generalizing p p' with
  | say text _ ih => exact ih (habreast.put (.text text)) hheard
  | report format report _ ih => exact ih (habreast.put (.report format report)) hheard
  | record event _ ih => exact ih (habreast.put (.event event)) hheard
  | readFile path _ ih =>
      obtain ⟨hcontent, hrest⟩ := List.cons.inj hheard
      have hsame := Heard.content.inj hcontent
      rw [Dialogue.converseFrom, Dialogue.converseFrom, ← hsame]
      exact ih _ habreast (hsame ▸ hrest)
  | askRunId _ ih => exact ih habreast hheard
  | askTime _ ih =>
      rw [Dialogue.heardFrom, Dialogue.heardFrom, habreast.readings, habreast.readings'] at hheard
      rw [Dialogue.converseFrom, Dialogue.converseFrom, habreast.readings, habreast.readings']
      exact ih habreast.read hheard
  | send timeout hsame _ ih => exact ih (habreast.send hsame) hheard
  | await _ ih =>
      obtain ⟨hanswer, hrest⟩ := List.cons.inj hheard
      obtain ⟨hwhich, hexchange⟩ := Heard.answer.inj hanswer
      rw [← hexchange, ← hwhich] at hrest
      simp only [Dialogue.converseFrom]
      rw [← hexchange, ← hwhich]
      exact ih _ _ (habreast.answered _) hrest
  | stop hcomplaint hstatus =>
      obtain ⟨pieces, houtput, houtput'⟩ := habreast.output
      refine ⟨habreast.sent, ⟨pieces.reverse, ?_, ?_⟩, hcomplaint, hstatus⟩
      · rw [List.map_reverse, ← houtput]
        rfl
      · rw [List.map_reverse, ← houtput']
        rfl

/-- Alike dialogues are told the same by worlds that do not look at what identifies the program. -/
theorem heardFrom_eq (halike : Alike w w' n d d') (himpartial : Impartial w w') {p p' : Progress}
    (habreast : Abreast w w' n p p') : d.heardFrom w p = d'.heardFrom w' p' := by
  induction halike generalizing p p' with
  | say text _ ih => exact ih (habreast.put (.text text))
  | report format report _ ih => exact ih (habreast.put (.report format report))
  | record event _ ih => exact ih (habreast.put (.event event))
  | readFile path _ ih =>
      rw [Dialogue.heardFrom, Dialogue.heardFrom, ← himpartial.read path]
      exact congrArg _ (ih _ habreast)
  | askRunId _ ih => exact ih habreast
  | askTime _ ih =>
      rw [Dialogue.heardFrom, Dialogue.heardFrom, habreast.readings, habreast.readings']
      exact ih habreast.read
  | send timeout hsame _ ih => exact ih (habreast.send hsame)
  | await _ ih =>
      rw [Dialogue.heardFrom, Dialogue.heardFrom, ← himpartial.next_eq habreast,
        ← himpartial.exchange_eq habreast]
      exact congrArg _ (ih _ _ (habreast.answered _))
  | stop _ _ => rfl

theorem indistinct (halike : Alike w w' 0 d d') (hheard : d.heard w = d'.heard w') :
    Indistinct w.stamp w'.stamp (d.converse w) (d'.converse w') :=
  halike.indistinct_from .start hheard

theorem recordAll {events : List Event} (hevents : ∀ event ∈ events, event.Unstamped)
    (hnext : Alike w w' n d d') : Alike w w' n (.recordAll events d) (.recordAll events d') := by
  induction events with
  | nil => exact hnext
  | cons event rest ih =>
      obtain ⟨hevent, hrest⟩ := List.forall_mem_cons.mp hevents
      have hrecord := Alike.record event (ih hrest)
      rwa [hevent, hevent] at hrecord

/-- Requests that can both be written or not are asked alike. -/
theorem ask (timeout : Nat) {q? q?' : Option Http.Request}
    (hsame : q?.map Http.Request.anonymous = q?'.map Http.Request.anonymous)
    {next next' : Http.Exchange → Dialogue}
    (hnext : ∀ exchange, Alike w w' n (next exchange) (next' exchange)) :
    Alike w w' n (.ask timeout q? next) (.ask timeout q?' next') := by
  rcases Http.Request.cases_of_anonymous hsame with ⟨rfl, rfl⟩ | ⟨q, q', rfl, rfl, hanonymous⟩
  · exact hnext .unanswered
  · exact .send timeout hanonymous (.await fun _ exchange => hnext exchange)

end Alike

end Cli

end PolicyRollout
