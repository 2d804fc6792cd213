import PolicyRollout.Proofs.Cli.Conversation
import PolicyRollout.Proofs.Cli.Waiting
import PolicyRollout.Proofs.Deployment.FinishTime
import PolicyRollout.Proofs.Http.Destinations
/-!
How a deployment is carried out.  At every point of the conversation the requests that have been
sent are those for the calls that the deployment has made, and those that wait are those for the
calls it waits for.  An answer that arrives is taken for the call it answers, whichever that is, so
what is carried out is the deployment with a platform that gives these answers.
-/
namespace PolicyRollout

open Http (Client Exchange)

namespace Http.Client

/-- Calls that can be written are all sent. -/
theorem length_requests {c : Client} (hsends : c.sends = true) (h : History) :
    (c.requests h).length = h.calledSerials.length := by
  rw [requests, History.calledSerials, List.length_filterMap_eq_countP,
    List.length_filterMap_eq_countP]
  apply List.countP_congr
  intro o _
  cases o with
  | called serial entity call =>
      change (c.request? call).isSome = true ↔ true = true
      rw [isSome_request?, hsends]
  | _ => exact Iff.rfl

theorem requests_eq_nil {c : Client} (hsends : c.sends = false) (h : History) :
    c.requests h = [] := by
  apply List.filterMap_eq_nil_iff.mpr
  intro o _
  cases o with
  | called serial entity call => exact request?_eq_none hsends call
  | _ => rfl

/-- Platforms behind a client agree where the requests come to the same. -/
theorem platform_agreesAt (c : Client) {exchanges exchanges' : Nat → Exchange} {serial : Nat}
    (heq : exchanges serial = exchanges' serial) :
    (c.platform exchanges).AgreesAt (c.platform exchanges') serial := by
  intro history call
  exact congrArg (fun exchange => c.answer exchange call) heq

end Http.Client

namespace Rollout

theorem start_answeredSerials (options : DeploymentOptions) (stamp : RunStamp)
    (topology : Topology) :
    (Rollout.start options stamp topology []).history.answeredSerials = [] := by
  obtain ⟨events, hhistory⟩ := start_history options stamp topology
  rw [hhistory, History.answeredSerials_append, History.answeredSerials_notes, List.nil_append]
  cases options.verifyTemplates <;> rfl

end Rollout

/-- The requests of some calls have come to what the world makes of them, each when some requests
had been sent, it among them. -/
def Cli.World.Answers (w : World) (requests : List Http.Request) (serials : List Nat)
    (exchanges : Nat → Exchange) : Prop :=
  ∀ serial ∈ serials, ∃ n, serial < n ∧ n ≤ requests.length ∧
    exchanges serial = w.exchange (requests.take n) serial

/-- More requests and one more answer, which the world gives when these have been sent. -/
theorem Cli.World.Answers.extend {w : World} {requests : List Http.Request} {serials : List Nat}
    {exchanges exchanges' : Nat → Exchange} (hanswers : w.Answers requests serials exchanges)
    (hold : ∀ serial ∈ serials, exchanges' serial = exchanges serial) {answered : Option Nat}
    (hnew : ∀ serial ∈ answered, serial < requests.length ∧
      exchanges' serial = w.exchange requests serial) (added : List Http.Request) :
    w.Answers (requests ++ added) (answered.toList ++ serials) exchanges' := by
  intro serial hserial
  rcases List.mem_append.mp hserial with hlast | hbefore
  · obtain ⟨hlt, heq⟩ := hnew serial (Option.mem_toList.mp hlast)
    refine ⟨requests.length, hlt, by simp, ?_⟩
    rw [List.take_left, heq]
  · obtain ⟨n, hlt, hle, heq⟩ := hanswers serial hbefore
    refine ⟨n, hlt, by simp; omega, ?_⟩
    rw [List.take_append_of_le_length hle, hold serial hbefore, heq]

namespace Cli.DeployJob

/-- The answers, with the one that is brought to an entity that moves. -/
def answersWith (exchange : Exchange) (index : Nat) (r : Rollout) (exchanges : Nat → Exchange) :
    Nat → Exchange :=
  fun serial => if r.consults index = some serial then exchange else exchanges serial

/-- A deployment is being carried out: the state it has come to with some answers, and how far the
conversation has come. -/
structure Carried (job : DeployJob) (w : World) (options : DeploymentOptions) (stamp : RunStamp)
    (t : Topology) (exchanges : Nat → Exchange) (r : Rollout) (p : Progress) : Prop where
  run : ∃ schedule, r =
    (Rollout.start options stamp t []).run (job.client.platform exchanges) schedule
  sent : p.sent = job.client.requests r.history
  waiting : p.waiting = if job.client.sends then r.history.unanswered else []
  silent : p.texts = []
  readings : p.readings = 1
  answers : job.client.sends = true → w.Answers p.sent r.history.answeredSerials exchanges

variable {job : DeployJob} {w : World} {options : DeploymentOptions} {stamp : RunStamp}
  {t : Topology} {exchanges : Nat → Exchange} {r : Rollout} {p : Progress}

namespace Carried

variable (hcarried : job.Carried w options stamp t exchanges r p)

include hcarried

theorem course : Rollout.Course (job.client.platform exchanges) options stamp t r := by
  obtain ⟨schedule, rfl⟩ := hcarried.run
  exact Rollout.run_course ..

theorem waiting_le : p.waiting.length ≤ options.window := by
  rw [hcarried.waiting]
  split
  · exact hcarried.course.unanswered_length_le
  · exact Nat.zero_le _

theorem length_sent (hsends : job.client.sends = true) : p.sent.length = r.calls := by
  rw [hcarried.sent, Client.length_requests hsends, hcarried.course.tally.1.called,
    List.length_range]

theorem answersWith_eq {exchange : Exchange} {index serial : Nat}
    (hserial : serial ∈ r.history.answeredSerials) :
    answersWith exchange index r exchanges serial = exchanges serial := by
  apply if_neg
  intro hconsults
  have hunanswered := hcarried.course.consults_mem_unanswered hconsults
  exact (History.mem_unanswered.mp hunanswered).2 hserial

/-- A move with the answer that it brings is one more move of the deployment. -/
theorem run_move (exchange : Exchange) (index : Nat) :
    ∃ schedule, job.move exchange index r = (Rollout.start options stamp t []).run
      (job.client.platform (answersWith exchange index r exchanges)) schedule := by
  have hold : ∀ serial ∈ r.history.answeredSerials,
      answersWith exchange index r exchanges serial = exchanges serial :=
    fun serial => hcarried.answersWith_eq
  obtain ⟨schedule, hrun⟩ := hcarried.run
  have hsame := Rollout.run_congr schedule fun serial hserial =>
    job.client.platform_agreesAt (hold serial (hrun ▸ hserial)).symm
  refine ⟨schedule ++ [index], ?_⟩
  rw [Rollout.run_append, ← hsame, ← hrun]
  apply Rollout.move_congr
  intro serial hserial
  exact job.client.platform_agreesAt (if_pos hserial).symm

/-- An entity moves, and what has happened is told. -/
theorem move {exchange : Exchange} {index : Nat} {p₁ : Progress} (hsent : p₁.sent = p.sent)
    (hwaiting : p₁.waiting = if job.client.sends then
      r.history.unanswered.filter fun serial => serial ∉ r.consults index else [])
    (hsilent : p₁.texts = []) (hreadings : p₁.readings = 1)
    (hexchange : job.client.sends = true → ∀ serial ∈ r.consults index,
      exchange = w.exchange p.sent serial) :
    ∃ exchanges', job.Carried w options stamp t exchanges' (job.move exchange index r)
      ((happened r (job.move exchange index r)).foldl job.hear p₁) := by
  have hcourse := hcarried.course
  obtain ⟨added, made, hhistory, hcalls, hcalled, hanswered⟩ :=
    hcourse.move_adds (job.client.platform fun _ => exchange) index
  have hearlier : ∀ serial ∈ r.consults index, serial ∈ r.history.unanswered :=
    fun serial hserial => hcourse.consults_mem_unanswered hserial
  obtain ⟨hnumbered, hunanswered⟩ := hcourse.tally.1.append hcalled hanswered
    fun serial hserial => hcourse.tally.1.lt_of_mem_unanswered (hearlier serial hserial)
  obtain ⟨hsent', hwaiting', htexts', hreadings'⟩ := job.foldl_hear p₁ added.reverse
  have hhappened : happened r (job.move exchange index r) = added.reverse := happened_eq hhistory
  rw [hhappened]
  refine ⟨answersWith exchange index r exchanges, hcarried.run_move exchange index, ?_, ?_,
    htexts'.trans hsilent, hreadings'.trans hreadings, ?_⟩
  · change _ = job.client.requests (Rollout.move _ index r).history
    rw [hsent', hsent, hcarried.sent, hhistory, Client.requests_append]
    rfl
  · rw [hwaiting', hwaiting, hsent]
    change _ = if job.client.sends then History.unanswered (Rollout.move _ index r).history else []
    rw [hhistory]
    cases hsends : job.client.sends with
    | true =>
        have hlength : (List.filterMap job.client.requestOf added.reverse).length = made := by
          calc (List.filterMap job.client.requestOf added.reverse).length
              = added.calledSerials.length := Client.length_requests hsends added
            _ = made := by rw [hcalled, List.length_range']
        simp only [if_true, hunanswered, hcarried.length_sent hsends, hlength]
    | false =>
        have hnone : List.filterMap job.client.requestOf added.reverse = [] :=
          Client.requests_eq_nil hsends added
        simp only [hnone, Bool.false_eq_true, if_false]
        rfl
  · intro hsends
    change w.Answers _ (Rollout.move _ index r).history.answeredSerials _
    rw [hhistory, History.answeredSerials_append, hanswered, hsent', hsent]
    refine (hcarried.answers hsends).extend (fun serial => hcarried.answersWith_eq) ?_ _
    intro serial hserial
    constructor
    · rw [hcarried.length_sent hsends]
      exact hcourse.tally.1.lt_of_mem_unanswered (hearlier serial hserial)
    · exact (if_pos hserial).trans (hexchange hsends serial hserial)

end Carried

/-- A conversation comes to the conclusion of a deployment that is over, and on the way no more
requests wait than a window. -/
def Concludes (job : DeployJob) (w : World) (options : DeploymentOptions) (stamp : RunStamp)
    (t : Topology) (d : Dialogue) (p : Progress) : Prop :=
  (∃ exchanges r p' result, job.Carried w options stamp t exchanges r p' ∧
    r.result? = some result ∧ d.converseFrom w p = (job.conclude result).converseFrom w p') ∧
  ∀ m ∈ d.momentsFrom w p, m.waiting.length ≤ options.window

theorem Carried.conclude (hcarried : job.Carried w options stamp t exchanges r p)
    {result : Except DeploymentError Report} (hresult : r.result? = some result) :
    job.Concludes w options stamp t (job.conclude result) p := by
  refine ⟨⟨exchanges, r, p, result, hcarried, hresult, rfl⟩, ?_⟩
  intro m hm
  have hwaiting : m.waiting = p.waiting := by
    cases result <;>
      simp only [DeployJob.conclude, Dialogue.fail, Dialogue.momentsFrom, List.mem_cons,
        List.not_mem_nil, or_false] at hm <;>
      rcases hm with rfl | rfl | rfl <;> rfl
  rw [hwaiting]
  exact hcarried.waiting_le

theorem Concludes.tell {os : List Occurrence} {next : Dialogue}
    (hwaiting : (os.foldl job.hear p).waiting.length ≤ options.window)
    (hnext : job.Concludes w options stamp t next (os.foldl job.hear p)) :
    job.Concludes w options stamp t (os.foldr job.tell next) p := by
  obtain ⟨⟨exchanges, r, p', result, hcarried, hresult, hconverse⟩, hmoments⟩ := hnext
  refine ⟨⟨exchanges, r, p', result, hcarried, hresult, ?_⟩, ?_⟩
  · rw [job.converseFrom_tell, hconverse]
  · exact job.waiting_le_of_tell w os next p hwaiting hmoments

theorem Concludes.await {next : Nat → Exchange → Dialogue}
    (hwaiting : p.waiting.length ≤ options.window)
    (hnext : job.Concludes w options stamp t (next (p.next w) (p.exchange w (p.next w)))
      (p.answered (p.next w))) :
    job.Concludes w options stamp t (.await next) p :=
  ⟨hnext.1, List.forall_mem_cons.mpr ⟨hwaiting, hnext.2⟩⟩

theorem next_lt (w : World) {p : Progress} (hwaiting : p.waiting ≠ []) :
    p.next w < p.waiting.length := by
  have hpos := List.length_pos_iff.mpr hwaiting
  simp only [Progress.next]
  split
  · assumption
  · exact hpos

/-- One of some numbers that all differ is taken out by its position or by itself. -/
theorem eraseIdx_eq_filter {numbers : List Nat} (hnodup : numbers.Nodup) {i n : Nat}
    (hget : numbers[i]? = some n) :
    numbers.eraseIdx i = numbers.filter fun other => other ∉ some n := by
  have hcut : numbers.take i ++ ((some n).toList ++ numbers.drop (i + 1)) = numbers := by
    obtain ⟨hlt, rfl⟩ := List.getElem?_eq_some_iff.mp hget
    rw [Option.toList_some, List.singleton_append, List.getElem_cons_drop, List.take_append_drop]
  have hfilter := TierRun.filter_eq_of_nodup (hcut ▸ hnodup)
  rw [hcut] at hfilter
  rw [List.eraseIdx_eq_take_drop_succ, hfilter]

/-- As long as a deployment is not over, an entity can start or a call waits for its answer. -/
theorem Carried.ready_or_pending (hcarried : job.Carried w options stamp t exchanges r p)
    (hresult : r.result? = none) :
    (∃ index, r.current?.bind TierRun.ready? = some index) ∨ pending r ≠ [] := by
  refine (hcarried.course.ready_or_awaited hresult).imp_right fun hawaited hpending => ?_
  have hperm := pending_serials_perm r
  rw [hpending] at hperm
  exact hawaited hperm.nil_eq.symm

theorem Carried.exists_movable (hcarried : job.Carried w options stamp t exchanges r p)
    (hresult : r.result? = none) : ∃ index, r.Movable index := by
  rcases hcarried.ready_or_pending hresult with ⟨index, hready⟩ | hpending
  · exact ⟨index, Rollout.movable_of_ready? hready⟩
  · obtain ⟨q, hq⟩ := List.exists_mem_of_ne_nil _ hpending
    exact ⟨q.index, Rollout.movable_of_consults (consults_of_mem_pending hcarried.course hq)⟩

/-- A call that cannot be written waits for no request. -/
theorem Carried.move_unsendable (hcarried : job.Carried w options stamp t exchanges r p)
    (hsends : job.client.sends = false) (index : Nat) :
    ∃ exchanges', job.Carried w options stamp t exchanges' (job.move .unanswered index r)
      ((happened r (job.move .unanswered index r)).foldl job.hear p) := by
  apply hcarried.move rfl _ hcarried.silent hcarried.readings
  · intro hsends'
    rw [hsends] at hsends'
    contradiction
  · rw [hcarried.waiting, hsends]
    rfl

/-- An entity starts without an answer. -/
theorem Carried.move_ready (hcarried : job.Carried w options stamp t exchanges r p) {index : Nat}
    (hready : r.current?.bind TierRun.ready? = some index) :
    ∃ exchanges', job.Carried w options stamp t exchanges' (job.move .unanswered index r)
      ((happened r (job.move .unanswered index r)).foldl job.hear p) := by
  have hconsults := hcarried.course.consults_of_ready? hready
  apply hcarried.move rfl _ hcarried.silent hcarried.readings
  · intro _ serial hserial
    rw [hconsults] at hserial
    contradiction
  · rw [hcarried.waiting, hconsults]
    simp

/-- The answer that arrives is brought to the entity that waits for it. -/
theorem Carried.move_answered (hcarried : job.Carried w options stamp t exchanges r p)
    (hsends : job.client.sends = true) (hpending : pending r ≠ []) :
    ∃ q ∈ pending r, (pending r)[p.next w]? = some q ∧
      ∃ exchanges', job.Carried w options stamp t exchanges'
        (job.move (p.exchange w (p.next w)) q.index r)
        ((happened r (job.move (p.exchange w (p.next w)) q.index r)).foldl job.hear
          (p.answered (p.next w))) := by
  have hcourse := hcarried.course
  have hserials := pending_serials hcourse
  have hwaiting : p.waiting = (pending r).map Pending.serial := by
    rw [hcarried.waiting, if_pos hsends, hserials]
  have hlt : p.next w < (pending r).length := by
    have hnext := next_lt w (p := p) (by simpa [hwaiting] using hpending)
    simpa [hwaiting] using hnext
  let q := (pending r)[p.next w]
  have hq : (pending r)[p.next w]? = some q := List.getElem?_eq_getElem hlt
  have hserial : p.waiting[p.next w]? = some q.serial := by
    rw [hwaiting, List.getElem?_map, hq]
    rfl
  have hconsults : r.consults q.index = some q.serial :=
    consults_of_mem_pending hcourse (List.getElem_mem hlt)
  have hsent : (p.answered (p.next w)).sent = p.sent := rfl
  refine ⟨q, List.getElem_mem hlt, hq, hcarried.move hsent ?_ hcarried.silent hcarried.readings ?_⟩
  · have hnodup := hcourse.tally.1.unanswered_nodup
    rw [if_pos hsends, hconsults, ← hserials, ← hwaiting]
    rw [← hserials, ← hwaiting] at hnodup
    exact eraseIdx_eq_filter hnodup hserial
  · intro _ serial hmem
    rw [hconsults] at hmem
    obtain rfl := Option.some_inj.mp hmem
    simp only [Progress.exchange, hserial]

/-- With moves enough a deployment is carried on to its end. -/
theorem Carried.carryOn {moves : Nat} (hcarried : job.Carried w options stamp t exchanges r p)
    (hmoves : r.toGo ≤ moves) : job.Concludes w options stamp t (job.carryOn moves r) p := by
  induction moves generalizing exchanges r p with
  | zero =>
      cases hresult : r.result? with
      | some result =>
          rw [DeployJob.carryOn, hresult]
          exact hcarried.conclude hresult
      | none =>
          obtain ⟨index, hmovable⟩ := hcarried.exists_movable hresult
          have hlt := hcarried.course.move_toGo_lt (job.client.platform exchanges) hmovable
          omega
  | succ moves ih =>
      -- A move tells what has happened and is carried on with fewer moves to go.
      have hstep : ∀ {exchange : Exchange} {index : Nat} {p₁ : Progress}, r.Movable index →
          (∃ exchanges', job.Carried w options stamp t exchanges' (job.move exchange index r)
            ((happened r (job.move exchange index r)).foldl job.hear p₁)) →
          job.Concludes w options stamp t ((happened r (job.move exchange index r)).foldr job.tell
            (job.carryOn moves (job.move exchange index r))) p₁ := by
        intro exchange index p₁ hmovable hmoved
        obtain ⟨exchanges', hcarried'⟩ := hmoved
        have hlt := hcarried.course.move_toGo_lt (job.client.platform fun _ => exchange) hmovable
        exact .tell hcarried'.waiting_le
          (ih hcarried' (Nat.le_of_lt_succ (Nat.lt_of_lt_of_le hlt hmoves)))
      rw [DeployJob.carryOn]
      cases hresult : r.result? with
      | some result => exact hcarried.conclude hresult
      | none =>
          cases hfind : (pending r).find? fun q => (job.client.request? q.call).isNone with
          | some q =>
              have hq := List.mem_of_find?_eq_some hfind
              have hsends : job.client.sends = false := by
                have hnone := List.find?_some hfind
                simpa [job.client.isNone_request?] using hnone
              have hmovable :=
                Rollout.movable_of_consults (consults_of_mem_pending hcarried.course hq)
              exact hstep hmovable (hcarried.move_unsendable hsends q.index)
          | none =>
              cases hready : r.current?.bind TierRun.ready? with
              | some index =>
                  exact hstep (Rollout.movable_of_ready? hready) (hcarried.move_ready hready)
              | none =>
                  have hpending : pending r ≠ [] := by
                    refine (hcarried.ready_or_pending hresult).resolve_left ?_
                    rintro ⟨index, hindex⟩
                    rw [hready] at hindex
                    contradiction
                  have hsends : job.client.sends = true := by
                    obtain ⟨q, hq⟩ := List.exists_mem_of_ne_nil _ hpending
                    have hsome := List.find?_eq_none.mp hfind q hq
                    simpa [job.client.isNone_request?] using hsome
                  obtain ⟨q, hq, hget, hmoved⟩ := hcarried.move_answered hsends hpending
                  have hmovable :=
                    Rollout.movable_of_consults (consults_of_mem_pending hcarried.course hq)
                  apply Concludes.await hcarried.waiting_le
                  rw [hget]
                  exact hstep hmovable hmoved

end Cli.DeployJob

end PolicyRollout
