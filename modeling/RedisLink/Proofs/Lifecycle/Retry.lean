/-
RedisLink.Proofs.Lifecycle.Retry — releasing again until it goes well.

A release that fails keeps the client with the connections it has not begun
with, and another attempt goes on from there. Each attempt spends at least one
connection and exactly one failure, so the number of connections that fail is
the number of attempts that fail: `release_run` is an induction on the failures
that are left. `Converges` puts together what comes of it, and
`release_converges` says it of every run of a deployment that has just been
made, for both kinds of releases.

`Unobstructed` is what the attempts need. One that waits needs a timeout that can
be read and, if that means no limit, no connection that hangs; one that does not
wait needs that no asynchronous connection is open.
-/
import RedisLink.Proofs.Lifecycle.Agreement
import RedisLink.Proofs.Lifecycle.Order
import RedisLink.Proofs.Lifecycle.Shutdown

namespace RedisLink.Deployment

/-! ## 1. One attempt -/

/-- Nothing keeps a release from getting through to the end. -/
inductive Unobstructed (n c : Nat) (w : World) : Operation → Prop
  | waiting {t : Timeout} (readable : (w.deployments.get n).settings.timeout .shutdown w = .ok t)
      (ends : ∀ k ∈ (w.clients.get c).tracked true,
        t.duration.micros = 0 → w.conducts.asynchronous k ≠ .hangs) :
      Unobstructed n c w (.call .destroyAsync)
  | blocking (closed : (w.clients.get c).tracked true = []) :
      Unobstructed n c w (.call .destroy)

/-- What one attempt does: it stops at a failure and keeps the client, or it gives the client up and
leaves no connection. -/
inductive Attempt (n c : Nat) (m : Moment) : Prop
  | failed (e : Failure) (answer : m.answer = .error e) (kept : clientIn n m.after = some c)
      (advances : m.before.Advances c (some e) m.after)
  | done (answer : m.answer = .ok none) (absent : clientIn n m.after = none)
      (advances : m.before.Advances c none m.after)
      (empty : (m.after.clients.get c).order = [])

section

variable {n c : Nat} {w v : World} {op : Operation}

theorem ends_of_hangs {t : Timeout} {conduct : Conduct}
    (h : t.duration.micros = 0 → conduct ≠ .hangs) :
    (Limit.ofDuration t.duration).Ends conduct := by
  refine ⟨t.begins_ofDuration, fun hlimit => h ?_⟩
  unfold Limit.ofDuration at hlimit
  split at hlimit
  · rename_i hzero
    exact hzero
  · cases hlimit

/-- What keeps the settings and tracks no more obstructs nothing. -/
theorem Unobstructed.keep (h : Unobstructed n c w op) (reads : w.KeepsReads n v)
    (conducts : v.conducts = w.conducts)
    (tracked : ∀ k ∈ (v.clients.get c).tracked true, k ∈ (w.clients.get c).tracked true) :
    Unobstructed n c v op := by
  cases h with
  | @waiting t readable ends =>
    refine .waiting (t := t) ?_ fun k hk => ?_
    · rw [reads.settings, SettingsRef.timeout_congr reads.env reads.live]
      exact readable
    · rw [conducts]
      exact ends k (tracked k hk)
  | blocking closed =>
    refine .blocking (List.eq_nil_iff_forall_not_mem.mpr fun k hk => ?_)
    have := tracked k hk
    rw [closed] at this
    cases this

/-- Closing that goes along the order, and giving the client up after it. -/
theorem Attempt.of_closing {act : Act Unit} {failure : Option Failure}
    (hop : op.perform n w = ((act.andThen fun _ => release n c).map fun _ => none) w)
    (present : clientIn n w = some c) (deployments : (act w).2.deployments = w.deployments)
    (answer : (act w).1 = Client.outcome failure) (advances : w.Advances c failure (act w).2)
    (empty : (act w).1 = .ok () → ∀ a, ((act w).2.clients.get c).tracked a = []) :
    Attempt n c (.of n op w) := by
  unfold Act.map Act.andThen at hop
  rcases hact : act w with ⟨r, v⟩
  rw [hact] at hop deployments answer advances empty
  cases failure with
  | some e =>
    obtain rfl : r = .error e := answer
    rw [Moment.of_eq hop]
    exact .failed e rfl (by rw [clientIn, deployments]; exact present) advances
  | none =>
    obtain rfl : r = .ok () := answer
    obtain ⟨v', hv', hclients, -, hevents, habsent, -⟩ := release_eq n c v
    have hconducts : v'.conducts = v.conducts := by
      have hkept : (release n c v).2.conducts = v.conducts := rfl
      rwa [hv'] at hkept
    simp only [hv'] at hop
    rw [Moment.of_eq hop]
    obtain ⟨evs, hevs, horder, hfailure⟩ := advances.events
    refine .done rfl habsent ⟨hconducts.trans advances.conducts, evs, ?_, ?_, hfailure⟩ ?_
    · exact hevents.trans hevs
    · simpa only [hclients] using horder
    · simp only [hclients, Client.order, empty rfl, List.map_nil, List.append_nil]

/-- Every attempt that nothing obstructs goes like this. -/
theorem Attempt.of_unobstructed (present : clientIn n w = some c)
    (h : Unobstructed n c w op) : Attempt n c (.of n op w) := by
  cases h with
  | @waiting t readable ends =>
    obtain ⟨failure, hanswer, hadvances⟩ := Client.shutdownAll_advances c t w
      fun k hk => ends_of_hangs (ends k hk)
    refine .of_closing ?_ present (Client.shutdownAll_deployments c _ w) hanswer hadvances
      (Client.shutdownAll_closes c t w).2
    rw [Operation.perform, Call.perform, Act.map, Act.map, destroyAsync_eq present readable]
  | blocking closed =>
    obtain ⟨failure, hanswer, hadvances⟩ := Client.close_advances c w
    have hcount : (w.clients.get c).openAsyncCount = 0 := by
      rw [Client.openAsyncCount_eq, closed, List.length_nil]
    have hdeployments : (Client.close c w).2.deployments = w.deployments := rfl
    refine .of_closing ?_ present hdeployments hanswer hadvances fun hok a => ?_
    · rw [Operation.perform, Call.perform, Act.map, Act.map, destroy_eq present hcount]
    · cases a with
      | false => exact (Client.close_closes c w).2 hok
      | true =>
        refine List.eq_nil_iff_forall_not_mem.mpr fun k hk => ?_
        have := hadvances.tracked hk
        rw [closed] at this
        cases this

/-- After an attempt that failed nothing obstructs the next. -/
theorem Unobstructed.again (h : Unobstructed n c w op) {failure : Option Failure}
    (advances : w.Advances c failure (op.perform n w).2) :
    Unobstructed n c (op.perform n w).2 op := by
  have hop : op.isChange = false := by cases h <;> rfl
  exact h.keep (perform_proceeds hop w).reads advances.conducts fun k => advances.tracked

end

/-! ## 2. As many attempts as fail, and one more -/

/-- A release as often as connections of a client fail when they are closed, and once more. -/
def retries (op : Operation) (c : Nat) (w : World) : List Operation :=
  List.replicate (((w.clients.get c).failures w.conducts).length + 1) op

/-- What comes of these attempts, one after the other. -/
structure Settles (n c : Nat) (op : Operation) (w : World) : Prop where
  /-- Each failure ends one attempt, and the last attempt ends normally. -/
  answers : (trace n w (retries op c w)).map Moment.answer =
    ((w.clients.get c).failures w.conducts).map Except.error ++ [.ok none]
  /-- An attempt that fails keeps the client and spends a connection. -/
  spends : ∀ m ∈ trace n w (retries op c w), ∀ e, m.answer = .error e →
    clientIn n m.after = some c ∧
      (m.after.clients.get c).openCount < (m.before.clients.get c).openCount
  absent : clientIn n (run n w (retries op c w)) = none
  /-- Each connection is begun with once, in order. -/
  order : Event.begun (History.events (trace n w (retries op c w))) = (w.clients.get c).order

section

variable {n c : Nat} {op : Operation}

/-- An attempt that fails, and the attempts after it. -/
theorem Settles.cons {w : World} {e : Failure} (answer : (Moment.of n op w).answer = .error e)
    (kept : clientIn n (Moment.of n op w).after = some c)
    (advances : w.Advances c (some e) (Moment.of n op w).after)
    (rest : Settles n c op (Moment.of n op w).after) : Settles n c op w := by
  have hfailures : (w.clients.get c).failures w.conducts = e ::
      ((Moment.of n op w).after.clients.get c).failures (Moment.of n op w).after.conducts :=
    advances.failures
  have hcalls : retries op c w = op :: retries op c (Moment.of n op w).after := by
    rw [retries, hfailures]
    rfl
  obtain ⟨evs, hevs, horder, -⟩ := advances.events
  constructor <;> rw [hcalls]
  · rw [trace, List.map_cons, answer, rest.answers, hfailures]
    rfl
  · refine List.forall_mem_cons.mpr ⟨fun _ _ => ⟨kept, advances.openCount_lt⟩, rest.spends⟩
  · exact rest.absent
  · have hevents : (Moment.of n op w).events = evs := Moment.events_eq hevs
    rw [trace, History.events, List.flatMap_cons, Event.begun_append, hevents, horder]
    congr 1
    exact rest.order

/-- The attempt that gives the client up. -/
theorem Settles.last {w : World} (answer : (Moment.of n op w).answer = .ok none)
    (absent : clientIn n (Moment.of n op w).after = none)
    (advances : w.Advances c none (Moment.of n op w).after)
    (empty : ((Moment.of n op w).after.clients.get c).order = []) : Settles n c op w := by
  have hfailures : (w.clients.get c).failures w.conducts = [] := by
    rw [advances.failures, Client.failures, empty]
    rfl
  have hcalls : retries op c w = [op] := by
    rw [retries, hfailures]
    rfl
  obtain ⟨evs, hevs, horder, -⟩ := advances.events
  constructor <;> rw [hcalls]
  · rw [trace, trace, List.map_cons, answer, hfailures]
    rfl
  · refine List.forall_mem_singleton.mpr fun e he => ?_
    rw [answer] at he
    cases he
  · exact absent
  · have hevents : (Moment.of n op w).events = evs := Moment.events_eq hevs
    rw [trace, trace, History.events_singleton, hevents, horder, empty, List.append_nil]

/-- Attempts that nothing obstructs settle: an induction on the failures that are left. -/
theorem release_run : ∀ {failures : List Failure} {w : World},
    (w.clients.get c).failures w.conducts = failures → clientIn n w = some c →
      Unobstructed n c w op → Settles n c op w := by
  intro failures
  induction failures with
  | nil =>
    intro w hfailures present free
    cases Attempt.of_unobstructed present free with
    | failed e answer kept advances =>
      have := advances.failures
      rw [show (Moment.of n op w).before = w from rfl, hfailures] at this
      cases this
    | done answer absent advances empty => exact .last answer absent advances empty
  | cons e rest ih =>
    intro w hfailures present free
    cases Attempt.of_unobstructed present free with
    | failed e' answer kept advances =>
      have hrest := advances.failures
      rw [show (Moment.of n op w).before = w from rfl, hfailures] at hrest
      obtain ⟨-, hrest⟩ := List.cons.inj hrest
      exact .cons answer kept advances (ih hrest.symm kept (free.again advances))
    | done answer absent advances empty => exact .last answer absent advances empty

end

/-! ## 3. Every run -/

/-- Releasing converges: what comes of attempts after a history, in the world it ends in. -/
structure Converges (n c : Nat) (op : Operation) (h : History) (w : World) : Prop where
  settles : Settles n c op w
  /-- Of each kind the connections whose closing had not begun are begun with in the reverse of the
  order in which they were opened, the blocking ones first. -/
  reversed : Event.begun (History.events (trace n w (retries op c w))) =
    (h.untouched n c false).reverse.map (fun k => (false, k)) ++
      (h.untouched n c true).reverse.map fun k => (true, k)
  /-- In the end closing has begun once for each connection that the client has opened. -/
  once : ∀ a, ∀ k ∈ h.openedBy n c a,
    History.attempts (h ++ trace n w (retries op c w)) a k = 1

/-- Attempts that settle leave no connection of the client whose closing has not begun. -/
theorem Settles.once {n c base : Nat} {op : Operation} {h : History} {w : World}
    (S : Settles n c op w)
    (L : Ledger n base (h ++ trace n w (retries op c w)) (run n w (retries op c w)))
    {a : Bool} {k : Nat} (hk : k ∈ h.openedBy n c a) :
    History.attempts (h ++ trace n w (retries op c w)) a k = 1 := by
  have ho : ⟨c, a, k⟩ ∈ History.openings (h ++ trace n w (retries op c w)) n := by
    rw [History.openings_append]
    exact List.mem_append_left _ (History.mem_openedBy.mp hk)
  obtain ⟨htracked, -⟩ | ⟨-, hone⟩ := L.once ho
  · rw [L.mem_tracked ho, held, S.absent] at htracked
    cases htracked
  · exact hone

/-- After every run, a release that nothing obstructs goes well within one more attempt than
connections fail, and closes each connection once and in order. -/
theorem release_converges (topology : Option TopologyRef) (settings : SettingsRef) (w : World)
    (ops : List Operation) (c : Nat) (op : Operation)
    (present : clientIn w.deployments.size
      (run w.deployments.size (made topology settings w) ops) = some c)
    (free : Unobstructed w.deployments.size c
      (run w.deployments.size (made topology settings w) ops) op) :
    Converges w.deployments.size c op
      (trace w.deployments.size (made topology settings w) ops)
      (run w.deployments.size (made topology settings w) ops) := by
  have L := Ledger.of_run topology settings w ops
  have O := Ordered.of_run topology settings w ops
  have S := release_run rfl present free
  refine ⟨S, ?_, fun a k hk => ?_⟩
  · rw [S.order, Client.order, tracked_eq_reverse O L present, tracked_eq_reverse O L present]
  · -- the attempts go on with the same run
    have L' := Ledger.of_run topology settings w
      (ops ++ retries op c (run w.deployments.size (made topology settings w) ops))
    rw [trace_append, run_append] at L'
    exact S.once L' hk

/-- A world in which connections with odd numbers fail to close and the fourth takes too long. -/
def oddFailing : World := .initial .empty ClassPath.modules {
  calls := fun _ => none
  blocking := fun k => if k % 2 = 1 then .fails else .normal
  asynchronous := fun k => if k % 2 = 1 then .failsLate else if k = 4 then .expires else .normal }

/-- A client is built and opens two blocking connections and three asynchronous ones. -/
def fiveOpened : List Operation :=
  [.call .start, .connect false, .connect false, .connect true, .connect true, .connect true]

theorem release_converges_fiveOpened :
    clientIn 0 (run 0 (made none (.live 0) oddFailing) fiveOpened) = some 0 ∧
      Unobstructed 0 0 (run 0 (made none (.live 0) oddFailing) fiveOpened)
        (.call .destroyAsync) ∧
      ((run 0 (made none (.live 0) oddFailing) fiveOpened).clients.get 0).order =
        [(false, 2), (false, 1), (true, 5), (true, 4), (true, 3)] ∧
      Converges 0 0 (.call .destroyAsync) (trace 0 (made none (.live 0) oddFailing) fiveOpened)
        (run 0 (made none (.live 0) oddFailing) fiveOpened) := by
  have hpresent : clientIn 0 (run 0 (made none (.live 0) oddFailing) fiveOpened) = some 0 := rfl
  have hfree : Unobstructed 0 0 (run 0 (made none (.live 0) oddFailing) fiveOpened)
      (.call .destroyAsync) :=
    .waiting (t := .shutdown) rfl fun k _ hzero => absurd hzero (by decide)
  exact ⟨hpresent, hfree, by decide,
    release_converges none (.live 0) oddFailing fiveOpened 0 _ hpresent hfree⟩

end RedisLink.Deployment
