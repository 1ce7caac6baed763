/-
RedisLink.Proofs.Lifecycle.Effect — what each operation of a run can do to the
client of a deployment and to connections.

There are six cases. An operation does nothing to them, hands out the
connection that is shared already, builds the client, opens a connection,
closes some connections and keeps the client, or closes all of them and gives
the client up. `Effect` states each case with everything it says about the
operation, its answer and the worlds before and after; `Effect.of_perform` says
that there are no others. Invariants of runs go through these six cases and
never look at an operation again.
-/
import RedisLink.Proofs.Lifecycle.Closing
import RedisLink.Proofs.Lifecycle.Edits

namespace RedisLink

/-! ## 1. Writes leave connections alone -/

theorem World.Edit.same {aboutNodes : Bool} {w v : World} (edit : w.Edit aboutNodes v) :
    w.SameConnections v := by
  cases edit with
  | share k given =>
    refine ⟨rfl, rfl, rfl, fun n => ?_, fun n a => ?_⟩
    · exact Store.get_set_of_eq Deployment.client (by rfl) n
    · exact Store.get_set_of_eq (Deployment.shared · a) (by rfl) n
  | _ => exact ⟨rfl, rfl, rfl, fun _ => rfl, fun _ _ => rfl⟩

/-- No write changes anything about connections. -/
theorem Change.make_same (c : Change) (w : World) : w.SameConnections (c.make w).2 :=
  (c.make_edit w).same

/-! ## 2. The cases -/

namespace Deployment

/-- The client of the deployment of a number. -/
abbrev clientIn (n : Nat) (w : World) : Option Nat := (w.deployments.get n).client

/-- The connection of a kind that the callers of the deployment of a number share. -/
abbrev sharedIn (n : Nat) (a : Bool) (w : World) : Option Connection :=
  (w.deployments.get n).shared a

/-- What an operation does to the client of a deployment and to connections. -/
inductive Effect (n : Nat) (m : Moment) : Prop
  /-- Nothing. A release that ends normally like this finds no client, and a start that does
  finds one. -/
  | idle (same : m.before.SameConnections m.after)
      (silent : ∀ k, m.answer ≠ .ok (some k))
      (released : m.operation.isRelease = true → m.answer = .ok none → clientIn n m.before = none)
      (started : m.operation = .call .start → m.answer = .ok none → clientIn n m.before ≠ none)
  /-- The connection that callers share is handed out again. -/
  | reused (a : Bool) (k : Connection)
      (operation : m.operation = .call (.handOut a)) (answer : m.answer = .ok (some k))
      (sharing : m.sharing n = true) (present : clientIn n m.before ≠ none)
      (shared : sharedIn n a m.before = some k) (same : m.after = m.before)
  /-- The client is built; it has opened no connection. -/
  | built (c : Client)
      (operation : m.operation = .call .start) (answer : m.answer = .ok none)
      (absent : clientIn n m.before = none)
      (present : clientIn n m.after = some m.before.clients.size)
      (clients : m.after.clients = m.before.clients.add c) (untracked : ∀ a, c.tracked a = [])
      (opened : m.after.opened = m.before.opened) (events : m.after.events = m.before.events)
      (shared : ∀ a, sharedIn n a m.after = sharedIn n a m.before)
  /-- A connection is opened and handed out; callers share it from now on if they share and had
  none. -/
  | opened (client : Nat) (a : Bool) (k : Connection)
      (operation : m.operation.kind? = some a) (answer : m.answer = .ok (some k))
      (present : clientIn n m.before = some client) (kept : clientIn n m.after = some client)
      (opens : m.before.Opens client a k m.after)
      (vacant : m.sharing n = true → sharedIn n a m.before = none)
      (shared : ∀ b, sharedIn n b m.after =
        if m.sharing n = true ∧ b = a then some k else sharedIn n b m.before)
  /-- Connections are closed and the client stays; a release that ends like this has failed, and
  among the calls of a deployment only releases do. -/
  | closed (client : Nat) (silent : ∀ k, m.answer ≠ .ok (some k))
      (failed : m.operation.isRelease = true → ∃ e, m.answer = .error e)
      (direct : ∀ c, m.operation = .call c → m.operation.isRelease = true)
      (present : clientIn n m.before = some client) (kept : clientIn n m.after = some client)
      (shared : ∀ a, sharedIn n a m.after = sharedIn n a m.before)
      (closes : m.before.Closes client m.after)
  /-- All connections are closed and the client is given up. -/
  | released (client : Nat)
      (operation : m.operation.isRelease = true) (answer : m.answer = .ok none)
      (present : clientIn n m.before = some client) (absent : clientIn n m.after = none)
      (shared : ∀ a, sharedIn n a m.after = none)
      (closes : m.before.Closes client m.after)
      (untracked : ∀ a, (m.after.clients.get client).tracked a = [])

/-! ## 3. There are no others -/

theorem Moment.of_eq {n : Nat} {op : Operation} {w v : World}
    {r : Except Failure (Option Connection)} (h : op.perform n w = (r, v)) :
    Moment.of n op w = ⟨w, op, r, v⟩ := by
  simp [Moment.of, h]

/-- An operation that fails and leaves connections alone. -/
theorem Effect.of_error {n : Nat} {op : Operation} {w v : World} {e : Failure}
    (h : op.perform n w = (.error e, v)) (same : w.SameConnections v) :
    Effect n (.of n op w) := by
  rw [Moment.of_eq h]
  exact .idle same (fun k => by simp) (fun _ h => by cases h) (fun _ h => by cases h)

theorem effect_start (n : Nat) (w : World) : Effect n (.of n (.call .start) w) := by
  rcases hc : clientIn n w with _ | client
  · rcases hp : (w.deployments.get n).plan w with e | c
    · have hrun : Operation.perform n (.call .start) w = (.error e, w) := by
        simp [Operation.perform, Call.perform, Act.map, start, hc, hp]
      exact .of_error hrun (.refl w)
    · obtain ⟨v, hv, hd, hcl, ho, he⟩ : ∃ v, Operation.perform n (.call .start) w = (.ok none, v) ∧
          v.deployments.get n = { w.deployments.get n with client := some w.clients.size } ∧
          v.clients = w.clients.add c ∧ v.opened = w.opened ∧ v.events = w.events := by
        refine ⟨_, by simp [Operation.perform, Call.perform, Act.map, start, hc, hp]; rfl, ?_⟩
        simp [World.record, World.setDeployment]
      rw [Moment.of_eq hv]
      refine .built c rfl rfl hc (by simp [clientIn, hd]) hcl (fun a => ?_) ho he (fun a => ?_)
      · -- a plan is a client that has opened nothing
        unfold plan at hp
        split at hp
        · cases hp
        · simp only [Except.ok.injEq] at hp
          subst hp
          cases a <;> rfl
      · cases a <;> simp [sharedIn, shared, hd]
  · have hrun : Operation.perform n (.call .start) w = (.ok none, w) := by
      simp [Operation.perform, Call.perform, Act.map, start, hc]
    rw [Moment.of_eq hrun]
    exact .idle (.refl w) (fun k => by simp) (fun h => by simp [Operation.isRelease] at h)
      fun _ _ => by simp [hc]

/-- A connection that a client opens without callers sharing it from now on. -/
theorem Effect.of_opens {n : Nat} {op : Operation} {a : Bool} {client : Nat} {k : Connection}
    {w v : World} (hkind : op.kind? = some a) (hc : clientIn n w = some client)
    (h : op.perform n w = (.ok (some k), v)) (hopens : w.Opens client a k v)
    (hdep : v.deployments = w.deployments)
    (halone : (⟨w, op, .ok (some k), v⟩ : Moment).sharing n = false) :
    Effect n (.of n op w) := by
  rw [Moment.of_eq h]
  refine .opened client a k hkind rfl hc (by simp [clientIn, hdep, hc]) hopens ?_ fun b => ?_
  · simp [halone]
  · simp [halone, sharedIn, hdep]

theorem effect_handOut (n : Nat) (a : Bool) (w : World) :
    Effect n (.of n (.call (.handOut a)) w) := by
  rcases hc : clientIn n w with _ | client
  · have hrun : Operation.perform n (.call (.handOut a)) w = (.error .notInitialized, w) := by
      simp [Operation.perform, Call.perform, Act.map, handOut, hc]
    exact .of_error hrun (.refl w)
  · rcases hcon : Client.connect client a w with ⟨r, v⟩
    have hcases := Client.connect_cases client a w
    rw [hcon] at hcases
    cases hshare : (w.deployments.get n).share.truthy with
    | false =>
      have hrun : Operation.perform n (.call (.handOut a)) w = (r.map some, v) := by
        simp only [Operation.perform, Call.perform, Act.map, handOut, hc, hshare, hcon]
        cases r <;> rfl
      obtain ⟨e, rfl, hsame⟩ | ⟨k, rfl, hopens, hdep⟩ := hcases
      · exact .of_error hrun hsame
      · exact .of_opens rfl hc hrun hopens hdep (by simp [Moment.sharing, hshare])
    | true =>
      cases hshared : sharedIn n a w with
      | some k =>
        have hrun : Operation.perform n (.call (.handOut a)) w = (.ok (some k), w) := by
          simp [Operation.perform, Call.perform, Act.map, handOut, hc, hshare, hshared]
        rw [Moment.of_eq hrun]
        exact .reused a k rfl rfl (by simp [Moment.sharing, Operation.isHandOut, hshare])
          (by simp [hc]) hshared rfl
      | none =>
        obtain ⟨e, rfl, hsame⟩ | ⟨k, rfl, hopens, hdep⟩ := hcases
        · have hrun : Operation.perform n (.call (.handOut a)) w = (.error e, v) := by
            simp [Operation.perform, Call.perform, Act.map, handOut, hc, hshare, hshared, hcon]
          exact .of_error hrun hsame
        · have hrun : Operation.perform n (.call (.handOut a)) w =
              (.ok (some k), v.setDeployment n ((w.deployments.get n).setShared a k)) := by
            simp [Operation.perform, Call.perform, Act.map, handOut, hc, hshare, hshared, hcon]
          rw [Moment.of_eq hrun]
          refine .opened client a k rfl rfl hc ?_ ⟨hopens.1, hopens.2, hopens.3, hopens.4⟩
            (fun _ => hshared) fun b => ?_
          · cases a <;> simpa [clientIn, World.setDeployment, setShared] using hc
          · cases a <;> cases b <;>
              simp [Moment.sharing, Operation.isHandOut, hshare, sharedIn, shared,
                World.setDeployment, setShared]

/-- Giving the client up changes nothing else about connections. -/
theorem release_eq (n client : Nat) (w : World) :
    ∃ v, release n client w = (.ok (), v) ∧ v.clients = w.clients ∧ v.opened = w.opened ∧
      v.events = w.events ∧ clientIn n v = none ∧ ∀ a, sharedIn n a v = none := by
  refine ⟨_, rfl, rfl, rfl, by simp [World.record, World.setDeployment], ?_, fun a => ?_⟩
  · simp [clientIn, World.record, World.setDeployment, released]
  · cases a <;> simp [sharedIn, shared, World.record, World.setDeployment, released]

/-- A release that goes on to close connections: a failure keeps the client, a normal end gives it
up. -/
theorem Effect.of_release {n : Nat} {op : Operation} {client : Nat} {w v : World}
    {r : Except Failure Unit} (hrel : op.isRelease = true) (hc : clientIn n w = some client)
    (hrun : op.perform n w = match r with
      | .ok () => ((release n client v).1.map fun _ => none, (release n client v).2)
      | .error e => (.error e, v))
    (hcloses : w.Closes client v) (hdep : v.deployments = w.deployments)
    (hnone : r = .ok () → ∀ a, (v.clients.get client).tracked a = []) :
    Effect n (.of n op w) := by
  cases r with
  | error e =>
    rw [Moment.of_eq hrun]
    exact .closed client (fun k => by simp) (fun _ => ⟨e, rfl⟩) (fun _ _ => hrel) hc
      (by simp [clientIn, hdep, hc]) (fun a => by simp [sharedIn, hdep]) hcloses
  | ok u =>
    obtain ⟨v', hv', hcl, ho, he, habsent, hshared⟩ := release_eq n client v
    simp only [hv', Except.map] at hrun
    rw [Moment.of_eq hrun]
    refine .released client hrel rfl hc habsent hshared ?_ fun a => by rw [hcl]; exact hnone rfl a
    exact ⟨ho.trans hcloses.opened, by rw [hcl]; exact hcloses.size,
      fun i hi => by rw [hcl]; exact hcloses.others i hi, by rw [hcl, he]; exact hcloses.events⟩

theorem effect_destroy (n : Nat) (w : World) : Effect n (.of n (.call .destroy) w) := by
  rcases hc : clientIn n w with _ | client
  · have hrun : Operation.perform n (.call .destroy) w = (.ok none, w) := by
      simp [Operation.perform, Call.perform, Act.map, destroy, hc]
    rw [Moment.of_eq hrun]
    exact .idle (.refl w) (fun k => by simp) (fun _ _ => hc) (fun h => by cases h)
  · by_cases hopen : (w.clients.get client).openAsyncCount = 0
    · obtain ⟨hcloses, hnone⟩ := Client.close_closes client w
      have hdep : (Client.close client w).2.deployments = w.deployments := rfl
      rcases hclose : Client.close client w with ⟨r, v⟩
      rw [hclose] at hcloses hnone hdep
      refine .of_release (r := r) (v := v) rfl hc ?_ hcloses hdep fun hr a => ?_
      · simp only [Operation.perform, Call.perform, Act.map, destroy, hc, hopen, hclose]
        cases r <;> simp [release, Except.map]
      · cases a with
        | false => exact hnone hr
        | true =>
          -- destroy does not close asynchronous connections: there were none
          obtain ⟨evs, _, _, htracked⟩ := hcloses.events
          have h0 : (w.clients.get client).tracked true = [] := by
            rw [Client.openAsyncCount_eq] at hopen
            exact List.eq_nil_of_length_eq_zero hopen
          have := htracked true
          rw [h0] at this
          exact (List.append_eq_nil_iff.mp this.symm).2
    · have hrun : Operation.perform n (.call .destroy) w =
          (.error (.asyncStillOpen (w.clients.get client).openAsyncCount), w) := by
        simp [Operation.perform, Call.perform, Act.map, destroy, hc, hopen]
      exact .of_error hrun (.refl w)

theorem effect_destroyAsync (n : Nat) (w : World) : Effect n (.of n (.call .destroyAsync) w) := by
  rcases hc : clientIn n w with _ | client
  · have hrun : Operation.perform n (.call .destroyAsync) w = (.ok none, w) := by
      simp [Operation.perform, Call.perform, Act.map, destroyAsync, hc]
    rw [Moment.of_eq hrun]
    exact .idle (.refl w) (fun k => by simp) (fun _ _ => hc) (fun h => by cases h)
  · rcases ht : (w.deployments.get n).settings.timeout .shutdown w with e | t
    · have hrun : Operation.perform n (.call .destroyAsync) w = (.error e, w) := by
        simp [Operation.perform, Call.perform, Act.map, destroyAsync, hc, ht]
      exact .of_error hrun (.refl w)
    · obtain ⟨hcloses, hnone⟩ := Client.shutdownAll_closes client t w
      have hdep := Client.shutdownAll_deployments client (.duration t.duration) w
      rcases hclose : Client.shutdownAll client (.duration t.duration) w with ⟨r, v⟩
      rw [hclose] at hcloses hnone hdep
      refine .of_release (r := r) (v := v) rfl hc ?_ hcloses hdep hnone
      simp only [Operation.perform, Call.perform, Act.map, destroyAsync, hc, ht, hclose]
      cases r <;> simp [release, Except.map]

/-- Closing connections of the client directly keeps the client. -/
theorem Effect.of_closes {n : Nat} {op : Operation} {client : Nat} {w v : World}
    {r : Except Failure Unit} (hrel : op.isRelease = false) (hdirect : ∀ c, op ≠ .call c)
    (hc : clientIn n w = some client) (hrun : op.perform n w = (r.map fun _ => none, v))
    (hcloses : w.Closes client v) (hdep : v.deployments = w.deployments) :
    Effect n (.of n op w) := by
  rw [Moment.of_eq hrun]
  refine .closed client (fun k => ?_) (by simp [hrel]) (fun c h => absurd h (hdirect c)) hc
    (by simp [clientIn, hdep, hc]) (fun a => by simp [sharedIn, hdep]) hcloses
  cases r <;> simp [Except.map]

/-- Every operation has one of the six effects. -/
theorem Effect.of_perform (n : Nat) (op : Operation) (w : World) : Effect n (.of n op w) := by
  cases op with
  | call c =>
    cases c with
    | start => exact effect_start n w
    | handOut a => exact effect_handOut n a w
    | destroy => exact effect_destroy n w
    | destroyAsync => exact effect_destroyAsync n w
    | change c =>
      have hsame := c.make_same w
      rcases hmake : c.make w with ⟨r, v⟩
      rw [hmake] at hsame
      rw [Moment.of_eq (Operation.perform_change hmake)]
      exact .idle hsame (fun k => by cases r <;> simp [Except.map])
        (fun h => by simp [Operation.isRelease] at h) (fun h => by cases h)
  | connect a =>
    rcases hc : clientIn n w with _ | client
    · exact .of_error (by simp [Operation.perform, withClient, hc]; rfl) (.refl w)
    · rcases hcon : Client.connect client a w with ⟨r, v⟩
      have hcases := Client.connect_cases client a w
      rw [hcon] at hcases
      have hrun : Operation.perform n (.connect a) w = (r.map some, v) := by
        simp only [Operation.perform, withClient, Act.map, hc, hcon]
        cases r <;> rfl
      obtain ⟨e, rfl, hsame⟩ | ⟨k, rfl, hopens, hdep⟩ := hcases
      · exact .of_error hrun hsame
      · exact .of_opens rfl hc hrun hopens hdep rfl
  | close =>
    rcases hc : clientIn n w with _ | client
    · exact .of_error (by simp [Operation.perform, withClient, hc]; rfl) (.refl w)
    · refine .of_closes (r := (Client.close client w).1) rfl (fun c h => by cases h) hc ?_
        (Client.close_closes client w).1 rfl
      simp only [Operation.perform, withClient, Act.map, hc]
      rcases Client.close client w with ⟨_ | _, v⟩ <;> rfl
  | closeAll t =>
    rcases hc : clientIn n w with _ | client
    · exact .of_error (by simp [Operation.perform, withClient, hc]; rfl) (.refl w)
    · refine .of_closes (r := (Client.shutdownAll client (.duration t.duration) w).1) rfl
        (fun c h => by cases h) hc ?_ (Client.shutdownAll_closes client t w).1
        (Client.shutdownAll_deployments client _ w)
      simp only [Operation.perform, withClient, Act.map, hc]
      rcases Client.shutdownAll client (.duration t.duration) w with ⟨_ | _, v⟩ <;> rfl

/-! ## 4. What the cases have in common -/

section

variable {n : Nat} {m : Moment}

/-- Connections are only ever added. -/
theorem Effect.opened_le (effect : Effect n m) : m.before.opened ≤ m.after.opened := by
  cases effect with
  | idle same => exact Nat.le_of_eq same.opened.symm
  | reused a k _ _ _ _ _ same => exact Nat.le_of_eq (by rw [same])
  | built c _ _ _ _ _ _ opened => exact Nat.le_of_eq opened.symm
  | opened client a k _ _ _ _ opens =>
    have := opens.opened
    omega
  | closed client _ _ _ _ _ _ closes => exact Nat.le_of_eq closes.opened.symm
  | released client _ _ _ _ _ closes => exact Nat.le_of_eq closes.opened.symm

/-- So are clients. -/
theorem Effect.size_le (effect : Effect n m) : m.before.clients.size ≤ m.after.clients.size := by
  cases effect with
  | idle same => exact Nat.le_of_eq (by rw [same.clients])
  | reused a k _ _ _ _ _ same => exact Nat.le_of_eq (by rw [same])
  | built c _ _ _ _ clients =>
    rw [clients, Store.size_add]
    exact Nat.le_succ _
  | opened client a k _ _ _ _ opens => exact Nat.le_of_eq (by rw [opens.clients, Store.size_set])
  | closed client _ _ _ _ _ _ closes => exact Nat.le_of_eq closes.size.symm
  | released client _ _ _ _ _ closes => exact Nat.le_of_eq closes.size.symm

/-- A client is the one before or has the next number. -/
theorem Effect.client_cases (effect : Effect n m) {c : Nat} (hc : clientIn n m.after = some c) :
    clientIn n m.before = some c ∨
      c = m.before.clients.size ∧ m.after.clients.size = m.before.clients.size + 1 := by
  cases effect with
  | idle same => exact .inl ((same.client n).symm.trans hc)
  | reused a k _ _ _ _ _ same => exact .inl (same ▸ hc)
  | built d _ _ _ present clients =>
    refine .inr ⟨Option.some.inj (hc.symm.trans present), ?_⟩
    rw [clients, Store.size_add]
  | opened client a k _ _ present kept => exact .inl (present.trans (kept.symm.trans hc))
  | closed client _ _ _ present kept => exact .inl (present.trans (kept.symm.trans hc))
  | released client _ _ _ absent =>
    exact absurd (hc.symm.trans absent) (Option.some_ne_none _)

/-- Only a release that ends normally gives the client up, and then all connections of the client
have been closed. -/
theorem Effect.released_of_none (effect : Effect n m) {c : Nat}
    (present : clientIn n m.before = some c) (absent : clientIn n m.after = none) :
    m.operation.isRelease = true ∧ m.answer = .ok none ∧
      ∀ a, (m.after.clients.get c).tracked a = [] := by
  cases effect with
  | idle same =>
    have hbefore : clientIn n m.before = none := (same.client n).symm.trans absent
    exact absurd (present.symm.trans hbefore) (Option.some_ne_none _)
  | reused a k _ _ _ _ _ same =>
    rw [same, present] at absent
    exact absurd absent (Option.some_ne_none _)
  | built d _ _ absent' => exact absurd (present.symm.trans absent') (Option.some_ne_none _)
  | opened client a k _ _ _ kept => exact absurd (kept.symm.trans absent) (Option.some_ne_none _)
  | closed client _ _ _ _ kept => exact absurd (kept.symm.trans absent) (Option.some_ne_none _)
  | released client operation answer present' _ _ _ untracked =>
    rw [present, Option.some.injEq] at present'
    subst present'
    exact ⟨operation, answer, untracked⟩

end

end Deployment

end RedisLink
