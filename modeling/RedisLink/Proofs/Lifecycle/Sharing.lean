/-
RedisLink.Proofs.Lifecycle.Sharing — when a shared connection is handed out
although its closing has begun.

A release closes connections one after the other, and a failure stops it. The
client stays and no longer tracks what has been closed, but the deployment goes
on sharing the connections it shared before, closed or not. So a call for a
connection gets one whose closing has begun just when a release has failed
after it began with the connection that is still shared, and callers still
share: `begun_handed_out_iff`. Every other path is safe; a release that ends
normally gives up the shared connections with the client, and a connection that
is not shared is new.

Where the shared connection comes from is `shared_origin`: a call of the
present life opened it, and no release has ended normally since.
-/
import RedisLink.Proofs.Lifecycle.Lifetime

namespace RedisLink.Deployment

/-! ## 1. Calls -/

/-- In a history of calls every operation is a call. -/
theorem mem_trace_calls {n : Nat} {w : World} {calls : List Call} {m : Moment}
    (hm : m ∈ trace n w (calls.map .call)) : ∃ c v, m = Moment.of n (.call c) v := by
  obtain ⟨before, after, hcut⟩ := List.append_of_mem hm
  obtain ⟨first, op, rest, hops, -, rfl, -, -⟩ := trace_eq_append_cons hcut
  have hop : op ∈ calls.map Operation.call := by
    rw [hops]
    simp
  obtain ⟨c, -, rfl⟩ := List.mem_map.mp hop
  exact ⟨c, _, rfl⟩

/-- Among calls, only releases close connections; one that does so and does not end normally has
failed. -/
theorem Effect.release_of_begun {n : Nat} {m : Moment} (effect : Effect n m) {c : Call}
    (hop : m.operation = .call c) {a : Bool} {k : Nat} (hk : k ∈ Event.attempts a m.events)
    (hm : ¬ m.Releases) : m.operation.isRelease = true ∧ ∃ e, m.answer = .error e := by
  have hsilent : ∀ evs, m.after.events = m.before.events ++ evs → Event.attempts a evs ≠ [] := by
    intro evs hevs hnil
    rw [Moment.events_eq hevs, hnil] at hk
    cases hk
  cases effect with
  | idle same =>
    exact absurd rfl (hsilent [] (by rw [same.events, List.append_nil]))
  | reused b l _ _ _ _ _ same =>
    exact absurd rfl (hsilent [] (by rw [same, List.append_nil]))
  | built d _ _ _ _ _ _ _ events =>
    exact absurd rfl (hsilent [] (by rw [events, List.append_nil]))
  | opened client b l _ _ _ _ opens => exact absurd rfl (hsilent _ opens.events)
  | closed client _ failed direct =>
    have hrel := direct c hop
    exact ⟨hrel, failed hrel⟩
  | released client operation answer => exact absurd ⟨operation, answer⟩ hm

/-- A call that finds a shared connection hands it out. -/
theorem handOut_shared {n : Nat} {a : Bool} {k : Connection} {w : World}
    (hpresent : clientIn n w ≠ none) (hshare : (w.deployments.get n).share.truthy = true)
    (hk : sharedIn n a w = some k) :
    Moment.of n (.call (.handOut a)) w = ⟨w, .call (.handOut a), .ok (some k), w⟩ := by
  obtain ⟨client, hc⟩ := Option.ne_none_iff_exists'.mp hpresent
  exact Moment.of_eq (by simp [Operation.perform, Call.perform, Act.map, handOut, hc, hshare, hk])

/-! ## 2. Where a shared connection comes from -/

/-- A cut of a history where a connection was opened for callers to share, with no release that
ends normally since. -/
structure History.Shared (n : Nat) (h : History) (a : Bool) (k : Connection) (before : History)
    (handed : Moment) (since : History) : Prop where
  cut : h = before ++ handed :: since
  shares : handed.Shares n a k
  opens : ∃ client, clientIn n handed.before = some client ∧
    handed.before.Opens client a k handed.after
  unreleased : ∀ m ∈ since, ¬ m.Releases

/-- A moment that does not end the life goes on with it. -/
theorem History.Shared.extend {n : Nat} {h : History} {a : Bool} {k : Connection}
    {before since : History} {handed m : Moment} (hs : h.Shared n a k before handed since)
    (hm : ¬ m.Releases) : (h ++ [m]).Shared n a k before handed (since ++ [m]) := by
  refine ⟨?_, hs.shares, hs.opens, ?_⟩
  · rw [hs.cut, List.append_assoc, List.cons_append]
  · exact List.forall_mem_append.mpr ⟨hs.unreleased, List.forall_mem_singleton.mpr hm⟩

/-- A connection that is shared was opened by a call, and no release has ended normally since. -/
theorem shared_origin (topology : Option TopologyRef) (settings : SettingsRef) (w : World)
    (ops : List Operation) {a : Bool} {k : Connection} :
    sharedIn w.deployments.size a (run w.deployments.size (made topology settings w) ops)
        = some k →
      ∃ before handed since, (trace w.deployments.size (made topology settings w) ops).Shared
        w.deployments.size a k before handed since := by
  have hall : Numbered w.deployments.size
        (trace w.deployments.size (made topology settings w) ops)
        (run w.deployments.size (made topology settings w) ops) ∧
      (sharedIn w.deployments.size a (run w.deployments.size (made topology settings w) ops)
          = some k →
        ∃ before handed since, (trace w.deployments.size (made topology settings w) ops).Shared
          w.deployments.size a k before handed since) := by
    refine trace_induction (P := fun h v => Numbered w.deployments.size h v ∧
      (sharedIn w.deployments.size a v = some k → ∃ before handed since,
        History.Shared w.deployments.size h a k before handed since)) ?_ ?_ ops
    · rintro h v op ⟨N, ih⟩
      have effect := Effect.of_perform w.deployments.size op v
      have N' := N.step effect
      refine ⟨N', fun hk => ?_⟩
      rcases effect.shared_cases hk with hbefore | ⟨hshares, hopens⟩
      · obtain ⟨before, handed, since, hs⟩ := ih hbefore
        refine ⟨before, handed, _, hs.extend fun hrel => ?_⟩
        have habsent := effect.absent_of_releases hrel
        exact absurd (hk.symm.trans (N'.absent habsent a)) (Option.some_ne_none _)
      · exact ⟨h, _, [], rfl, hshares, hopens, fun m hm => by cases hm⟩
    · refine ⟨Numbered.of_run topology settings w [], fun hk => ?_⟩
      obtain ⟨-, hshared⟩ := made_idle topology settings w
      exact absurd (hk.symm.trans (hshared a)) (Option.some_ne_none _)
  exact hall.2

/-! ## 3. Numbers whose closing has begun -/

/-- Closing has begun only for connections that have been opened. -/
theorem Ledger.attempted_le {n base : Nat} {h : History} {w : World} (L : Ledger n base h w)
    {a : Bool} {k : Nat} (hk : k ∈ Event.attempts a h.events) : k ≤ w.opened := by
  have hmem : k ∈ h.allOpened n a := (L.balanced a).mem_iff.mp (List.mem_append_right _ hk)
  obtain ⟨o, ho, rfl⟩ := List.mem_map.mp hmem
  exact (L.bounded o (List.mem_filter.mp ho).1).1

theorem History.mem_attempts_iff {h : History} {a : Bool} {k : Nat} :
    h.attempts a k ≠ 0 ↔ ∃ m ∈ h, k ∈ Event.attempts a m.events := by
  have hflat : Event.attempts a h.events = h.flatMap fun m => Event.attempts a m.events := by
    simp [Event.attempts, History.events, List.filterMap_flatMap]
  rw [History.attempts, ne_eq, List.count_eq_zero, not_not, hflat, List.mem_flatMap]

/-- If the closing of a connection that is shared has begun, it has begun since it was opened, and
in the way of its kind. -/
theorem History.Shared.begun_since {w : World} {topology : Option TopologyRef}
    {settings : SettingsRef} {ops : List Operation} {a : Bool} {k : Connection}
    {before since : History} {handed : Moment}
    (hs : (trace w.deployments.size (made topology settings w) ops).Shared
      w.deployments.size a k before handed since) {b : Bool}
    (hb : (trace w.deployments.size (made topology settings w) ops).attempts b k.number ≠ 0) :
    ∃ m ∈ since, k.number ∈ Event.attempts a m.events := by
  obtain ⟨client, hclient, hopens⟩ := hs.opens
  have hop : handed.operation.kind? = some a := by rw [hs.shares.operation]; rfl
  have hopened : ⟨client, a, k.number⟩ ∈
      (trace w.deployments.size (made topology settings w) ops).openings w.deployments.size := by
    rw [hs.cut, History.openings_append]
    refine List.mem_append_right _ ?_
    rw [History.openings, List.flatMap_cons, Moment.openings_of_opens hclient hop hopens]
    exact List.mem_append_left _ (List.mem_singleton.mpr rfl)
  obtain rfl : b = a := by
    by_contra hne
    obtain rfl : b = !a := by cases a <;> cases b <;> simp_all
    exact hb ((Ledger.of_run topology settings w ops).attempts_other hopened)
  obtain ⟨m, hm, hk⟩ := History.mem_attempts_iff.mp hb
  rw [hs.cut] at hm
  rcases List.mem_append.mp hm with hbefore | hafter
  · -- before it was opened its number was beyond all
    obtain ⟨first, op, rest, -, rfl, rfl, -, -⟩ := trace_eq_append_cons hs.cut
    have hmem : k.number ∈ Event.attempts b
        (trace w.deployments.size (made topology settings w) first).events :=
      List.count_pos_iff.mp (Nat.pos_of_ne_zero (History.mem_attempts_iff.mpr ⟨m, hbefore, hk⟩))
    have hle := (Ledger.of_run topology settings w first).attempted_le hmem
    have hnumber := hopens.number
    exact absurd hle (by rw [hnumber]; exact Nat.not_succ_le_self _)
  · rcases List.mem_cons.mp hafter with rfl | hsince
    · rw [Moment.events_eq hopens.events] at hk
      cases hk
    · exact ⟨m, hsince, hk⟩

/-! ## 4. The exact condition -/

/-- A release has failed after beginning to close a connection that a call had handed out for
callers to share, and no release has ended normally since that call. -/
structure History.Abandoned (n : Nat) (h : History) (a : Bool) (k : Connection) (before : History)
    (handed : Moment) (between : History) (failed : Moment) (after : History) : Prop where
  cut : h = before ++ handed :: (between ++ failed :: after)
  shares : handed.Shares n a k
  release : failed.operation.isRelease = true
  failure : ∃ e, failed.answer = .error e
  begun : k.number ∈ Event.attempts a failed.events
  unreleased : ∀ m ∈ between ++ failed :: after, ¬ m.Releases

section

variable {topology : Option TopologyRef} {settings : SettingsRef} {w : World} {calls : List Call}
  {a : Bool} {k : Connection}

/-- A call that hands out a connection whose closing has begun hands out the one that callers
share. -/
theorem shared_of_begun
    (hanswer : (Moment.of w.deployments.size (.call (.handOut a))
        (run w.deployments.size (made topology settings w) (calls.map .call))).answer
      = .ok (some k)) {b : Bool}
    (hbegun : (trace w.deployments.size (made topology settings w) (calls.map .call)).attempts b
      k.number ≠ 0) :
    ((run w.deployments.size (made topology settings w) (calls.map .call)).deployments.get
        w.deployments.size).share.truthy = true ∧
      sharedIn w.deployments.size a
        (run w.deployments.size (made topology settings w) (calls.map .call)) = some k := by
  have effect := Effect.of_perform w.deployments.size (.call (.handOut a))
    (run w.deployments.size (made topology settings w) (calls.map .call))
  have L := Ledger.of_run topology settings w (calls.map .call)
  have hnumber : k.number ≤
      (run w.deployments.size (made topology settings w) (calls.map .call)).opened :=
    L.attempted_le (List.count_pos_iff.mp (Nat.pos_of_ne_zero hbegun))
  cases effect with
  | idle _ silent => exact absurd hanswer (silent k)
  | built c operation => cases operation
  | closed client silent => exact absurd hanswer (silent k)
  | released client _ answer => cases hanswer.symm.trans answer
  | opened client a' l _ answer _ _ opens =>
    -- a new connection has a number beyond all
    obtain rfl : l = k := by simpa [answer] using hanswer
    have hnew := opens.number
    exact absurd hnumber (by rw [hnew]; exact Nat.not_succ_le_self _)
  | reused a' l operation answer sharing _ shared =>
    obtain rfl : a' = a := by cases operation; rfl
    obtain rfl : l = k := by simpa [answer] using hanswer
    exact ⟨(Bool.and_eq_true_iff.mp sharing).2, shared⟩

/-- A shared connection whose closing has begun has been left by a failed release. -/
theorem abandoned_of_begun
    (hshared : sharedIn w.deployments.size a
      (run w.deployments.size (made topology settings w) (calls.map .call)) = some k) {b : Bool}
    (hbegun : (trace w.deployments.size (made topology settings w) (calls.map .call)).attempts b
      k.number ≠ 0) :
    ∃ before handed between failed after,
      (trace w.deployments.size (made topology settings w) (calls.map .call)).Abandoned
        w.deployments.size a k before handed between failed after := by
  obtain ⟨before, handed, since, hs⟩ := shared_origin topology settings w _ hshared
  obtain ⟨failed, hfailed, hk⟩ := hs.begun_since hbegun
  have hunreleased := hs.unreleased failed hfailed
  obtain ⟨c, v, hcall⟩ := mem_trace_calls (m := failed) (by rw [hs.cut]; simp [hfailed])
  have effect : Effect w.deployments.size failed := by
    rw [hcall]
    exact Effect.of_perform _ (.call c) v
  have hop : failed.operation = .call c := by rw [hcall]; rfl
  obtain ⟨hrelease, hfailure⟩ := effect.release_of_begun hop hk hunreleased
  obtain ⟨between, after, rfl⟩ := List.append_of_mem hfailed
  exact ⟨before, handed, between, failed, after,
    hs.cut, hs.shares, hrelease, hfailure, hk, hs.unreleased⟩

/-- A connection that a failed release has left is handed out again. -/
theorem handed_out_of_abandoned
    (hshare : ((run w.deployments.size (made topology settings w) (calls.map .call)).deployments.get
      w.deployments.size).share.truthy = true)
    {before between after : History} {handed failed : Moment}
    (habandoned : (trace w.deployments.size (made topology settings w) (calls.map .call)).Abandoned
      w.deployments.size a k before handed between failed after) :
    (Moment.of w.deployments.size (.call (.handOut a))
        (run w.deployments.size (made topology settings w) (calls.map .call))).answer
      = .ok (some k) := by
  have hunreleased := habandoned.unreleased
  have hshares := habandoned.shares
  obtain ⟨first, op, rest, -, -, rfl, hsince, hrun⟩ := trace_eq_append_cons habandoned.cut
  have effect := Effect.of_perform w.deployments.size op
    (run w.deployments.size (made topology settings w) first)
  rw [hsince] at hunreleased
  rw [hrun] at hshare ⊢
  obtain ⟨client, hclient⟩ := effect.present_of_shares hshares
  obtain ⟨hpresent, -⟩ := run_client hclient rest hunreleased
  have hshared := run_kept (effect.shared_of_shares hshares) rest hunreleased
  have hhanded := handOut_shared (hpresent ▸ Option.some_ne_none _) hshare hshared
  rw [hhanded]

end

/-- After any calls, another call for a connection gets one whose closing has begun just when
callers share and a failed release has left them that connection. -/
theorem begun_handed_out_iff (topology : Option TopologyRef) (settings : SettingsRef) (w : World)
    (calls : List Call) (a : Bool) (k : Connection) :
    ((Moment.of w.deployments.size (.call (.handOut a))
          (run w.deployments.size (made topology settings w) (calls.map .call))).answer
        = .ok (some k) ∧
      ∃ b, (trace w.deployments.size (made topology settings w) (calls.map .call)).attempts b
        k.number ≠ 0) ↔
    ((run w.deployments.size (made topology settings w) (calls.map .call)).deployments.get
        w.deployments.size).share.truthy = true ∧
      ∃ before handed between failed after,
        (trace w.deployments.size (made topology settings w) (calls.map .call)).Abandoned
          w.deployments.size a k before handed between failed after := by
  constructor
  · rintro ⟨hanswer, b, hbegun⟩
    obtain ⟨hshare, hshared⟩ := shared_of_begun hanswer hbegun
    exact ⟨hshare, abandoned_of_begun hshared hbegun⟩
  · rintro ⟨hshare, before, handed, between, failed, after, habandoned⟩
    have hfailed : failed ∈
        trace w.deployments.size (made topology settings w) (calls.map .call) := by
      rw [habandoned.cut]
      simp
    exact ⟨handed_out_of_abandoned hshare habandoned, a,
      History.mem_attempts_iff.mpr ⟨failed, hfailed, habandoned.begun⟩⟩

/-- A world whose blocking connections fail to close. -/
def brittle : World :=
  .initial .empty ClassPath.modules { (default : Conducts) with blocking := fun _ => .fails }

/-- A client is built, a call gets a connection, and a release fails to close it. -/
def spoiled : List Call := [.start, .handOut false, .destroy]

theorem closed_connection_handed_out : ∃ k,
    (Moment.of 0 (.call (.handOut false))
        (run 0 (made none (.live 0) brittle) (spoiled.map .call))).answer = .ok (some k) ∧
      (trace 0 (made none (.live 0) brittle) (spoiled.map .call)).attempts false k.number = 1 :=
  ⟨_, rfl, by decide⟩

end RedisLink.Deployment
