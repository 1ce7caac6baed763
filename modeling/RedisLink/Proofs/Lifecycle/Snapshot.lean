/-
RedisLink.Proofs.Lifecycle.Snapshot — a client keeps what it was built from.

A start copies what is configured into a client: its URIs, options and
resources, its source. After that nothing that is configured is looked at
again, but for two things: the timeout of a release that waits, and whether
callers share. `Isolated` says so along a history. In its life a client keeps
its source, and every connection is opened from the plan that the client had
when it was built, whatever has been written since; only the call of its class
may fail. Without the writes the life would have been the same, answer by answer
and failing calls included, as long as those two are read alike. The next start
builds from what is configured then.

The proof follows a life from the start on. The client is `Faithful` to the
world it was built in at every moment of it (`run_faithful`), and a twin life
that leaves the writes out keeps up with it (`run_others`).
-/
import RedisLink.Proofs.Lifecycle.Agreement
import RedisLink.Proofs.Lifecycle.Lifetime

namespace RedisLink.Deployment

/-! ## 1. What a client is isolated from -/

/-- What the connection was opened from that a moment answers with. -/
def Moment.opening (m : Moment) : Except Failure (Option Blueprint) :=
  m.answer.map (Option.map Connection.blueprint)

/-- The call of a class that a moment makes fails. -/
def Moment.CallFails (m : Moment) : Prop :=
  ∃ e, m.before.conducts.calls m.before.called = some e ∧ m.opening = .error e

/-- A moment opens what is planned, or the call of the class fails. -/
def Moment.Follows (plan : Except Failure Blueprint) (m : Moment) : Prop :=
  m.opening = plan.map some ∨ m.CallFails ∧ ∃ b, plan = .ok b

/-- What an operation reads live reads as it does in a world: a release that waits reads its
timeout, and a call for a connection whether callers share. -/
structure Moment.ReadsAs (n : Nat) (origin : World) (m : Moment) : Prop where
  timeout : m.operation = .call .destroyAsync →
    (m.before.deployments.get n).settings.timeout .shutdown m.before =
      (origin.deployments.get n).settings.timeout .shutdown origin
  share : m.operation.isHandOut = true →
    (m.before.deployments.get n).share.truthy = (origin.deployments.get n).share.truthy

/-- The moments of a history that are not writes. -/
def History.unwritten (h : History) : History := h.filter fun m => !m.operation.isChange

/-- The operations of a history that are not writes. -/
def History.others (h : History) : List Operation := h.unwritten.map Moment.operation

/-- A client as it is built from what is configured for a deployment in a world. -/
structure BuiltFrom (n : Nat) (w : World) (c : Client) : Prop where
  built : Built n w c
  options : ((w.deployments.get n).settings.options w).truthy = true →
    c.options = (w.deployments.get n).settings.options w
  resources : ((w.deployments.get n).settings.resources w).truthy = true →
    c.resources = (w.deployments.get n).settings.resources w
  standardOptions : ((w.deployments.get n).settings.options w).truthy = false →
    ∃ number, c.options = .options ⟨number, .standard⟩
  standardResources : ((w.deployments.get n).settings.resources w).truthy = false →
    ∃ number, c.resources = .resources ⟨number, .standard⟩

/-- A client goes by what was configured when it was built, all along a history that leads to a
world. -/
structure Isolated (n : Nat) (h : History) (w : World) : Prop where
  /-- In its life it keeps its URIs, its options and its resources. -/
  kept : ∀ {before : History} {built : Moment} {life : History}, h.Living n before built life →
    ∀ m ∈ life, (m.after.clients.get built.before.clients.size).source =
      (built.after.clients.get built.before.clients.size).source
  /-- Each connection is opened from the plan that it had when it was built. -/
  opened : ∀ {before : History} {built : Moment} {life : History}, h.Living n before built life →
    ∀ m ∈ life, ∀ a, m.operation.kind? = some a → m.Follows
      ((built.after.clients.get built.before.clients.size).plan built.after.installed a).2
  /-- It is as in any other life that begins with the same start, where calls do not fail. -/
  alike : ∀ {before : History} {built : Moment} {life : History}, h.Living n before built life →
    ∀ {ops : List Operation}, (∀ m ∈ trace n built.after ops, ¬ m.Releases) →
      ∀ {m m' a}, m ∈ life → m' ∈ trace n built.after ops → m.operation.kind? = some a →
        m'.operation.kind? = some a → m.opening = m'.opening ∨ m.CallFails ∨ m'.CallFails
  /-- Without the writes everything in its life is answered the same, and clients, connections and
  log come out the same, as long as what is read live reads as at the start. -/
  unwritten : ∀ {before : History} {built : Moment} {life : History},
    h.Living n before built life → (∀ m ∈ life, m.ReadsAs n built.after) →
      life.unwritten.map Moment.answer =
          (trace n built.after life.others).map Moment.answer ∧
        w.SameRuntime n (run n built.after life.others)
  /-- A start without a client plans it from what is configured then. -/
  restarted : ∀ m ∈ h, m.operation = .call .start → clientIn n m.before = none →
    m.answer = ((m.before.deployments.get n).plan m.before).map (fun _ => none) ∧
      ∀ c, (m.before.deployments.get n).plan m.before = .ok c →
        m.after.clients.get m.before.clients.size = c ∧ BuiltFrom n m.before c

/-! ## 2. Connections are opened from plans -/

/-- A plan is made from the source of a client. -/
theorem plan_of_source {c d : Client} (source : d.source = c.source)
    (installed : ClassPath.Installation) (a : Bool) : d.plan installed a = c.plan installed a := by
  obtain ⟨aim, options, resources, _, _⟩ := c
  obtain ⟨aim', options', resources', _, _⟩ := d
  simp only [Client.source, Prod.mk.injEq] at source
  obtain ⟨rfl, rfl, rfl⟩ := source
  rfl

theorem connect_opening (client : Nat) (a : Bool) (w : World) :
    (Client.connect client a w).1.map Connection.blueprint =
        ((w.clients.get client).plan w.installed a).2 ∨
      ∃ e b, w.conducts.calls w.called = some e ∧ (Client.connect client a w).1 = .error e ∧
        ((w.clients.get client).plan w.installed a).2 = .ok b := by
  have hconnecting := Client.connecting client a w
  generalize Client.connect client a w = result at hconnecting
  cases hconnecting with
  | unplanned lines e plan => exact .inl (by rw [plan]; rfl)
  | refused lines b e plan call => exact .inr ⟨e, b, call, rfl, by rw [plan]⟩
  | opened lines b plan call => exact .inl (by rw [plan]; rfl)

/-- A moment that answers as its client connects follows the plan of the client. -/
theorem follows_of_connect {client : Nat} {a : Bool} {m : Moment} {plan : Except Failure Blueprint}
    (hplan : ((m.before.clients.get client).plan m.before.installed a).2 = plan)
    (answer : m.answer = (Client.connect client a m.before).1.map some) : m.Follows plan := by
  unfold Moment.Follows Moment.CallFails Moment.opening
  rw [answer, ← hplan]
  obtain h | ⟨e, b, hcall, hanswer, hb⟩ := connect_opening client a m.before
  · rw [← h]
    refine .inl ?_
    rcases (Client.connect client a m.before).1 with _ | _ <;> rfl
  · rw [hanswer]
    exact .inr ⟨⟨e, hcall, rfl⟩, b, hb⟩

/-- A call for a connection gives the one that callers share, or what connecting gives. -/
theorem handOut_answer {n client : Nat} {w : World} (present : clientIn n w = some client)
    (a : Bool) : (∃ k, sharedIn n a w = some k ∧ (handOut n a w).1 = .ok k) ∨
      (handOut n a w).1 = (Client.connect client a w).1 := by
  simp only [handOut, present]
  split
  · split
    · rename_i k hk
      exact .inl ⟨k, hk, rfl⟩
    · right
      rcases Client.connect client a w with ⟨_ | _, _⟩ <;> rfl
  · exact .inr rfl

/-- A connection is opened as its client plans, if those that callers share already are. -/
theorem opening_of_present {n client : Nat} {op : Operation} {a : Bool} {w : World}
    {plan : Except Failure Blueprint} (kind : op.kind? = some a)
    (present : clientIn n w = some client)
    (hplan : ((w.clients.get client).plan w.installed a).2 = plan)
    (hshared : ∀ k, sharedIn n a w = some k → plan = .ok k.blueprint) :
    (Moment.of n op w).Follows plan := by
  cases op with
  | connect b =>
    obtain rfl : b = a := Option.some.inj kind
    refine follows_of_connect hplan ?_
    simp only [Moment.of, Operation.perform, withClient, present, map_answer]
  | call c =>
    cases c with
    | handOut b =>
      obtain rfl : b = a := Option.some.inj kind
      have hanswer : (Moment.of n (.call (.handOut b)) w).answer =
          (handOut n b w).1.map some := by
        simp only [Moment.of, Operation.perform, Call.perform, map_answer]
      obtain ⟨k, hk, hgiven⟩ | hconnect := handOut_answer present b
      · refine .inl ?_
        rw [Moment.opening, hanswer, hgiven, hshared k hk]
        rfl
      · refine follows_of_connect hplan ?_
        rw [hanswer, hconnect]
        rfl
    | _ => cases kind
  | _ => cases kind

/-- A client is in use in a world with the source it had where it came from, and the connections
that callers share are opened from the plans it had there. -/
structure Faithful (n client : Nat) (origin w : World) : Prop where
  present : clientIn n w = some client
  sources : origin.KeepsSources w
  installed : w.installed = origin.installed
  shared : ∀ a k, sharedIn n a w = some k →
    ((origin.clients.get client).plan origin.installed a).2 = .ok k.blueprint

section

variable {n client : Nat} {origin w : World} (old : client < origin.clients.size)
include old

/-- An operation answers from the plan. -/
theorem Faithful.opening (faithful : Faithful n client origin w) {op : Operation} {a : Bool}
    (kind : op.kind? = some a) : (Moment.of n op w).Follows
      ((origin.clients.get client).plan origin.installed a).2 := by
  refine opening_of_present kind faithful.present ?_ (faithful.shared a)
  rw [plan_of_source (faithful.sources.source client old), faithful.installed]

/-- The client goes on like that unless it is released. -/
theorem Faithful.step (faithful : Faithful n client origin w) (op : Operation)
    (hop : ¬ (Moment.of n op w).Releases) : Faithful n client origin (Moment.of n op w).after := by
  have effect := Effect.of_perform n op w
  refine ⟨effect.keeps_client faithful.present hop,
    faithful.sources.trans (perform_keepsSources n op w),
    (perform_installed n op w).trans faithful.installed, fun a k hk => ?_⟩
  obtain hk | ⟨hshares, -⟩ := effect.shared_cases hk
  · exact faithful.shared a k hk
  · have hkind : op.kind? = some a := by
      rw [show op = .call (.handOut a) from hshares.operation]
      rfl
    obtain hopening | ⟨⟨e, -, hfailed⟩, -⟩ := faithful.opening old hkind
    · rw [Moment.opening, hshares.answer] at hopening
      cases hplan : ((origin.clients.get client).plan origin.installed a).2 with
      | error e =>
        rw [hplan] at hopening
        cases hopening
      | ok blueprint =>
        rw [hplan] at hopening
        exact congrArg Except.ok (Option.some.inj (Except.ok.inj hopening)).symm
    · rw [Moment.opening, hshares.answer] at hfailed
      cases hfailed

/-- So it does through a life. -/
theorem run_faithful (faithful : Faithful n client origin w) (ops : List Operation) :
    (∀ m ∈ trace n w ops, ¬ m.Releases) → Faithful n client origin (run n w ops) ∧
      ∀ m ∈ trace n w ops, Faithful n client origin m.after ∧
        ∀ a, m.operation.kind? = some a →
          m.Follows ((origin.clients.get client).plan origin.installed a).2 := by
  refine trace_induction (P := fun h v => (∀ m ∈ h, ¬ m.Releases) →
    Faithful n client origin v ∧ ∀ m ∈ h, Faithful n client origin m.after ∧
      ∀ a, m.operation.kind? = some a →
        m.Follows ((origin.clients.get client).plan origin.installed a).2) ?_ ?_ ops
  · intro h v op ih hall
    obtain ⟨hv, hpast⟩ := ih fun m hm => hall m (List.mem_append_left _ hm)
    have hafter := hv.step old op (hall _ (by simp))
    refine ⟨hafter, List.forall_mem_append.mpr ⟨hpast, ?_⟩⟩
    exact List.forall_mem_singleton.mpr ⟨hafter, fun a => hv.opening old⟩
  · intro _
    exact ⟨faithful, fun m hm => by cases hm⟩

end

/-! ## 3. A life without its writes -/

/-- Without the writes everything is answered the same in a life, as long as what is read live reads
alike. -/
theorem run_others {n : Nat} {origin : World} : ∀ (ops : List Operation) {w v : World},
    w.SameRuntime n v → origin.KeepsReads n v → clientIn n w ≠ none →
    (∀ m ∈ trace n w ops, ¬ m.Releases) → (∀ m ∈ trace n w ops, m.ReadsAs n origin) →
    (History.unwritten (trace n w ops)).map Moment.answer =
        (trace n v (History.others (trace n w ops))).map Moment.answer ∧
      (run n w ops).SameRuntime n (run n v (History.others (trace n w ops)))
  | [], w, v, h, _, _, _, _ => ⟨rfl, h⟩
  | op :: rest, w, v, h, kept, present, unreleased, reads => by
    rw [trace] at unreleased reads
    obtain ⟨hfirst, unreleased⟩ := List.forall_mem_cons.mp unreleased
    obtain ⟨hreads, reads⟩ := List.forall_mem_cons.mp reads
    have present' : clientIn n (Moment.of n op w).after ≠ none := by
      obtain ⟨client, hc⟩ := Option.ne_none_iff_exists'.mp present
      rw [(Effect.of_perform n op w).keeps_client hc hfirst]
      exact Option.some_ne_none _
    rcases op.change_cases with hop | ⟨c, rfl⟩
    · have hkeep : History.unwritten (trace n w (op :: rest)) =
          Moment.of n op w :: History.unwritten (trace n (Moment.of n op w).after rest) := by
        simp [trace, History.unwritten, Moment.of, hop]
      have hboth : (op.perform n).Coincides n w v := by
        refine perform_coincides h hop present (fun hd => ?_) fun hh => ?_
        · rw [kept.settings, SettingsRef.timeout_congr kept.env kept.live]
          exact (hreads.timeout hd).symm
        · rw [kept.share]
          exact (hreads.share hh).symm
      have kept' := kept.trans (perform_proceeds hop v).reads
      obtain ⟨hanswers, hend⟩ := run_others rest hboth.after kept' present' unreleased reads
      rw [History.others, hkeep]
      simp only [List.map_cons, trace, run]
      exact ⟨congrArg₂ List.cons hboth.answer.symm hanswers, hend⟩
    · -- the twin does not take part in a write
      have hskip : History.unwritten (trace n w (.call (.change c) :: rest)) =
          History.unwritten (trace n (Moment.of n (.call (.change c)) w).after rest) := by
        simp [trace, History.unwritten, Moment.of, Operation.isChange]
      have h' : (Moment.of n (.call (.change c)) w).after.SameRuntime n v := by
        refine World.SameRuntime.trans ?_ h
        rw [Moment.of, perform_change_after]
        exact (c.make_sameRuntime n w).symm
      rw [History.others, hskip]
      exact run_others rest h' kept present' unreleased reads

/-! ## 4. A start plans from what is configured -/

/-- Only a timeout that can be read lets a client be planned. -/
theorem readable_of_plan {n : Nat} {w : World} {c : Client}
    (hplan : (w.deployments.get n).plan w = .ok c) :
    ∃ t, (w.deployments.get n).settings.timeout .command w = .ok t := by
  cases ht : (w.deployments.get n).settings.timeout .command w with
  | ok t => exact ⟨t, rfl⟩
  | error e =>
    have huri : ∀ host port, (w.deployments.get n).uri host port w = .error e := by
      intro host port
      simp only [uri, ht]
    have huris : ∃ e, (w.deployments.get n).uris w = .error e := by
      unfold uris
      simp only [huri]
      split
      · split <;> exact ⟨_, rfl⟩
      · split
        · exact ⟨_, rfl⟩
        · split
          · exact ⟨_, rfl⟩
          · split <;> exact ⟨_, rfl⟩
      · exact ⟨_, rfl⟩
    obtain ⟨e', he'⟩ := huris
    rw [plan, he'] at hplan
    cases hplan

/-- What is planned is built from what is configured. -/
theorem builtFrom_of_plan {n : Nat} {w : World} {c : Client}
    (hplan : (w.deployments.get n).plan w = .ok c) : BuiltFrom n w c := by
  obtain ⟨t, ht⟩ := readable_of_plan hplan
  have hbuilt : Built n w c := by
    obtain ⟨e, hp, -⟩ | ⟨c', hp, -, hc'⟩ := plan_cases ht
    · rw [hp] at hplan
      cases hplan
    · rw [hp] at hplan
      obtain rfl := Except.ok.inj hplan
      exact hc'
  unfold plan at hplan
  split at hplan
  · cases hplan
  · obtain rfl := Except.ok.inj hplan
    exact ⟨hbuilt, fun given => if_pos given, fun given => if_pos given,
      fun absent => ⟨_, if_neg (ne_true_of_eq_false absent)⟩,
      fun absent => ⟨_, if_neg (ne_true_of_eq_false absent)⟩⟩

/-- A start without a client does what its plan says. -/
theorem start_plans {n : Nat} {w : World} (absent : clientIn n w = none) :
    (Moment.of n (.call .start) w).answer =
        ((w.deployments.get n).plan w).map (fun _ => none) ∧
      ∀ c, (w.deployments.get n).plan w = .ok c →
        (Moment.of n (.call .start) w).after.clients.get w.clients.size = c ∧
          BuiltFrom n w c := by
  simp only [Moment.of, Operation.perform, Call.perform, map_answer, map_after]
  cases hp : (w.deployments.get n).plan w with
  | error e =>
    rw [start_of_error absent hp]
    exact ⟨rfl, fun c hc => by cases hc⟩
  | ok c =>
    obtain ⟨hok, -, hclients⟩ := start_of_plan absent hp
    rw [hok, hclients]
    refine ⟨rfl, fun c' hc' => ?_⟩
    obtain rfl := Except.ok.inj hc'
    exact ⟨Store.get_add_size _ _, builtFrom_of_plan hp⟩

/-! ## 5. Every run -/

/-- A client is faithful to the world that it was built in; its life is a run from there. -/
theorem faithful_of_living {topology : Option TopologyRef} {settings : SettingsRef} {w : World}
    {ops : List Operation} {before life : History} {built : Moment}
    (hlife : (trace w.deployments.size (made topology settings w) ops).Living
      w.deployments.size before built life) :
    ∃ rest, life = trace w.deployments.size built.after rest ∧
      run w.deployments.size (made topology settings w) ops =
        run w.deployments.size built.after rest ∧
      built.before.clients.size < built.after.clients.size ∧
      Faithful w.deployments.size built.before.clients.size built.after built.after := by
  have hbuilds := hlife.builds
  obtain ⟨first, rest, -, rfl, hrest, hrun⟩ := hlife.split
  have effect := Effect.of_perform w.deployments.size (.call .start)
    (run w.deployments.size (made topology settings w) first)
  obtain ⟨hpresent, -, hshared⟩ := effect.of_builds hbuilds
  have hnone := fun b => (hshared b).trans
    ((Numbered.of_run topology settings w first).absent hbuilds.absent b)
  refine ⟨rest, hrest, hrun, ?_, hpresent, .of_eq rfl, rfl, fun a k hk => ?_⟩
  · obtain hold | ⟨-, hsize⟩ := effect.client_cases hpresent
    · exact absurd (hold.symm.trans hbuilds.absent) (Option.some_ne_none _)
    · rw [hsize]
      exact Nat.lt_succ_self _
  · exact absurd (hk.symm.trans (hnone a)) (Option.some_ne_none _)

/-- Whatever is written, the client of a deployment goes by what it was built from. -/
theorem client_isolated (topology : Option TopologyRef) (settings : SettingsRef) (w : World)
    (ops : List Operation) :
    Isolated w.deployments.size
      (trace w.deployments.size (made topology settings w) ops)
      (run w.deployments.size (made topology settings w) ops) := by
  constructor
  · intro before built life hlife m hm
    have hall := hlife.unreleased
    obtain ⟨rest, rfl, -, hold, hbuilt⟩ := faithful_of_living hlife
    obtain ⟨-, hmoments⟩ := run_faithful hold hbuilt rest hall
    exact (hmoments m hm).1.sources.source _ hold
  · intro before built life hlife m hm a hkind
    have hall := hlife.unreleased
    obtain ⟨rest, rfl, -, hold, hbuilt⟩ := faithful_of_living hlife
    obtain ⟨-, hmoments⟩ := run_faithful hold hbuilt rest hall
    exact (hmoments m hm).2 a hkind
  · intro before built life hlife ops' hall' m m' a hm hm' hkind hkind'
    have hall := hlife.unreleased
    obtain ⟨rest, rfl, -, hold, hbuilt⟩ := faithful_of_living hlife
    obtain ⟨-, hmoments⟩ := run_faithful hold hbuilt rest hall
    obtain ⟨-, hmoments'⟩ := run_faithful hold hbuilt ops' hall'
    obtain h | ⟨hfails, -⟩ := (hmoments m hm).2 a hkind
    · obtain h' | ⟨hfails', -⟩ := (hmoments' m' hm').2 a hkind'
      · exact .inl (h.trans h'.symm)
      · exact .inr (.inr hfails')
    · exact .inr (.inl hfails)
  · intro before built life hlife hreads
    have hall := hlife.unreleased
    obtain ⟨rest, rfl, hrun, -, hbuilt⟩ := faithful_of_living hlife
    rw [hrun]
    refine run_others rest (.refl _ _) ⟨rfl, rfl, rfl, rfl⟩ ?_ hall hreads
    rw [hbuilt.present]
    exact Option.some_ne_none _
  · intro m hm hop habsent
    obtain ⟨before, after, hcut⟩ := List.append_of_mem hm
    obtain ⟨first, op, rest, -, -, rfl, -, -⟩ := trace_eq_append_cons hcut
    obtain rfl : op = .call .start := hop
    exact start_plans habsent

end RedisLink.Deployment
