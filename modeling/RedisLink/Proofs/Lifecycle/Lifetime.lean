/-
RedisLink.Proofs.Lifecycle.Lifetime — the life of a client, from the start that
builds it to the release that gives it up.

`History.Living` cuts a history where the present client was built: no release
has ended normally since. `Lifecycle` is what holds along every history. During
its life the client is one and the same, and calls that share connections get
one connection of each kind, which no call got before that life. A call that
does not share gets a connection that no call ever got before. Outside of all
lives calls for a connection are refused and change nothing.
`lifecycle_of_run` proves it of every run, with calls, writes and releases that
fail at any point.

The proof has three invariants of runs: a client and its shared connections
last until a release ends normally (`run_client`, `run_shared`); the numbers of
connections handed out are at most the number of those opened (`Numbered`); and
there is a client just when a history is living (`living_of_client`).
-/
import RedisLink.Proofs.Lifecycle.Conservation

namespace RedisLink.Deployment

/-! ## 1. Lives -/

/-- A start that builds the client. -/
structure Moment.Builds (n : Nat) (m : Moment) : Prop where
  operation : m.operation = .call .start
  answer : m.answer = .ok none
  absent : clientIn n m.before = none

/-- A release that ends normally. -/
structure Moment.Releases (m : Moment) : Prop where
  operation : m.operation.isRelease = true
  answer : m.answer = .ok none

/-- A call that hands out a connection for callers to share. -/
structure Moment.Shares (n : Nat) (a : Bool) (k : Connection) (m : Moment) : Prop where
  operation : m.operation = .call (.handOut a)
  answer : m.answer = .ok (some k)
  sharing : m.sharing n = true

/-- A history in which a client lives: what came before it was built, the moment in which it was
built, and its life so far. -/
structure History.Living (n : Nat) (h before : History) (built : Moment) (life : History) :
    Prop where
  cut : h = before ++ built :: life
  builds : built.Builds n
  unreleased : ∀ m ∈ life, ¬ m.Releases

/-- What holds of clients and shared connections along a history. -/
structure Lifecycle (n : Nat) (h : History) (w : World) : Prop where
  /-- In its life the client is one and the same. -/
  same : ∀ {before : History} {built : Moment} {life : History}, h.Living n before built life →
    clientIn n w = some built.before.clients.size ∧
      ∀ m ∈ life, clientIn n m.before = some built.before.clients.size ∧
        clientIn n m.after = some built.before.clients.size
  /-- It is another one than all before. -/
  different : ∀ {before : History} {built : Moment} {life : History}, h.Living n before built life →
    ∀ m ∈ before, clientIn n m.after ≠ some built.before.clients.size
  /-- In one life, calls that share get the same connection of a kind. -/
  shared : ∀ {before : History} {built : Moment} {life : History}, h.Living n before built life →
    ∀ {a m m' k k'}, m ∈ life → m' ∈ life → m.Shares n a k → m'.Shares n a k' → k = k'
  /-- No call has got it before that life. -/
  new : ∀ {before : History} {built : Moment} {life : History}, h.Living n before built life →
    ∀ {a m m' k k'}, m ∈ life → m.Shares n a k → m' ∈ before → m'.answer = .ok (some k') →
      k'.number ≠ k.number
  /-- A call that does not share gets a connection that no call has got before. -/
  unshared : ∀ {before : History} {m : Moment} {after : History} {a k}, h = before ++ m :: after →
    m.operation = .call (.handOut a) → m.sharing n = false → m.answer = .ok (some k) →
      ∀ {m' k'}, m' ∈ before → m'.answer = .ok (some k') → k'.number ≠ k.number
  /-- Where no client lives, calls for a connection are refused and open nothing. -/
  outside : ∀ {before : History} {m : Moment} {after : History} {a}, h = before ++ m :: after →
    (∀ b built life, ¬ before.Living n b built life) → m.operation = .call (.handOut a) →
      m.answer = .error .notInitialized ∧ m.after = m.before

/-! ## 2. What a moment does to a life -/

section

variable {n : Nat} {m : Moment}

/-- Only a release that ends normally gives the client up. -/
theorem Effect.keeps_client (effect : Effect n m) {c : Nat} (present : clientIn n m.before = some c)
    (hm : ¬ m.Releases) : clientIn n m.after = some c := by
  cases effect with
  | idle same => exact (same.client n).trans present
  | reused a k _ _ _ _ _ same => rw [same, present]
  | built c' _ _ absent => exact absurd (present.symm.trans absent) (Option.some_ne_none _)
  | opened client a k _ _ present' kept => rw [kept, ← present', present]
  | closed client _ _ _ present' kept => rw [kept, ← present', present]
  | released client operation answer => exact absurd ⟨operation, answer⟩ hm

/-- After a release that ends normally there is no client. -/
theorem Effect.absent_of_releases (effect : Effect n m) (hm : m.Releases) :
    clientIn n m.after = none := by
  obtain ⟨hrel, hanswer⟩ := hm
  cases effect with
  | idle same _ released => exact (same.client n).trans (released hrel hanswer)
  | reused a k operation => simp [operation, Operation.isRelease] at hrel
  | built c operation => simp [operation, Operation.isRelease] at hrel
  | opened client a k _ answer => simp [answer] at hanswer
  | closed client _ failed =>
    obtain ⟨e, he⟩ := failed hrel
    simp [he] at hanswer
  | released client _ _ _ absent => exact absent

/-- Only a start builds a client. -/
theorem Effect.builds_of_present (effect : Effect n m) (absent : clientIn n m.before = none)
    (hafter : clientIn n m.after ≠ none) : m.Builds n := by
  cases effect with
  | idle same => exact absurd ((same.client n).trans absent) hafter
  | reused a k _ _ _ present => exact absurd absent present
  | built c operation answer => exact ⟨operation, answer, absent⟩
  | opened client a k _ _ present =>
    exact absurd (present.symm.trans absent) (Option.some_ne_none _)
  | closed client _ _ _ present => exact absurd (present.symm.trans absent) (Option.some_ne_none _)
  | released client _ _ present => exact absurd (present.symm.trans absent) (Option.some_ne_none _)

/-- A start that builds a client gives it the next number, opens nothing and shares nothing. -/
theorem Effect.of_builds (effect : Effect n m) (hm : m.Builds n) :
    clientIn n m.after = some m.before.clients.size ∧ m.after.opened = m.before.opened ∧
      ∀ a, sharedIn n a m.after = sharedIn n a m.before := by
  obtain ⟨hop, hanswer, habsent⟩ := hm
  cases effect with
  | idle same _ _ started => exact absurd habsent (started hop hanswer)
  | reused a k _ _ _ present => exact absurd habsent present
  | built c _ _ _ present _ _ opened _ shared => exact ⟨present, opened, shared⟩
  | opened client a k _ _ present =>
    exact absurd (present.symm.trans habsent) (Option.some_ne_none _)
  | closed client _ _ _ present => exact absurd (present.symm.trans habsent) (Option.some_ne_none _)
  | released client _ _ present => exact absurd (present.symm.trans habsent) (Option.some_ne_none _)

/-- A shared connection stays until a release ends normally. -/
theorem Effect.keeps_shared (effect : Effect n m) {a : Bool} {k : Connection}
    (hk : sharedIn n a m.before = some k) (hm : ¬ m.Releases) : sharedIn n a m.after = some k := by
  cases effect with
  | idle same => exact (same.shared n a).trans hk
  | reused b l _ _ _ _ _ same => rw [same, hk]
  | built c _ _ _ _ _ _ _ _ shared => rw [shared, hk]
  | opened client b l _ _ _ _ _ vacant shared =>
    rw [shared, if_neg, hk]
    rintro ⟨hsharing, rfl⟩
    exact absurd (hk.symm.trans (vacant hsharing)) (Option.some_ne_none _)
  | closed client _ _ _ _ _ shared => rw [shared, hk]
  | released client operation answer => exact absurd ⟨operation, answer⟩ hm

/-- What a call hands out for callers to share is shared from then on. -/
theorem Effect.shared_of_shares (effect : Effect n m) {a : Bool} {k : Connection}
    (hm : m.Shares n a k) : sharedIn n a m.after = some k := by
  obtain ⟨hop, hanswer, hsharing⟩ := hm
  cases effect with
  | idle _ silent => exact absurd hanswer (silent k)
  | reused b l operation answer _ _ shared same =>
    obtain rfl : b = a := by simpa [operation] using hop
    obtain rfl : l = k := by simpa [answer] using hanswer
    rw [same, shared]
  | built c operation => simp [operation] at hop
  | opened client b l kind answer _ _ _ _ shared =>
    obtain rfl : b = a := by simpa [hop, Operation.kind?] using kind.symm
    obtain rfl : l = k := by simpa [answer] using hanswer
    rw [shared, if_pos ⟨hsharing, rfl⟩]
  | closed client silent => exact absurd hanswer (silent k)
  | released client _ answer => simp [answer] at hanswer

/-- A call hands out a connection for callers to share only from a client, which stays. -/
theorem Effect.present_of_shares (effect : Effect n m) {a : Bool} {k : Connection}
    (hm : m.Shares n a k) : ∃ client, clientIn n m.after = some client := by
  obtain ⟨hop, hanswer, -⟩ := hm
  cases effect with
  | idle _ silent => exact absurd hanswer (silent k)
  | reused b l _ _ _ present _ same => exact Option.ne_none_iff_exists'.mp (same ▸ present)
  | built c operation => simp [operation] at hop
  | opened client b l _ _ _ kept => exact ⟨client, kept⟩
  | closed client silent => exact absurd hanswer (silent k)
  | released client _ answer => simp [answer] at hanswer

/-- A call that does not share opens a connection. -/
theorem Effect.opened_of_unshared (effect : Effect n m) {a : Bool} {k : Connection}
    (hop : m.operation = .call (.handOut a)) (hsharing : m.sharing n = false)
    (hanswer : m.answer = .ok (some k)) : k.number = m.before.opened + 1 := by
  cases effect with
  | idle _ silent => exact absurd hanswer (silent k)
  | reused b l _ _ sharing => simp [sharing] at hsharing
  | built c operation => simp [operation] at hop
  | opened client b l _ answer _ _ opens =>
    obtain rfl : l = k := by simpa [answer] using hanswer
    exact opens.number
  | closed client silent => exact absurd hanswer (silent k)
  | released client _ answer => simp [answer] at hanswer

/-- A connection is shared after a moment because it was before, or because it has just been
opened. -/
theorem Effect.shared_cases (effect : Effect n m) {a : Bool} {k : Connection}
    (hk : sharedIn n a m.after = some k) :
    sharedIn n a m.before = some k ∨ m.Shares n a k ∧
      ∃ client, clientIn n m.before = some client ∧ m.before.Opens client a k m.after := by
  cases effect with
  | idle same => exact .inl ((same.shared n a).symm.trans hk)
  | reused b l _ _ _ _ _ same => exact .inl (by rw [← same, hk])
  | built c _ _ _ _ _ _ _ _ shared => exact .inl (by rw [← shared, hk])
  | opened client b l kind answer present _ opens _ shared =>
    rw [shared] at hk
    split at hk
    · rename_i hb
      obtain ⟨hsharing, rfl⟩ := hb
      obtain rfl : l = k := by simpa using hk
      refine .inr ⟨⟨?_, answer, hsharing⟩, client, present, opens⟩
      -- of the operations that open connections only calls to the deployment share them
      cases hop : m.operation with
      | call c => cases c <;> simp_all [Operation.kind?]
      | _ => simp_all [Moment.sharing, Operation.isHandOut]
    · exact .inl hk
  | closed client _ _ _ _ _ shared => exact .inl (by rw [← shared, hk])
  | released client _ _ _ _ shared =>
    exact absurd (hk.symm.trans (shared a)) (Option.some_ne_none _)

end

/-! ## 3. What lasts through a life -/

/-- A client stays as long as no release ends normally. -/
theorem run_client {n c : Nat} {w : World} (present : clientIn n w = some c)
    (ops : List Operation) :
    (∀ m ∈ trace n w ops, ¬ m.Releases) → clientIn n (run n w ops) = some c ∧
      ∀ m ∈ trace n w ops, clientIn n m.before = some c ∧ clientIn n m.after = some c := by
  refine trace_induction (P := fun h v => (∀ m ∈ h, ¬ m.Releases) → clientIn n v = some c ∧
    ∀ m ∈ h, clientIn n m.before = some c ∧ clientIn n m.after = some c) ?_ ?_ ops
  · intro h v op ih hall
    obtain ⟨hv, hpast⟩ := ih fun m hm => hall m (List.mem_append_left _ hm)
    have hlast : ¬ (Moment.of n op v).Releases := hall _ (by simp)
    have hafter := (Effect.of_perform n op v).keeps_client hv hlast
    refine ⟨hafter, List.forall_mem_append.mpr ⟨hpast, ?_⟩⟩
    exact List.forall_mem_singleton.mpr ⟨hv, hafter⟩
  · intro _
    exact ⟨present, fun m hm => by cases hm⟩

/-- A connection stays shared as long as no release ends normally. -/
theorem run_kept {n : Nat} {a : Bool} {k : Connection} {w : World} (hk : sharedIn n a w = some k)
    (ops : List Operation) :
    (∀ m ∈ trace n w ops, ¬ m.Releases) → sharedIn n a (run n w ops) = some k := by
  refine trace_induction
    (P := fun h v => (∀ m ∈ h, ¬ m.Releases) → sharedIn n a v = some k) ?_ (fun _ => hk) ops
  intro h v op ih hall
  have hv := ih fun m hm => hall m (List.mem_append_left _ hm)
  exact (Effect.of_perform n op v).keeps_shared hv (hall _ (by simp))

/-- What a call has handed out for callers to share is shared as long as no release ends
normally. -/
theorem run_shared {n : Nat} {a : Bool} {k : Connection} {w : World} {ops : List Operation}
    (hall : ∀ m ∈ trace n w ops, ¬ m.Releases) {m : Moment} (hm : m ∈ trace n w ops)
    (hk : m.Shares n a k) : sharedIn n a (run n w ops) = some k := by
  obtain ⟨before, after, hcut⟩ := List.append_of_mem hm
  obtain ⟨first, op, rest, -, -, rfl, rfl, hrun⟩ := trace_eq_append_cons hcut
  rw [hrun]
  refine run_kept ((Effect.of_perform n op _).shared_of_shares hk) rest fun r hr => ?_
  exact hall r (by rw [hcut]; simp [hr])

/-- A connection that is shared has been opened since nothing was. -/
theorem run_new {n : Nat} {w : World} (hnone : ∀ a, sharedIn n a w = none) (ops : List Operation) :
    w.opened ≤ (run n w ops).opened ∧
      ∀ a k, sharedIn n a (run n w ops) = some k → w.opened < k.number := by
  refine trace_induction (P := fun _ v => w.opened ≤ v.opened ∧
    ∀ a k, sharedIn n a v = some k → w.opened < k.number) ?_ ?_ ops
  · rintro h v op ⟨hle, hshared⟩
    have effect := Effect.of_perform n op v
    refine ⟨Nat.le_trans hle effect.opened_le, fun a k hk => ?_⟩
    rcases effect.shared_cases hk with hk | ⟨-, client, -, hopens⟩
    · exact hshared a k hk
    · have hnumber : k.number = v.opened + 1 := hopens.number
      omega
  · exact ⟨Nat.le_refl _, fun a k hk => absurd (hk.symm.trans (hnone a)) (Option.some_ne_none _)⟩

/-! ## 4. Numbers that have been handed out -/

/-- No number is beyond that of the connections opened; without a client nothing is shared. -/
structure Numbered (n : Nat) (h : History) (w : World) : Prop where
  absent : clientIn n w = none → ∀ a, sharedIn n a w = none
  shared : ∀ a k, sharedIn n a w = some k → k.number ≤ w.opened
  answers : ∀ m ∈ h, ∀ k, m.answer = .ok (some k) → k.number ≤ w.opened

/-- Without a client nothing is shared after a moment either. -/
theorem Effect.absent_shared {n : Nat} {m : Moment} (effect : Effect n m)
    (absent : clientIn n m.before = none → ∀ a, sharedIn n a m.before = none)
    (hafter : clientIn n m.after = none) (a : Bool) : sharedIn n a m.after = none := by
  cases effect with
  | idle same => exact (same.shared n a).trans (absent ((same.client n).symm.trans hafter) a)
  | reused b k _ _ _ present _ same => exact absurd (same ▸ hafter) present
  | built c _ _ _ present => exact absurd (present.symm.trans hafter) (Option.some_ne_none _)
  | opened client b k _ _ _ kept => exact absurd (kept.symm.trans hafter) (Option.some_ne_none _)
  | closed client _ _ _ _ kept => exact absurd (kept.symm.trans hafter) (Option.some_ne_none _)
  | released client _ _ _ _ shared => exact shared a

/-- What a moment hands out was shared before or has just been opened. -/
theorem Effect.answer_cases {n : Nat} {m : Moment} (effect : Effect n m) {k : Connection}
    (hk : m.answer = .ok (some k)) :
    (∃ a, sharedIn n a m.before = some k) ∨ k.number = m.after.opened := by
  cases effect with
  | idle _ silent => exact absurd hk (silent k)
  | reused a l _ answer _ _ shared =>
    obtain rfl : l = k := by simpa [answer] using hk
    exact .inl ⟨a, shared⟩
  | built c _ answer => simp [answer] at hk
  | opened client a l _ answer _ _ opens =>
    obtain rfl : l = k := by simpa [answer] using hk
    exact .inr (opens.number.trans opens.opened.symm)
  | closed client silent => exact absurd hk (silent k)
  | released client _ answer => simp [answer] at hk

theorem Numbered.step {n : Nat} {h : History} {m : Moment} (N : Numbered n h m.before)
    (effect : Effect n m) : Numbered n (h ++ [m]) m.after := by
  have hle := effect.opened_le
  constructor
  · exact effect.absent_shared N.absent
  · intro a k hk
    rcases effect.shared_cases hk with hk | ⟨-, client, -, hopens⟩
    · exact Nat.le_trans (N.shared a k hk) hle
    · exact Nat.le_of_eq (hopens.number.trans hopens.opened.symm)
  · refine List.forall_mem_append.mpr
      ⟨fun m' hm' k hk => ?_, List.forall_mem_singleton.mpr fun k hk => ?_⟩
    · exact Nat.le_trans (N.answers m' hm' k hk) hle
    · rcases effect.answer_cases hk with ⟨a, hshared⟩ | hnew
      · exact Nat.le_trans (N.shared a k hshared) hle
      · exact Nat.le_of_eq hnew

theorem Numbered.of_run (topology : Option TopologyRef) (settings : SettingsRef) (w : World)
    (ops : List Operation) :
    Numbered w.deployments.size (trace w.deployments.size (made topology settings w) ops)
      (run w.deployments.size (made topology settings w) ops) := by
  refine trace_induction (fun h v op N => Numbered.step N (Effect.of_perform _ op v)) ?_ ops
  obtain ⟨-, hshared⟩ := made_idle topology settings w
  constructor
  · exact fun _ => hshared
  · intro a k hk
    exact absurd (hk.symm.trans (hshared a)) (Option.some_ne_none _)
  · intro m hm
    cases hm

/-! ## 5. There is a client just when a history is living -/

/-- A moment that is not a release that ends normally goes on with the life. -/
theorem History.Living.extend {n : Nat} {h before life : History} {built m : Moment}
    (hlife : h.Living n before built life) (hm : ¬ m.Releases) :
    (h ++ [m]).Living n before built (life ++ [m]) := by
  refine ⟨?_, hlife.builds, ?_⟩
  · rw [hlife.cut, List.append_assoc, List.cons_append]
  · exact List.forall_mem_append.mpr ⟨hlife.unreleased, List.forall_mem_singleton.mpr hm⟩

/-- A client is alive since the moment in which it was built. -/
theorem living_of_client {n : Nat} {w : World} (habsent : clientIn n w = none)
    (ops : List Operation) : clientIn n (run n w ops) ≠ none →
      ∃ before built life, (trace n w ops).Living n before built life := by
  refine trace_induction (P := fun h v => clientIn n v ≠ none →
    ∃ before built life, History.Living n h before built life) ?_ ?_ ops
  · intro h v op ih hafter
    have effect := Effect.of_perform n op v
    cases hv : clientIn n v with
    | none =>
      have hbuilds := effect.builds_of_present hv hafter
      exact ⟨h, _, [], rfl, hbuilds, fun m hm => by cases hm⟩
    | some c =>
      obtain ⟨before, built, life, hlife⟩ := ih (by rw [hv]; exact Option.some_ne_none _)
      exact ⟨before, built, _, hlife.extend fun hrel => hafter (effect.absent_of_releases hrel)⟩
  · exact fun h => absurd habsent h

/-- A life cut out of a run. -/
theorem History.Living.split {n : Nat} {w : World} {ops : List Operation} {before life : History}
    {built : Moment} (h : (trace n w ops).Living n before built life) :
    ∃ first rest, before = trace n w first ∧ built = Moment.of n (.call .start) (run n w first) ∧
      life = trace n built.after rest ∧ run n w ops = run n built.after rest := by
  obtain ⟨first, op, rest, -, hbefore, hbuilt, hlife, hrun⟩ := trace_eq_append_cons h.cut
  have hop : op = .call .start := by
    have := h.builds.operation
    rwa [hbuilt] at this
  subst hop
  exact ⟨first, rest, hbefore, hbuilt, hlife, hrun⟩

/-! ## 6. Every run -/

/-- Without a client a call for a connection is refused. -/
theorem handOut_refused {n : Nat} {w : World} (habsent : clientIn n w = none) (a : Bool) :
    Moment.of n (.call (.handOut a)) w =
      ⟨w, .call (.handOut a), .error .notInitialized, w⟩ :=
  Moment.of_eq (by simp [Operation.perform, Call.perform, Act.map, handOut, habsent])

/-- Clients and shared connections live as they should in every run of a deployment. -/
theorem lifecycle_of_run (topology : Option TopologyRef) (settings : SettingsRef) (w : World)
    (ops : List Operation) :
    Lifecycle w.deployments.size
      (trace w.deployments.size (made topology settings w) ops)
      (run w.deployments.size (made topology settings w) ops) := by
  constructor
  · intro before built life hlife
    have hall := hlife.unreleased
    have hbuilds := hlife.builds
    obtain ⟨first, rest, -, rfl, rfl, hrun⟩ := hlife.split
    obtain ⟨hpresent, -, -⟩ := (Effect.of_perform _ _ _).of_builds hbuilds
    rw [hrun]
    exact run_client hpresent rest hall
  · intro before built life hlife m hm hsame
    obtain ⟨first, rest, rfl, rfl, -, -⟩ := hlife.split
    obtain ⟨-, hlt⟩ := (Ledger.of_run topology settings w first).custody.past m hm _ hsame
    exact Nat.lt_irrefl _ hlt
  · intro before built life hlife a m m' k k' hm hm' hk hk'
    have hall := hlife.unreleased
    obtain ⟨first, rest, -, -, rfl, -⟩ := hlife.split
    have hshared := run_shared hall hm hk
    rw [run_shared hall hm' hk', Option.some.injEq] at hshared
    exact hshared.symm
  · intro before built life hlife a m m' k k' hm hk hm' hk'
    have hall := hlife.unreleased
    have hbuilds := hlife.builds
    obtain ⟨first, rest, rfl, rfl, rfl, -⟩ := hlife.split
    obtain ⟨-, hopened, hshared⟩ := (Effect.of_perform _ _ _).of_builds hbuilds
    -- at the start nothing was shared, and all numbers before were at most that of the opened
    have N := Numbered.of_run topology settings w first
    have hnone := fun b => (hshared b).trans (N.absent hbuilds.absent b)
    have hnew := (run_new hnone rest).2 a k (run_shared hall hm hk)
    have hold : k'.number ≤ _ := N.answers m' hm' k' hk'
    rw [hopened] at hnew
    exact Nat.ne_of_lt (Nat.lt_of_le_of_lt hold hnew)
  · intro before m after a k hcut hop hsharing hk m' k' hm' hk'
    obtain ⟨first, op, rest, -, rfl, rfl, -, -⟩ := trace_eq_append_cons hcut
    have hnew := (Effect.of_perform _ op _).opened_of_unshared hop hsharing hk
    have hold := (Numbered.of_run topology settings w first).answers m' hm' k' hk'
    rw [hnew]
    exact Nat.ne_of_lt (Nat.lt_succ_of_le hold)
  · intro before m after a hcut hdead hop
    obtain ⟨first, op, rest, -, rfl, rfl, -, -⟩ := trace_eq_append_cons hcut
    obtain rfl : op = .call (.handOut a) := hop
    obtain ⟨hfresh, -⟩ := made_idle topology settings w
    have habsent : clientIn w.deployments.size
        (run w.deployments.size (made topology settings w) first) = none := by
      by_contra hpresent
      obtain ⟨b, built, life, hlife⟩ := living_of_client hfresh first hpresent
      exact hdead b built life hlife
    have hrefused := handOut_refused habsent a
    exact ⟨congrArg Moment.answer hrefused, congrArg Moment.after hrefused⟩

end RedisLink.Deployment
