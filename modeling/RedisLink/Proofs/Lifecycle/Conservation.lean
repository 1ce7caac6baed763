/-
RedisLink.Proofs.Lifecycle.Conservation — no connection is lost and none is
closed twice.

`Conserved` is the balance of a history: each connection that a client of the
deployment has opened is tracked and untouched, or its closing has begun exactly
once and it is tracked no more; the counts of open connections are what has been
opened less what has been begun with; and a client is given up only when
closing has begun for everything it opened. `connections_conserved` says that
the balance is right after every run, whatever connections do when they are
closed.

The proof keeps a `Ledger`. Its one equation, `balanced`, is about all clients
at once: what the present client tracks, followed by all attempts to close, is
a permutation of all openings. A client that has been given up tracks nothing
(`idle`), so nothing else can be tracked.
-/
import Mathlib.Data.List.Nodup
import RedisLink.Proofs.Lifecycle.Effect

namespace RedisLink.Deployment

/-! ## 1. The books of a history -/

/-- A connection that has been opened: by which client, of which kind, and its number. -/
structure Opening where
  client : Nat
  asynchronous : Bool
  number : Nat
deriving DecidableEq

/-- The events of a moment. -/
def Moment.events (m : Moment) : List Event := m.after.events.drop m.before.events.length

/-- The connections opened in a moment; they are opened by the client that the deployment has, and
of the kind that the operation opens. -/
def Moment.openings (n : Nat) (m : Moment) : List Opening :=
  match clientIn n m.before, m.operation.kind? with
  | some client, some a => (Event.openings m.events).map fun number => ⟨client, a, number⟩
  | _, _ => []

namespace History

/-- The events of a history. -/
def events (h : History) : List Event := h.flatMap Moment.events

/-- The connections opened in a history. -/
def openings (h : History) (n : Nat) : List Opening := h.flatMap (Moment.openings n)

/-- How often closing a connection of a kind has begun. -/
def attempts (h : History) (a : Bool) (number : Nat) : Nat :=
  (Event.attempts a h.events).count number

/-- The numbers of the connections of a kind that a client has opened. -/
def openedBy (h : History) (n client : Nat) (a : Bool) : List Nat :=
  ((h.openings n).filter fun o => o.client = client ∧ o.asynchronous = a).map Opening.number

/-- The attempts to close connections of a kind that a client has opened, by their numbers. -/
def attemptsOn (h : History) (n client : Nat) (a : Bool) : List Nat :=
  (Event.attempts a h.events).filter (· ∈ h.openedBy n client a)

@[simp] theorem events_append (h h' : History) : events (h ++ h') = h.events ++ h'.events :=
  List.flatMap_append

@[simp] theorem openings_append (h h' : History) (n : Nat) :
    openings (h ++ h') n = h.openings n ++ h'.openings n :=
  List.flatMap_append

@[simp] theorem events_singleton (m : Moment) : events [m] = m.events := by
  simp [events]

@[simp] theorem openings_singleton (m : Moment) (n : Nat) : openings [m] n = m.openings n := by
  simp [openings]

theorem mem_openedBy {h : History} {n client : Nat} {a : Bool} {k : Nat} :
    k ∈ h.openedBy n client a ↔ ⟨client, a, k⟩ ∈ h.openings n := by
  constructor
  · intro hk
    obtain ⟨o, ho, rfl⟩ := List.mem_map.mp hk
    obtain ⟨hmem, hof⟩ := List.mem_filter.mp ho
    simp only [decide_eq_true_eq] at hof
    obtain ⟨rfl, rfl⟩ := hof
    exact hmem
  · intro ho
    exact List.mem_map.mpr ⟨_, List.mem_filter.mpr ⟨ho, by simp⟩, rfl⟩

end History

/-- The books of a history balance in the world it ends in. -/
structure Conserved (n : Nat) (h : History) (w : World) : Prop where
  /-- Every event of opening is on the books of a client. -/
  complete : (h.openings n).map Opening.number = Event.openings h.events
  /-- No number is given to two connections. -/
  distinct : ((h.openings n).map Opening.number).Nodup
  /-- A connection is never closed in the way of the other kind. It is tracked and its closing has
  not begun, or it is not tracked and its closing has begun once. -/
  once : ∀ o ∈ h.openings n,
    h.attempts (!o.asynchronous) o.number = 0 ∧
      (o.number ∈ (w.clients.get o.client).tracked o.asynchronous ∧
          h.attempts o.asynchronous o.number = 0 ∨
        o.number ∉ (w.clients.get o.client).tracked o.asynchronous ∧
          h.attempts o.asynchronous o.number = 1)
  /-- The number of open connections of each client that the deployment has had. -/
  openCount : ∀ m ∈ h, ∀ c, clientIn n m.after = some c →
    (w.clients.get c).openCount + ((h.attemptsOn n c false).length + (h.attemptsOn n c true).length)
      = (h.openedBy n c false).length + (h.openedBy n c true).length
  openAsyncCount : ∀ m ∈ h, ∀ c, clientIn n m.after = some c →
    (w.clients.get c).openAsyncCount + (h.attemptsOn n c true).length
      = (h.openedBy n c true).length
  /-- When a client is given up, closing has begun once for each connection it has opened. -/
  settled : ∀ before m after c, h = before ++ m :: after →
    clientIn n m.before = some c → clientIn n m.after = none →
      m.operation.isRelease = true ∧
        ∀ a, ∀ k ∈ History.openedBy (before ++ [m]) n c a,
          History.attempts (before ++ [m]) a k = 1
  /-- A release that cannot wait is refused while asynchronous connections are open, and changes
  nothing. -/
  refused : ∀ m ∈ h, ∀ c, m.operation = .call .destroy → clientIn n m.before = some c →
    (m.before.clients.get c).openAsyncCount ≠ 0 →
      m.answer = .error (.asyncStillOpen (m.before.clients.get c).openAsyncCount) ∧
        m.after = m.before

/-! ## 2. The ledger -/

/-- The numbers of the connections of a kind that the present client tracks. -/
def held (n : Nat) (a : Bool) (w : World) : List Nat :=
  match clientIn n w with
  | some c => (w.clients.get c).tracked a
  | none => []

/-- The numbers of all connections of a kind that have been opened. -/
def History.allOpened (h : History) (n : Nat) (a : Bool) : List Nat :=
  ((h.openings n).filter fun o => o.asynchronous = a).map Opening.number

/-- The clients of a deployment have numbers from `base`; only the present one tracks anything. -/
structure Custody (n base : Nat) (h : History) (w : World) : Prop where
  grown : base ≤ w.clients.size
  present : ∀ c, clientIn n w = some c → base ≤ c ∧ c < w.clients.size
  past : ∀ m ∈ h, ∀ c, clientIn n m.after = some c → base ≤ c ∧ c < w.clients.size
  idle : ∀ c, base ≤ c → c < w.clients.size → clientIn n w ≠ some c →
    ∀ a, (w.clients.get c).tracked a = []

/-- The invariant of runs. -/
structure Ledger (n base : Nat) (h : History) (w : World) : Prop where
  custody : Custody n base h w
  complete : (h.openings n).map Opening.number = Event.openings h.events
  distinct : ((h.openings n).map Opening.number).Nodup
  bounded : ∀ o ∈ h.openings n, o.number ≤ w.opened ∧ base ≤ o.client ∧ o.client < w.clients.size
  balanced : ∀ a, (held n a w ++ Event.attempts a h.events).Perm (h.allOpened n a)
  owned : ∀ c, clientIn n w = some c → ∀ a, ∀ k ∈ (w.clients.get c).tracked a,
    ⟨c, a, k⟩ ∈ h.openings n

/-! ## 3. What a moment adds to the books -/

theorem Moment.events_eq {m : Moment} {evs : List Event}
    (h : m.after.events = m.before.events ++ evs) : m.events = evs := by
  rw [Moment.events, h, List.drop_left]

/-- A moment in which no event opens a connection adds nothing to the books. -/
theorem Moment.openings_nil {n : Nat} {m : Moment} (h : Event.openings m.events = []) :
    m.openings n = [] := by
  unfold Moment.openings
  split
  · rw [h]; rfl
  · rfl

/-- A moment that opens a connection adds that connection. -/
theorem Moment.openings_of_opens {n client : Nat} {a : Bool} {k : Connection} {m : Moment}
    (present : clientIn n m.before = some client) (kind : m.operation.kind? = some a)
    (opens : m.before.Opens client a k m.after) : m.openings n = [⟨client, a, k.number⟩] := by
  unfold Moment.openings
  rw [present, kind, Moment.events_eq opens.events]
  rfl

namespace History

@[simp] theorem allOpened_append (h h' : History) (n : Nat) (a : Bool) :
    allOpened (h ++ h') n a = h.allOpened n a ++ h'.allOpened n a := by
  simp [allOpened]

theorem allOpened_nil {m : Moment} {n : Nat} (h : m.openings n = []) (a : Bool) :
    allOpened [m] n a = [] := by
  simp [allOpened, h]

end History

theorem held_eq {n c : Nat} {w : World} (h : clientIn n w = some c) (a : Bool) :
    held n a w = (w.clients.get c).tracked a := by
  simp [held, h]

/-! ## 4. Every moment keeps the ledger -/

section

variable {n base : Nat} {h : History} {m : Moment}

theorem Custody.step (C : Custody n base h m.before) (effect : Effect n m) :
    Custody n base (h ++ [m]) m.after := by
  have hle := effect.size_le
  have hpresent : ∀ c, clientIn n m.after = some c → base ≤ c ∧ c < m.after.clients.size := by
    intro c hc
    rcases effect.client_cases hc with hbefore | ⟨hnew, hsize⟩
    · have := C.present c hbefore
      omega
    · have := C.grown
      omega
  refine ⟨Nat.le_trans C.grown hle, hpresent, ?_, ?_⟩
  · refine List.forall_mem_append.mpr ⟨?_, List.forall_mem_singleton.mpr hpresent⟩
    intro m' hm' c hc
    have := C.past m' hm' c hc
    omega
  · intro c hbase hlt hne a
    cases effect with
    | idle same =>
      rw [same.clients] at hlt ⊢
      exact C.idle c hbase hlt (fun hc => hne ((same.client n).trans hc)) a
    | reused b k _ _ _ _ _ same =>
      rw [same] at hlt hne ⊢
      exact C.idle c hbase hlt hne a
    | built d _ _ absent present clients =>
      have hc : c ≠ m.before.clients.size := fun hc => hne (hc ▸ present)
      rw [clients, Store.size_add] at hlt
      rw [clients, Store.get_add_of_ne _ _ hc]
      exact C.idle c hbase (by omega) (absent ▸ (Option.some_ne_none c).symm) a
    | opened client b k _ _ present kept opens =>
      have hc : c ≠ client := fun hc => hne (hc ▸ kept)
      rw [opens.clients, Store.size_set] at hlt
      rw [opens.clients, Store.get_set_of_ne _ _ hc]
      exact C.idle c hbase hlt (fun h => hc (Option.some.inj (h.symm.trans present))) a
    | closed client _ _ _ present kept _ closes =>
      have hc : c ≠ client := fun hc => hne (hc ▸ kept)
      rw [closes.size] at hlt
      rw [closes.others c hc]
      exact C.idle c hbase hlt (fun h => hc (Option.some.inj (h.symm.trans present))) a
    | released client _ _ present _ _ closes untracked =>
      by_cases hc : c = client
      · rw [hc]
        exact untracked a
      · rw [closes.size] at hlt
        rw [closes.others c hc]
        exact C.idle c hbase hlt (fun h => hc (Option.some.inj (h.symm.trans present))) a

theorem Ledger.bounded_step (L : Ledger n base h m.before) (effect : Effect n m) :
    ∀ o ∈ h.openings n,
      o.number ≤ m.after.opened ∧ base ≤ o.client ∧ o.client < m.after.clients.size := by
  intro o ho
  have := L.bounded o ho
  have := effect.opened_le
  have := effect.size_le
  omega

/-- A moment that opens and closes nothing. -/
theorem Ledger.quiet (L : Ledger n base h m.before) (effect : Effect n m)
    (events : m.after.events = m.before.events)
    (hheld : ∀ a, held n a m.after = held n a m.before)
    (owned : ∀ c, clientIn n m.after = some c → ∀ a, ∀ k ∈ (m.after.clients.get c).tracked a,
      ⟨c, a, k⟩ ∈ h.openings n) : Ledger n base (h ++ [m]) m.after := by
  have hev : m.events = [] := Moment.events_eq (by rw [events, List.append_nil])
  have hopen : m.openings n = [] := Moment.openings_nil (by rw [hev]; rfl)
  have hsame : History.openings (h ++ [m]) n = h.openings n := by
    rw [History.openings_append, History.openings_singleton, hopen, List.append_nil]
  refine ⟨L.custody.step effect, ?_, ?_, ?_, ?_, ?_⟩
  · rw [hsame, L.complete, History.events_append, History.events_singleton, hev, List.append_nil]
  · rw [hsame]
    exact L.distinct
  · rw [hsame]
    exact L.bounded_step effect
  · intro a
    rw [hheld, History.events_append, History.events_singleton, hev, List.append_nil,
      History.allOpened_append, History.allOpened_nil hopen, List.append_nil]
    exact L.balanced a
  · rw [hsame]
    exact owned

theorem Ledger.same (L : Ledger n base h m.before) (effect : Effect n m)
    (same : m.before.SameConnections m.after) : Ledger n base (h ++ [m]) m.after := by
  have hclient : clientIn n m.after = clientIn n m.before := same.client n
  refine L.quiet effect same.events (fun a => ?_) ?_
  · simp only [held, hclient, same.clients]
  · rw [hclient, same.clients]
    exact L.owned

/-- The number of a connection that has just been opened is beyond all that have been given. -/
theorem Ledger.distinct_opens (L : Ledger n base h m.before) {client : Nat} {a : Bool}
    {k : Connection} (opens : m.before.Opens client a k m.after) :
    ((h.openings n ++ [Opening.mk client a k.number]).map Opening.number).Nodup := by
  rw [List.map_append]
  refine List.Nodup.append L.distinct (List.nodup_singleton _) fun i hi hk => ?_
  obtain ⟨o, ho, rfl⟩ := List.mem_map.mp hi
  have hle := (L.bounded o ho).1
  have heq : o.number = k.number := List.mem_singleton.mp hk
  have hnumber := opens.number
  omega

/-- A connection that has just been opened is tracked and counted, and nothing else changes. -/
theorem Ledger.balanced_opens (L : Ledger n base h m.before) {client : Nat} {a : Bool}
    {k : Connection} (kind : m.operation.kind? = some a)
    (present : clientIn n m.before = some client) (kept : clientIn n m.after = some client)
    (opens : m.before.Opens client a k m.after) (b : Bool) :
    (held n b m.after ++ Event.attempts b (History.events (h ++ [m]))).Perm
      (History.allOpened (h ++ [m]) n b) := by
  have hopen := Moment.openings_of_opens present kind opens
  have hbegun : Event.attempts b m.events = [] := by
    rw [Moment.events_eq opens.events]
    rfl
  have hb := L.balanced b
  rw [held_eq present] at hb
  rw [held_eq kept, opens.tracked, History.events_append, History.events_singleton,
    Event.attempts_append, hbegun, List.append_nil, History.allOpened_append]
  by_cases hba : b = a
  · have hone : History.allOpened [m] n b = [k.number] := by
      simp [History.allOpened, hopen, hba]
    rw [if_pos hba, hone, List.cons_append]
    exact (hb.cons k.number).trans (List.perm_append_singleton _ _).symm
  · have hone : History.allOpened [m] n b = [] := by
      simp [History.allOpened, hopen, Ne.symm hba]
    rw [if_neg hba, hone, List.append_nil]
    exact hb

theorem Ledger.opens (L : Ledger n base h m.before) (effect : Effect n m) {client : Nat} {a : Bool}
    {k : Connection} (kind : m.operation.kind? = some a)
    (present : clientIn n m.before = some client) (kept : clientIn n m.after = some client)
    (opens : m.before.Opens client a k m.after) : Ledger n base (h ++ [m]) m.after := by
  have hnew : History.openings (h ++ [m]) n = h.openings n ++ [⟨client, a, k.number⟩] := by
    rw [History.openings_append, History.openings_singleton,
      Moment.openings_of_opens present kind opens]
  have C := L.custody.step effect
  refine ⟨C, ?_, ?_, ?_, L.balanced_opens kind present kept opens, ?_⟩
  · rw [hnew, List.map_append, L.complete, History.events_append, History.events_singleton,
      Moment.events_eq opens.events, Event.openings_append]
    rfl
  · rw [hnew]
    exact L.distinct_opens opens
  · rw [hnew]
    refine List.forall_mem_append.mpr ⟨L.bounded_step effect, List.forall_mem_singleton.mpr ?_⟩
    exact ⟨Nat.le_of_eq (opens.number.trans opens.opened.symm), C.present client kept⟩
  · intro d hd b i hi
    rw [kept, Option.some.injEq] at hd
    subst hd
    rw [opens.tracked] at hi
    rw [hnew]
    split at hi
    · rename_i hba
      rcases List.mem_cons.mp hi with rfl | hi
      · exact List.mem_append_right _ (List.mem_singleton.mpr (by rw [hba]))
      · exact List.mem_append_left _ (L.owned client present b i hi)
    · exact List.mem_append_left _ (L.owned client present b i hi)

/-- A moment that closes connections of the client, and gives the client up at most when it tracks
nothing any more. -/
theorem Ledger.closes (L : Ledger n base h m.before) (effect : Effect n m) {client : Nat}
    (present : clientIn n m.before = some client)
    (after : clientIn n m.after = some client ∨
      clientIn n m.after = none ∧ ∀ a, (m.after.clients.get client).tracked a = [])
    (closes : m.before.Closes client m.after) : Ledger n base (h ++ [m]) m.after := by
  obtain ⟨evs, hevs, hopens, hsplit⟩ := closes.events
  have hev : m.events = evs := Moment.events_eq hevs
  have hopen : m.openings n = [] := Moment.openings_nil (by rw [hev, hopens])
  have hsame : History.openings (h ++ [m]) n = h.openings n := by
    rw [History.openings_append, History.openings_singleton, hopen, List.append_nil]
  have hheld : ∀ a, held n a m.after = (m.after.clients.get client).tracked a := by
    intro a
    rcases after with hafter | ⟨hafter, hnone⟩
    · exact held_eq hafter a
    · rw [hnone]
      simp [held, hafter]
  refine ⟨L.custody.step effect, ?_, ?_, ?_, ?_, ?_⟩
  · rw [hsame, L.complete, History.events_append, History.events_singleton, hev,
      Event.openings_append, hopens, List.append_nil]
  · rw [hsame]
    exact L.distinct
  · rw [hsame]
    exact L.bounded_step effect
  · intro a
    -- what is begun with now moves from the tracked to the begun
    have hb := L.balanced a
    rw [held_eq present, hsplit] at hb
    rw [hheld, History.events_append, History.events_singleton, Event.attempts_append, hev,
      History.allOpened_append, History.allOpened_nil hopen, List.append_nil]
    refine List.Perm.trans ?_ hb
    rw [← List.append_assoc]
    refine List.perm_append_comm.trans ?_
    rw [← List.append_assoc]
  · intro d hd a i hi
    have hd : d = client := by
      rcases effect.client_cases hd with hbefore | ⟨hnew, hsize⟩
      · exact Option.some.inj (hbefore.symm.trans present)
      · have := closes.size
        omega
    subst hd
    rw [hsame]
    refine L.owned d present a i ?_
    rw [hsplit]
    exact List.mem_append_right _ hi

/-- What holds of the ledger before an operation holds after it. -/
theorem Ledger.step (L : Ledger n base h m.before) (effect : Effect n m) :
    Ledger n base (h ++ [m]) m.after := by
  -- each case needs what is common to all effects as well
  have any := effect
  cases effect with
  | idle same _ _ _ => exact L.same any same
  | reused a k _ _ _ _ _ same => exact L.same any (same ▸ .refl _)
  | built c _ _ absent present clients untracked _ events =>
    have hnew : m.after.clients.get m.before.clients.size = c := by
      rw [clients, Store.get_add_size]
    refine L.quiet any events (fun a => ?_) fun d hd a k hk => ?_
    · rw [held_eq present, hnew, untracked]
      simp [held, absent]
    · rw [present, Option.some.injEq] at hd
      subst hd
      rw [hnew, untracked] at hk
      cases hk
  | opened client a k kind _ present kept opens => exact L.opens any kind present kept opens
  | closed client _ _ _ present kept _ closes => exact L.closes any present (.inl kept) closes
  | released client _ _ present absent _ closes untracked =>
    exact L.closes any present (.inr ⟨absent, untracked⟩) closes

end

/-- The ledger is right after every run of a deployment that has just been made. -/
theorem Ledger.of_run (topology : Option TopologyRef) (settings : SettingsRef) (w : World)
    (ops : List Operation) :
    Ledger w.deployments.size w.clients.size
      (trace w.deployments.size (made topology settings w) ops)
      (run w.deployments.size (made topology settings w) ops) := by
  refine trace_induction (fun h v op L => Ledger.step L (Effect.of_perform _ op v)) ?_ ops
  obtain ⟨habsent, -⟩ := made_idle topology settings w
  have hclients := made_clients topology settings w
  have C : Custody w.deployments.size w.clients.size [] (made topology settings w) := by
    refine ⟨Nat.le_of_eq (by rw [hclients]), ?_, fun m hm => (by cases hm), fun c hbase hlt => ?_⟩
    · simp [clientIn, habsent]
    · rw [hclients] at hlt
      omega
  refine ⟨C, rfl, List.nodup_nil, fun o ho => (by cases ho), fun a => ?_, ?_⟩
  · simp [held, clientIn, habsent, History.events, History.allOpened, History.openings]
  · simp [clientIn, habsent]

/-! ## 5. What the ledger says about each connection -/

section

variable {n base : Nat} {h : History} {w : World}

/-- A number belongs to one connection. -/
theorem Ledger.eq_of_number (L : Ledger n base h w) {o o' : Opening} (ho : o ∈ h.openings n)
    (ho' : o' ∈ h.openings n) (heq : o.number = o'.number) : o = o' :=
  List.inj_on_of_nodup_map L.distinct ho ho' heq

theorem Ledger.nodup_allOpened (L : Ledger n base h w) (a : Bool) : (h.allOpened n a).Nodup :=
  L.distinct.sublist (List.filter_sublist.map _)

theorem Ledger.nodup_openedBy (L : Ledger n base h w) (c : Nat) (a : Bool) :
    (h.openedBy n c a).Nodup :=
  L.distinct.sublist (List.filter_sublist.map _)

/-- What the present client tracks is what it has opened. -/
theorem Ledger.mem_openings_of_held (L : Ledger n base h w) {a : Bool} {k : Nat}
    (hk : k ∈ held n a w) : ∃ c, clientIn n w = some c ∧ ⟨c, a, k⟩ ∈ h.openings n := by
  cases hc : clientIn n w with
  | none => simp [held, hc] at hk
  | some c =>
    rw [held_eq hc] at hk
    exact ⟨c, rfl, L.owned c hc a k hk⟩

/-- A client tracks a connection that it has opened just when it is the present client and tracks
it. -/
theorem Ledger.mem_tracked (L : Ledger n base h w) {c : Nat} {a : Bool} {k : Nat}
    (ho : ⟨c, a, k⟩ ∈ h.openings n) :
    k ∈ (w.clients.get c).tracked a ↔ k ∈ held n a w := by
  constructor
  · intro hk
    by_cases hc : clientIn n w = some c
    · rwa [held_eq hc]
    · obtain ⟨-, hbase, hlt⟩ := L.bounded _ ho
      rw [L.custody.idle c hbase hlt hc a] at hk
      cases hk
  · intro hk
    obtain ⟨d, hd, ho'⟩ := L.mem_openings_of_held hk
    have hdc := L.eq_of_number ho' ho rfl
    rw [Opening.mk.injEq] at hdc
    rw [held_eq hd, hdc.1] at hk
    exact hk

/-- What is tracked and the attempts to close it add up to one. -/
theorem Ledger.count_add_attempts (L : Ledger n base h w) {c : Nat} {a : Bool} {k : Nat}
    (ho : ⟨c, a, k⟩ ∈ h.openings n) : (held n a w).count k + h.attempts a k = 1 := by
  have hmem : k ∈ h.allOpened n a :=
    List.mem_map.mpr ⟨_, List.mem_filter.mpr ⟨ho, by simp⟩, rfl⟩
  calc (held n a w).count k + h.attempts a k
      = (held n a w ++ Event.attempts a h.events).count k := List.count_append.symm
    _ = (h.allOpened n a).count k := (L.balanced a).count_eq k
    _ = 1 := List.count_eq_one_of_mem (L.nodup_allOpened a) hmem

/-- A connection is never closed in the way of the other kind. -/
theorem Ledger.attempts_other (L : Ledger n base h w) {c : Nat} {a : Bool} {k : Nat}
    (ho : ⟨c, a, k⟩ ∈ h.openings n) : h.attempts (!a) k = 0 := by
  refine List.count_eq_zero.mpr fun hk => ?_
  have hmem : k ∈ h.allOpened n (!a) :=
    (L.balanced (!a)).mem_iff.mp (List.mem_append_right _ hk)
  obtain ⟨o, hof, rfl⟩ := List.mem_map.mp hmem
  obtain ⟨ho', hkind⟩ := List.mem_filter.mp hof
  have heq := L.eq_of_number ho' ho rfl
  rw [heq] at hkind
  cases a <;> simp at hkind

theorem Ledger.once (L : Ledger n base h w) {c : Nat} {a : Bool} {k : Nat}
    (ho : ⟨c, a, k⟩ ∈ h.openings n) :
    k ∈ (w.clients.get c).tracked a ∧ h.attempts a k = 0 ∨
      k ∉ (w.clients.get c).tracked a ∧ h.attempts a k = 1 := by
  have hsum := L.count_add_attempts ho
  rw [L.mem_tracked ho]
  by_cases hk : k ∈ held n a w
  · have := List.count_pos_iff.mpr hk
    exact .inl ⟨hk, by omega⟩
  · have := List.count_eq_zero.mpr hk
    exact .inr ⟨hk, by omega⟩

/-- Of what the present client tracks, a client has opened what it tracks itself. -/
theorem Ledger.filter_held (L : Ledger n base h w) {c : Nat} (hbase : base ≤ c)
    (hlt : c < w.clients.size) (a : Bool) :
    (held n a w).filter (· ∈ h.openedBy n c a) = (w.clients.get c).tracked a := by
  by_cases hc : clientIn n w = some c
  · rw [held_eq hc]
    refine List.filter_eq_self.mpr fun k hk => ?_
    rw [decide_eq_true_eq]
    exact History.mem_openedBy.mpr (L.owned c hc a k hk)
  · rw [L.custody.idle c hbase hlt hc a]
    refine List.filter_eq_nil_iff.mpr fun k hk hmem => ?_
    rw [decide_eq_true_eq] at hmem
    obtain ⟨d, hd, ho⟩ := L.mem_openings_of_held hk
    have hdc := L.eq_of_number ho (History.mem_openedBy.mp hmem) rfl
    rw [Opening.mk.injEq] at hdc
    exact hc (hdc.1 ▸ hd)

theorem Ledger.filter_allOpened (L : Ledger n base h w) (c : Nat) (a : Bool) :
    ((h.allOpened n a).filter (· ∈ h.openedBy n c a)).Perm (h.openedBy n c a) := by
  refine (List.perm_ext_iff_of_nodup ((L.nodup_allOpened a).filter _)
    (L.nodup_openedBy c a)).mpr fun k => ?_
  rw [List.mem_filter, decide_eq_true_eq]
  constructor
  · exact And.right
  · intro hk
    exact ⟨List.mem_map.mpr ⟨_, List.mem_filter.mpr ⟨History.mem_openedBy.mp hk, by simp⟩, rfl⟩, hk⟩

/-- The balance of one client. -/
theorem Ledger.length_tracked (L : Ledger n base h w) {c : Nat} (hbase : base ≤ c)
    (hlt : c < w.clients.size) (a : Bool) :
    ((w.clients.get c).tracked a).length + (h.attemptsOn n c a).length
      = (h.openedBy n c a).length := by
  have hperm := (L.balanced a).filter (· ∈ h.openedBy n c a)
  rw [List.filter_append, L.filter_held hbase hlt] at hperm
  rw [← (L.filter_allOpened c a).length_eq, ← hperm.length_eq, List.length_append]
  rfl

end

/-! ## 6. The books balance -/

/-- A release that cannot wait is refused while asynchronous connections are open. -/
theorem destroy_refused {n c : Nat} {w : World} (present : clientIn n w = some c)
    (hopen : (w.clients.get c).openAsyncCount ≠ 0) :
    Moment.of n (.call .destroy) w =
      ⟨w, .call .destroy, .error (.asyncStillOpen (w.clients.get c).openAsyncCount), w⟩ :=
  Moment.of_eq (by simp [Operation.perform, Call.perform, Act.map, destroy, present, hopen])

/-- No connection is lost and none is closed twice, in any run of a deployment. -/
theorem connections_conserved (topology : Option TopologyRef) (settings : SettingsRef) (w : World)
    (ops : List Operation) :
    Conserved w.deployments.size
      (trace w.deployments.size (made topology settings w) ops)
      (run w.deployments.size (made topology settings w) ops) := by
  have L := Ledger.of_run topology settings w ops
  constructor
  · exact L.complete
  · exact L.distinct
  · intro o ho
    exact ⟨L.attempts_other ho, L.once ho⟩
  · intro m hm c hc
    obtain ⟨hbase, hlt⟩ := L.custody.past m hm c hc
    have hblocking := L.length_tracked hbase hlt false
    have hasync := L.length_tracked hbase hlt true
    rw [Client.openCount_eq]
    omega
  · intro m hm c hc
    obtain ⟨hbase, hlt⟩ := L.custody.past m hm c hc
    rw [Client.openAsyncCount_eq]
    exact L.length_tracked hbase hlt true
  · intro before m after c hcut present absent
    obtain ⟨first, op, rest, -, rfl, rfl, -, -⟩ := trace_eq_append_cons hcut
    have effect := Effect.of_perform w.deployments.size op
      (run w.deployments.size (made topology settings w) first)
    have L' := (Ledger.of_run topology settings w first).step effect
    obtain ⟨hrel, -, hnone⟩ := effect.released_of_none present absent
    refine ⟨hrel, fun a k hk => ?_⟩
    rcases L'.once (History.mem_openedBy.mp hk) with ⟨htracked, -⟩ | ⟨-, hone⟩
    · rw [hnone] at htracked
      cases htracked
    · exact hone
  · intro m hm c hop present hopen
    obtain ⟨before, after, hcut⟩ := List.append_of_mem hm
    obtain ⟨first, op, rest, -, -, rfl, -, -⟩ := trace_eq_append_cons hcut
    obtain rfl : op = .call .destroy := hop
    have hrefused := destroy_refused present hopen
    exact ⟨congrArg Moment.answer hrefused, congrArg Moment.after hrefused⟩

end RedisLink.Deployment
