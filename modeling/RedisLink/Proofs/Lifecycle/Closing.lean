/-
RedisLink.Proofs.Lifecycle.Closing — what opening and closing do to the
connections of a client.

A client that closes connections goes along the list of those it tracks. At
any moment the list is cut in two: the connections whose closing has begun,
each with one event, and the rest, still tracked. `closeAll_split` and
`asyncCloseAll_split` say this of the two loops, whatever the connections do,
and that a loop that ends without a failure leaves nothing. Asynchronous
closing begins only under a limit that is not negative (`Limit.begins`);
limits that come from a timeout never are.

`World.Opens` and `World.Closes` are the two ways in which an operation changes
connections. Everything else leaves them alone, `World.SameConnections`.
-/
import RedisLink.Deployment.Lifecycle

namespace RedisLink

/-! ## 1. What events say -/

/-- The number of the connection that an event opens. -/
def Event.opened? : Event → Option Nat
  | .opened n => some n
  | _ => none

/-- The number of the connection of a kind whose closing begins with an event. -/
def Event.begun? (asynchronous : Bool) : Event → Option Nat
  | .close n => if asynchronous then none else some n
  | .asyncClose n => if asynchronous then some n else none
  | _ => none

/-- The numbers of the connections that events open, in order. -/
def Event.openings (events : List Event) : List Nat := events.filterMap Event.opened?

/-- The numbers of the connections of a kind whose closing begins with events, in order; a number
stands there once for each attempt to close. -/
def Event.attempts (asynchronous : Bool) (events : List Event) : List Nat :=
  events.filterMap (Event.begun? asynchronous)

namespace Event

@[simp] theorem attempts_nil (a : Bool) : attempts a [] = [] := rfl

@[simp] theorem openings_append (xs ys : List Event) :
    openings (xs ++ ys) = openings xs ++ openings ys := by
  simp [openings]

@[simp] theorem attempts_append (a : Bool) (xs ys : List Event) :
    attempts a (xs ++ ys) = attempts a xs ++ attempts a ys := by
  simp [attempts]

theorem openings_close (ns : List Nat) : openings (ns.map Event.close) = [] := by
  induction ns with
  | nil => rfl
  | cons n ns ih => simp [openings, opened?]

theorem attempts_close (a : Bool) (ns : List Nat) :
    attempts a (ns.map Event.close) = if a then [] else ns := by
  induction ns with
  | nil => cases a <;> rfl
  | cons n ns ih => cases a <;> simp_all [attempts, begun?]

end Event

/-! ## 2. Connections of a client -/

/-- The numbers of the connections of a kind that a client tracks, the newest first. -/
def Client.tracked (c : Client) (asynchronous : Bool) : List Nat :=
  (if asynchronous then c.asynchronous else c.blocking).map Connection.number

theorem Client.openCount_eq (c : Client) :
    c.openCount = (c.tracked false).length + (c.tracked true).length := by
  simp [Client.openCount, Client.tracked]

theorem Client.openAsyncCount_eq (c : Client) : c.openAsyncCount = (c.tracked true).length := by
  simp [Client.openAsyncCount, Client.tracked]

theorem Client.tracked_track (c : Client) (a b : Bool) (k : Connection) :
    (c.track a k).tracked b = if b = a then k.number :: c.tracked b else c.tracked b := by
  cases a <;> cases b <;> simp [Client.track, Client.tracked]

/-! ## 3. The two loops -/

namespace Client

/-- Closing blocking connections begins with a first part of them and leaves the rest; without a
failure nothing is left. -/
theorem closeAll_split (conducts : Conducts) : ∀ cs : List Connection,
    ∃ gone, cs = gone ++ (closeAll conducts cs).remaining
      ∧ (closeAll conducts cs).events = (gone.map Connection.number).map Event.close
      ∧ ((closeAll conducts cs).failure = none → (closeAll conducts cs).remaining = [])
  | [] => ⟨[], rfl, rfl, fun _ => rfl⟩
  | c :: rest => by
    cases hc : closeFailure? c.number (conducts.blocking c.number) with
    | some e => exact ⟨[c], by simp [closeAll, hc]⟩
    | none =>
      obtain ⟨gone, hcut, hev, hend⟩ := closeAll_split conducts rest
      refine ⟨c :: gone, ?_, ?_, ?_⟩
      · simp only [closeAll, hc, List.cons_append]
        rw [← hcut]
      · simp [closeAll, hc, hev]
      · simpa [closeAll, hc] using hend

end Client

/-- Whether closing begins at all under a limit. -/
def Limit.begins : Limit → Bool
  | .unlimited => true
  | .within time => !time.isNegative

/-- A duration stands for a limit under which closing begins, unless it is negative. -/
theorem Limit.begins_ofDuration (d : Duration) : (ofDuration d).begins = true ↔ 0 ≤ d.micros := by
  unfold ofDuration
  split
  · rename_i hzero
    simp only [begins, hzero, Int.le_refl]
  · simp only [begins, Duration.isNegative, Bool.not_eq_true', decide_eq_false_iff_not, Int.not_lt]

theorem Timeout.begins_ofDuration (t : Timeout) : (Limit.ofDuration t.duration).begins = true :=
  (Limit.begins_ofDuration t.duration).mpr t.nonneg

/-- Under such a limit closing an asynchronous connection begins once and opens nothing. -/
theorem asyncClose_events {limit : Limit} (hl : limit.begins = true) (number : Nat)
    (conduct : Conduct) :
    Event.attempts true (asyncClose number conduct limit).1 = [number]
      ∧ Event.attempts false (asyncClose number conduct limit).1 = []
      ∧ Event.openings (asyncClose number conduct limit).1 = [] := by
  cases limit with
  | unlimited => cases conduct <;> exact ⟨rfl, rfl, rfl⟩
  | within time =>
    have ht : time.isNegative = false := by simpa [Limit.begins] using hl
    cases conduct <;>
      simp [asyncClose, ht, Event.attempts, Event.openings, Event.begun?, Event.opened?]

namespace Client

/-- Closing asynchronous connections begins with a first part of them and leaves the rest; without
a failure nothing is left. -/
theorem asyncCloseAll_split (conducts : Conducts) {limit : Limit} (hl : limit.begins = true) :
    ∀ cs : List Connection,
    ∃ gone, cs = gone ++ (asyncCloseAll conducts limit cs).remaining
      ∧ Event.attempts true (asyncCloseAll conducts limit cs).events = gone.map Connection.number
      ∧ Event.attempts false (asyncCloseAll conducts limit cs).events = []
      ∧ Event.openings (asyncCloseAll conducts limit cs).events = []
      ∧ ((asyncCloseAll conducts limit cs).failure = none →
          (asyncCloseAll conducts limit cs).remaining = [])
  | [] => ⟨[], rfl, rfl, rfl, rfl, fun _ => rfl⟩
  | c :: rest => by
    obtain ⟨h1, h2, h3⟩ := asyncClose_events hl c.number (conducts.asynchronous c.number)
    obtain ⟨gone, hcut, hyes, hno, hopen, hend⟩ := asyncCloseAll_split conducts hl rest
    rcases hc : asyncClose c.number (conducts.asynchronous c.number) limit with ⟨evs, ending⟩
    rw [hc] at h1 h2 h3
    simp only at h1 h2 h3
    cases ending with
    | failed e => exact ⟨[c], by simp [asyncCloseAll, hc, h1, h2, h3]⟩
    | closed =>
      refine ⟨c :: gone, ?_, ?_, ?_, ?_, ?_⟩
      · simp only [asyncCloseAll, hc, List.cons_append]
        rw [← hcut]
      · simp [asyncCloseAll, hc, h1, hyes]
      · simp [asyncCloseAll, hc, h2, hno]
      · simp [asyncCloseAll, hc, h3, hopen]
      · simpa [asyncCloseAll, hc] using hend
    | expired =>
      refine ⟨c :: gone, ?_, ?_, ?_, ?_, ?_⟩
      · simp only [asyncCloseAll, hc, List.cons_append]
        rw [← hcut]
      · simp [asyncCloseAll, hc, h1, hyes]
      · simp [asyncCloseAll, hc, h2, hno]
      · simp [asyncCloseAll, hc, h3, hopen]
      · simpa [asyncCloseAll, hc] using hend

end Client

/-! ## 4. How an operation changes connections -/

namespace World

/-- Nothing has changed about connections, clients, and the client that each deployment has and
shares connections of. -/
structure SameConnections (w w' : World) : Prop where
  clients : w'.clients = w.clients
  opened : w'.opened = w.opened
  events : w'.events = w.events
  client : ∀ n, (w'.deployments.get n).client = (w.deployments.get n).client
  shared : ∀ n a, (w'.deployments.get n).shared a = (w.deployments.get n).shared a

/-- A client has opened a connection of a kind and tracks it. -/
structure Opens (client : Nat) (asynchronous : Bool) (k : Connection) (w w' : World) : Prop where
  number : k.number = w.opened + 1
  opened : w'.opened = w.opened + 1
  clients : w'.clients = w.clients.set client ((w.clients.get client).track asynchronous k)
  events : w'.events = w.events ++ [.opened k.number]

/-- A client has closed some of its connections, perhaps none: of each kind it has begun with a
first part of those it tracked and still tracks the rest. -/
structure Closes (client : Nat) (w w' : World) : Prop where
  opened : w'.opened = w.opened
  size : w'.clients.size = w.clients.size
  others : ∀ i, i ≠ client → w'.clients.get i = w.clients.get i
  events : ∃ evs, w'.events = w.events ++ evs ∧ Event.openings evs = [] ∧
    ∀ a, (w.clients.get client).tracked a =
      Event.attempts a evs ++ (w'.clients.get client).tracked a

theorem SameConnections.refl (w : World) : w.SameConnections w :=
  ⟨rfl, rfl, rfl, fun _ => rfl, fun _ _ => rfl⟩

/-- A call of a class changes nothing about connections. -/
theorem SameConnections.countCall (w : World) : w.SameConnections w.countCall :=
  ⟨rfl, rfl, rfl, fun _ => rfl, fun _ _ => rfl⟩

theorem SameConnections.trans {u v w : World} (h : u.SameConnections v)
    (h' : v.SameConnections w) : u.SameConnections w :=
  ⟨h'.clients.trans h.clients, h'.opened.trans h.opened, h'.events.trans h.events,
    fun n => (h'.client n).trans (h.client n), fun n a => (h'.shared n a).trans (h.shared n a)⟩

/-- New lines in the log change nothing about connections. -/
theorem SameConnections.record (w : World) (log : List LogLine) :
    w.SameConnections (w.record [] log) :=
  ⟨rfl, rfl, by simp [World.record], fun _ => rfl, fun _ _ => rfl⟩

theorem Opens.tracked {client : Nat} {a : Bool} {k : Connection} {w w' : World}
    (h : w.Opens client a k w') (b : Bool) : (w'.clients.get client).tracked b =
      if b = a then k.number :: (w.clients.get client).tracked b
      else (w.clients.get client).tracked b := by
  rw [h.clients, Store.get_set_self, Client.tracked_track]

theorem Closes.trans {client : Nat} {u v w : World} (h : u.Closes client v)
    (h' : v.Closes client w) : u.Closes client w where
  opened := h'.opened.trans h.opened
  size := h'.size.trans h.size
  others i hi := (h'.others i hi).trans (h.others i hi)
  events := by
    obtain ⟨evs, he, ho, ht⟩ := h.events
    obtain ⟨evs', he', ho', ht'⟩ := h'.events
    refine ⟨evs ++ evs', by rw [he', he, List.append_assoc], by simp [ho, ho'], fun a => ?_⟩
    rw [ht a, ht' a, Event.attempts_append, List.append_assoc]

end World

/-! ## 5. Opening and closing as operations -/

namespace Client

/-- Opening a connection is all or nothing, but for a call of its class and lines in the log. -/
theorem connect_cases (client : Nat) (a : Bool) (w : World) :
    (∃ e, (connect client a w).1 = .error e ∧ w.SameConnections (connect client a w).2) ∨
    (∃ k, (connect client a w).1 = .ok k ∧ w.Opens client a k (connect client a w).2 ∧
      (connect client a w).2.deployments = w.deployments) := by
  have hconnecting := connecting client a w
  generalize connect client a w = result at hconnecting
  cases hconnecting with
  | unplanned lines e => exact .inl ⟨e, rfl, .record w lines⟩
  | refused lines b e => exact .inl ⟨e, rfl, .trans (.countCall w) (.record _ lines)⟩
  | opened lines b => exact .inr ⟨⟨w.opened + 1, b⟩, rfl, ⟨rfl, rfl, rfl, rfl⟩, rfl⟩

/-- A shutdown of blocking connections is the loop over them, but for a line in the log. -/
theorem shutdown_eq (conducts : Conducts) (c : Client) :
    (c.shutdown conducts).remaining = (closeAll conducts c.blocking).remaining
      ∧ (c.shutdown conducts).events = (closeAll conducts c.blocking).events
      ∧ (c.shutdown conducts).failure = (closeAll conducts c.blocking).failure := by
  cases hf : (closeAll conducts c.blocking).failure <;> simp [shutdown, hf]

/-- Closing the blocking connections; without a failure none is left. -/
theorem close_closes (client : Nat) (w : World) :
    w.Closes client (close client w).2 ∧
      ((close client w).1 = .ok () →
        ((close client w).2.clients.get client).tracked false = []) := by
  obtain ⟨gone, hcut, hev, hend⟩ := closeAll_split w.conducts (w.clients.get client).blocking
  obtain ⟨hremaining, hevents, hfailure⟩ := shutdown_eq w.conducts (w.clients.get client)
  constructor
  · refine ⟨rfl, rfl, fun i hi => Store.get_set_of_ne _ _ hi, ?_⟩
    refine ⟨_, rfl, by rw [hevents, hev, Event.openings_close], fun a => ?_⟩
    rw [hevents, hev, Event.attempts_close]
    cases a with
    | true => simp [close, World.record, World.setClient, tracked]
    | false =>
      simp only [close, World.record, World.setClient, tracked, Store.get_set_self, hremaining,
        Bool.false_eq_true, if_false]
      rw [← List.map_append, ← hcut]
  · intro hok
    have hnone : ((w.clients.get client).shutdown w.conducts).failure = none := by
      cases hf : ((w.clients.get client).shutdown w.conducts).failure with
      | none => rfl
      | some e => simp [close, outcome, hf] at hok
    simp [close, World.record, World.setClient, tracked, hremaining, hend (hfailure ▸ hnone)]

/-- Closing the asynchronous connections under a limit; without a failure none is left. -/
theorem closeAsync_closes (client : Nat) {limit : Limit} (hl : limit.begins = true) (w : World) :
    w.Closes client (closeAsync client limit w).2 ∧
      ((closeAsync client limit w).2.clients.get client).tracked false =
        (w.clients.get client).tracked false ∧
      ((closeAsync client limit w).1 = .ok () →
        ((closeAsync client limit w).2.clients.get client).tracked true = []) := by
  obtain ⟨gone, hcut, hyes, hno, hopen, hend⟩ :=
    asyncCloseAll_split w.conducts hl (w.clients.get client).asynchronous
  refine ⟨⟨rfl, rfl, fun i hi => Store.get_set_of_ne _ _ hi, _, rfl, hopen, fun a => ?_⟩,
    ?_, fun hok => ?_⟩
  · cases a with
    | false =>
      rw [hno]
      simp [closeAsync, World.record, World.setClient, tracked]
    | true =>
      rw [hyes]
      simp only [closeAsync, World.record, World.setClient, tracked, Store.get_set_self, if_true]
      rw [← List.map_append, ← hcut]
  · simp [closeAsync, World.record, World.setClient, tracked]
  · have hnone :
        (asyncCloseAll w.conducts limit (w.clients.get client).asynchronous).failure = none := by
      cases hf : (asyncCloseAll w.conducts limit (w.clients.get client).asynchronous).failure with
      | none => rfl
      | some e => simp [closeAsync, outcome, hf] at hok
    simp [closeAsync, World.record, World.setClient, tracked, hend hnone]

/-- Closing leaves deployments as they are. -/
theorem shutdownAll_deployments (client : Nat) (timeout : Value) (w : World) :
    (shutdownAll client timeout w).2.deployments = w.deployments := by
  simp only [shutdownAll, bind, Act.andThen, Act.ofExcept]
  have hclose : (close client w).2.deployments = w.deployments := rfl
  rcases hc : close client w with ⟨_ | _, v⟩
  · rw [hc] at hclose; exact hclose
  · rw [hc] at hclose
    cases limitOf timeout with
    | error e => exact hclose
    | ok limit => exact hclose

/-- Closing all connections under a duration is closing the blocking ones and then, unless that
fails, the asynchronous ones. -/
theorem shutdownAll_eq (client : Nat) (d : Duration) (w : World) :
    shutdownAll client (.duration d) w =
      match close client w with
      | (.ok (), w) => closeAsync client (.ofDuration d) w
      | (.error e, w) => (.error e, w) := by
  simp only [shutdownAll, bind, Act.andThen, Act.ofExcept, limitOf]
  rcases close client w with ⟨_ | _, v⟩ <;> rfl

/-- Closing all connections under a timeout; without a failure none is left. -/
theorem shutdownAll_closes (client : Nat) (t : Timeout) (w : World) :
    w.Closes client (shutdownAll client (.duration t.duration) w).2 ∧
      ((shutdownAll client (.duration t.duration) w).1 = .ok () → ∀ a,
        ((shutdownAll client (.duration t.duration) w).2.clients.get client).tracked a = []) := by
  obtain ⟨hcloses, hnone⟩ := close_closes client w
  rw [shutdownAll_eq]
  rcases hc : close client w with ⟨_ | _, v⟩
  · rw [hc] at hcloses
    exact ⟨hcloses, by simp⟩
  · rw [hc] at hcloses hnone
    obtain ⟨hcloses', hkept, hnone'⟩ := closeAsync_closes client t.begins_ofDuration v
    refine ⟨hcloses.trans hcloses', fun hok a => ?_⟩
    cases a with
    | true => exact hnone' hok
    | false => exact hkept.trans (hnone rfl)

end Client

/-! ## 6. Releases as sequences -/

namespace Deployment

variable {n client : Nat} {w : World}

/-- A release without open asynchronous connections closes the others and gives up the client. -/
theorem destroy_eq (present : (w.deployments.get n).client = some client)
    (closed : (w.clients.get client).openAsyncCount = 0) :
    destroy n w = (Client.close client).andThen (fun _ => release n client) w := by
  simp only [destroy, present, closed, ne_eq, not_true_eq_false, if_false, Act.andThen]
  rcases Client.close client w with ⟨_ | _, _⟩ <;> rfl

/-- A release that waits closes all connections and gives up the client. -/
theorem destroyAsync_eq {t : Timeout} (present : (w.deployments.get n).client = some client)
    (readable : (w.deployments.get n).settings.timeout .shutdown w = .ok t) :
    destroyAsync n w = (Client.shutdownAll client (.duration t.duration)).andThen
      (fun _ => release n client) w := by
  simp only [destroyAsync, present, readable, Act.andThen]
  rcases Client.shutdownAll client (.duration t.duration) w with ⟨_ | _, _⟩ <;> rfl

end Deployment

end RedisLink
