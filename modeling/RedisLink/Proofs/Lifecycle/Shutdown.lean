/-
RedisLink.Proofs.Lifecycle.Shutdown — how far closing gets.

A client closes its connections in one order: the blocking ones and then the
asynchronous ones, each kind the newest first (`Client.order`). Closing goes
along it and stops at the first connection that fails; what it has begun with is
a first part of the order, and it stays where it stopped. `World.Advances` says
this of two worlds, with the failure, if there was one: the connections begun
with account for exactly that failure. `close_advances` and
`shutdownAll_advances` prove it of the two ways to close, as long as no
asynchronous connection hangs without a limit (`Limit.Ends`).
-/
import RedisLink.Proofs.Lifecycle.Closing

namespace RedisLink

/-! ## 1. Which connections fail -/

/-- The failure with which an asynchronous connection closes, if it does. Taking too long is
none. -/
def asyncCloseFailure? (number : Nat) : Conduct → Option Failure
  | .fails => some (.asyncCloseFailed number)
  | .failsLate => some (.asyncCloseTimedOut number)
  | .normal | .expires | .hangs => none

/-- The failure with which a connection closes, if it does; connections are given by kind and
number. -/
def Conducts.failure? (conducts : Conducts) : Bool × Nat → Option Failure
  | (false, k) => closeFailure? k (conducts.blocking k)
  | (true, k) => asyncCloseFailure? k (conducts.asynchronous k)

/-- Closing a connection begins under a limit and comes to an end. -/
def Limit.Ends (limit : Limit) (conduct : Conduct) : Prop :=
  limit.begins = true ∧ (limit = .unlimited → conduct ≠ .hangs)

namespace Conduct

/-- The events of closing an asynchronous connection that conducts itself in a way. -/
def closing (number : Nat) : Conduct → List Event
  | .normal => [.asyncClose number, .asyncClosed number]
  | .hangs => [.asyncClose number, .cancelled number]
  | .fails | .expires | .failsLate => [.asyncClose number]

/-- Whether closing an asynchronous connection takes too long. -/
def late : Conduct → Bool
  | .expires | .hangs => true
  | .normal | .fails | .failsLate => false

end Conduct

/-- What comes of closing an asynchronous connection, if it comes to an end. -/
theorem asyncClose_eq {limit : Limit} {conduct : Conduct} (h : limit.Ends conduct) (number : Nat) :
    asyncClose number conduct limit = (conduct.closing number,
      match asyncCloseFailure? number conduct with
      | some e => .failed e
      | none => if conduct.late then .expired else .closed) := by
  obtain ⟨hbegins, hends⟩ := h
  cases limit with
  | unlimited =>
    cases conduct with
    | hangs => exact absurd rfl (hends rfl)
    | _ => rfl
  | within time =>
    have hpositive : time.isNegative = false := by simpa [Limit.begins] using hbegins
    unfold asyncClose
    simp only [hpositive, Bool.false_eq_true, if_false]
    cases conduct <;> rfl

/-- What fails is not late. -/
theorem Conduct.late_of_failure? {number : Nat} {conduct : Conduct} {e : Failure}
    (h : asyncCloseFailure? number conduct = some e) : conduct.late = false := by
  cases conduct with
  | normal | expires | hangs => cases h
  | fails | failsLate => rfl

/-! ## 2. The order of closing -/

/-- The kind and the number of the connection whose closing begins with an event. -/
def Event.begins? : Event → Option (Bool × Nat)
  | .close k => some (false, k)
  | .asyncClose k => some (true, k)
  | _ => none

/-- The connections whose closing begins with events, in order. -/
def Event.begun (events : List Event) : List (Bool × Nat) := events.filterMap Event.begins?

namespace Event

@[simp] theorem begun_append (xs ys : List Event) : begun (xs ++ ys) = begun xs ++ begun ys := by
  simp [begun]

theorem begun_close (ks : List Nat) : begun (ks.map Event.close) = ks.map fun k => (false, k) := by
  induction ks with
  | nil => rfl
  | cons k ks ih => simpa [begun, begins?] using ih

theorem begun_closing (k : Nat) (conduct : Conduct) : begun (conduct.closing k) = [(true, k)] := by
  cases conduct <;> rfl

/-- Where no blocking connection is begun with, the asynchronous ones are all. -/
theorem begun_of_attempts : ∀ events : List Event, attempts false events = [] →
    begun events = (attempts true events).map fun k => (true, k)
  | [], _ => rfl
  | event :: rest, h => by
    cases event with
    | close k => cases h
    | asyncClose k =>
      have ih := begun_of_attempts rest h
      simpa [begun, begins?, attempts, begun?] using ih
    | opened k => exact begun_of_attempts rest h
    | asyncClosed k => exact begun_of_attempts rest h
    | cancelled k => exact begun_of_attempts rest h

end Event

namespace Client

/-- The connections that a client tracks, in the order in which it closes them. -/
def order (c : Client) : List (Bool × Nat) :=
  (c.tracked false).map (fun k => (false, k)) ++ (c.tracked true).map fun k => (true, k)

/-- The failures of the connections that a client tracks, in the order in which it closes them. -/
def failures (c : Client) (conducts : Conducts) : List Failure :=
  c.order.filterMap conducts.failure?

theorem length_order (c : Client) : c.order.length = c.openCount := by
  simp [order, openCount_eq]

theorem mem_order {c : Client} {a : Bool} {k : Nat} : (a, k) ∈ c.order ↔ k ∈ c.tracked a := by
  cases a <;> simp [order]

/-! ## 3. The two loops -/

/-- The blocking connections that are begun with account for the failure. -/
theorem closeAll_failure (conducts : Conducts) : ∀ cs : List Connection,
    (Event.begun (closeAll conducts cs).events).filterMap conducts.failure? =
      (closeAll conducts cs).failure.toList
  | [] => rfl
  | c :: rest => by
    have ih := closeAll_failure conducts rest
    cases hc : closeFailure? c.number (conducts.blocking c.number) with
    | some e => simp [closeAll, hc, Event.begun, Event.begins?, Conducts.failure?]
    | none =>
      simp only [closeAll, hc, Event.begun, Event.begins?, List.filterMap_cons, Conducts.failure?]
      exact ih

/-- One turn of the loop over asynchronous connections. -/
theorem asyncCloseAll_cons {conducts : Conducts} {limit : Limit} {c : Connection}
    (ends : limit.Ends (conducts.asynchronous c.number)) (rest : List Connection) :
    asyncCloseAll conducts limit (c :: rest) =
      match asyncCloseFailure? c.number (conducts.asynchronous c.number) with
      | some e => ⟨rest, (conducts.asynchronous c.number).closing c.number, [], some e⟩
      | none =>
        { asyncCloseAll conducts limit rest with
          events := (conducts.asynchronous c.number).closing c.number ++
            (asyncCloseAll conducts limit rest).events
          log := (if (conducts.asynchronous c.number).late then [expiredLine limit c.number]
            else []) ++ (asyncCloseAll conducts limit rest).log } := by
  have hclose := asyncClose_eq ends c.number
  cases hc : asyncCloseFailure? c.number (conducts.asynchronous c.number) with
  | some e =>
    rw [hc] at hclose
    simp only [asyncCloseAll, hclose]
  | none =>
    rw [hc] at hclose
    cases hlate : (conducts.asynchronous c.number).late with
    | true =>
      simp only [hlate, if_true] at hclose
      simp only [asyncCloseAll, hclose, if_true, List.singleton_append]
    | false =>
      simp only [hlate, Bool.false_eq_true, if_false] at hclose
      simp only [asyncCloseAll, hclose, Bool.false_eq_true, if_false, List.nil_append]

/-- The asynchronous connections that are begun with account for the failure. -/
theorem asyncCloseAll_failure (conducts : Conducts) (limit : Limit) : ∀ cs : List Connection,
    (∀ c ∈ cs, limit.Ends (conducts.asynchronous c.number)) →
      (Event.begun (asyncCloseAll conducts limit cs).events).filterMap conducts.failure? =
        (asyncCloseAll conducts limit cs).failure.toList
  | [], _ => rfl
  | c :: rest, h => by
    obtain ⟨hends, hrest⟩ := List.forall_mem_cons.mp h
    have ih := asyncCloseAll_failure conducts limit rest hrest
    rw [asyncCloseAll_cons hends]
    cases hc : asyncCloseFailure? c.number (conducts.asynchronous c.number) with
    | some e => simp [Event.begun_closing, Conducts.failure?, hc]
    | none => simpa [Event.begun_closing, Conducts.failure?, hc] using ih

end Client

/-! ## 4. Going along the order -/

namespace World

/-- A client has gone along the order of its connections, up to one that fails or to where it
stopped without a failure. -/
structure Advances (client : Nat) (failure : Option Failure) (w v : World) : Prop where
  conducts : v.conducts = w.conducts
  /-- What is begun with is a first part of the order, and has that failure and no other. -/
  events : ∃ evs, v.events = w.events ++ evs ∧
    (w.clients.get client).order = Event.begun evs ++ (v.clients.get client).order ∧
      (Event.begun evs).filterMap w.conducts.failure? = failure.toList

namespace Advances

variable {client : Nat} {failure : Option Failure} {u v w : World}

theorem trans (h : u.Advances client none v) (h' : v.Advances client failure w) :
    u.Advances client failure w := by
  refine ⟨h'.conducts.trans h.conducts, ?_⟩
  obtain ⟨evs, hevs, horder, hfailure⟩ := h.events
  obtain ⟨evs', hevs', horder', hfailure'⟩ := h'.events
  refine ⟨evs ++ evs', by rw [hevs', hevs, List.append_assoc], ?_, ?_⟩
  · rw [horder, horder', Event.begun_append, List.append_assoc]
  · rw [Event.begun_append, List.filterMap_append, hfailure, ← h.conducts, hfailure']
    rfl

/-- The failures that are left are those behind the one that stopped it. -/
theorem failures (h : w.Advances client failure v) :
    (w.clients.get client).failures w.conducts =
      failure.toList ++ (v.clients.get client).failures v.conducts := by
  obtain ⟨evs, -, horder, hfailure⟩ := h.events
  rw [Client.failures, Client.failures, horder, List.filterMap_append, hfailure, h.conducts]

/-- What is tracked afterwards was tracked before. -/
theorem tracked (h : w.Advances client failure v) {a : Bool} {k : Nat}
    (hk : k ∈ (v.clients.get client).tracked a) : k ∈ (w.clients.get client).tracked a := by
  obtain ⟨evs, -, horder, -⟩ := h.events
  rw [← Client.mem_order, horder]
  exact List.mem_append_right _ (Client.mem_order.mpr hk)

/-- A failure takes at least one connection with it. -/
theorem openCount_lt {e : Failure} (h : w.Advances client (some e) v) :
    (v.clients.get client).openCount < (w.clients.get client).openCount := by
  obtain ⟨evs, -, horder, hfailure⟩ := h.events
  have hsome : Event.begun evs ≠ [] := by
    intro hnil
    rw [hnil] at hfailure
    cases hfailure
  rw [← Client.length_order, ← Client.length_order, horder, List.length_append]
  have := List.length_pos_iff.mpr hsome
  omega

end Advances

end World

namespace Client

/-- Closing the blocking connections goes along their part of the order. -/
theorem close_advances (client : Nat) (w : World) : ∃ failure,
    (close client w).1 = outcome failure ∧ w.Advances client failure (close client w).2 := by
  obtain ⟨gone, hcut, hev, -⟩ := closeAll_split w.conducts (w.clients.get client).blocking
  obtain ⟨hremaining, hevents, hfailure⟩ := shutdown_eq w.conducts (w.clients.get client)
  refine ⟨_, rfl, rfl, _, rfl, ?_, ?_⟩
  · rw [hevents, hev, Event.begun_close]
    simp only [close, World.record, World.setClient, Store.get_set_self, order, tracked, hremaining,
      Bool.false_eq_true, if_false, if_true]
    rw [← List.append_assoc, ← List.map_append, ← List.map_append, ← hcut]
  · rw [hevents, hfailure]
    exact closeAll_failure _ _

/-- Once no blocking connection is left, closing the asynchronous ones goes along the order. -/
theorem closeAsync_advances (client : Nat) {limit : Limit} (hl : limit.begins = true) (w : World)
    (closed : (w.clients.get client).tracked false = [])
    (ends : ∀ k ∈ (w.clients.get client).tracked true, limit.Ends (w.conducts.asynchronous k)) :
    ∃ failure, (closeAsync client limit w).1 = outcome failure ∧
      w.Advances client failure (closeAsync client limit w).2 := by
  obtain ⟨gone, hcut, hyes, hno, -⟩ :=
    asyncCloseAll_split w.conducts hl (w.clients.get client).asynchronous
  refine ⟨_, rfl, rfl, _, rfl, ?_, ?_⟩
  · rw [Event.begun_of_attempts _ hno, hyes]
    have hblocking : (w.clients.get client).blocking = [] := List.map_eq_nil_iff.mp closed
    simp only [closeAsync, World.record, World.setClient, Store.get_set_self, order, tracked,
      hblocking, Bool.false_eq_true, if_false, if_true, List.map_nil, List.nil_append]
    rw [← List.map_append, ← List.map_append, ← hcut]
  · refine asyncCloseAll_failure _ _ _ fun k hk => ends _ ?_
    exact List.mem_map_of_mem hk

/-- Closing all connections goes along the order, the blocking ones first. -/
theorem shutdownAll_advances (client : Nat) (t : Timeout) (w : World)
    (ends : ∀ k ∈ (w.clients.get client).tracked true,
      (Limit.ofDuration t.duration).Ends (w.conducts.asynchronous k)) :
    ∃ failure, (shutdownAll client (.duration t.duration) w).1 = outcome failure ∧
      w.Advances client failure (shutdownAll client (.duration t.duration) w).2 := by
  obtain ⟨failure, hanswer, hadvances⟩ := close_advances client w
  have hclosed := (close_closes client w).2
  rw [shutdownAll_eq]
  rcases hc : close client w with ⟨r, v⟩
  rw [hc] at hanswer hadvances hclosed
  cases failure with
  | some e =>
    obtain rfl : r = .error e := hanswer
    exact ⟨some e, rfl, hadvances⟩
  | none =>
    obtain rfl : r = .ok () := hanswer
    obtain ⟨failure, hanswer', hadvances'⟩ := closeAsync_advances client t.begins_ofDuration v
      (hclosed rfl) fun k hk => by
        rw [hadvances.conducts]
        exact ends k (hadvances.tracked hk)
    exact ⟨failure, hanswer', hadvances.trans hadvances'⟩

end Client

end RedisLink
