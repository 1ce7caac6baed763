/-
RedisLink.Proofs.Lifecycle.Residue — what a shutdown leaves, wherever it stops.

The lists of connections shrink from their ends while a shutdown goes along
them. `ClosedBack` tells, of connections in the order in which they were opened,
which of them are begun with, which are left, and which failure it was: it goes
from the last one back, as far as the first that fails. Both loops are this, for
lists of any length (`closeAll_closedBack`, `asyncCloseAll_closedBack`). They
differ in what is recorded on the way: a blocking connection has one event, and
an asynchronous one has those of its conduct and, if it is late, a warning.

`ShutDown` puts the two together. It has the whole world after it, so it also
says what does not happen: after a failure of a blocking connection nothing is
reported and no asynchronous connection is touched. `shutdown_exact` proves it of
every client and every timeout, as long as no asynchronous connection hangs
without a limit.
-/
import RedisLink.Proofs.Lifecycle.Retry
import RedisLink.Session.Method

namespace RedisLink

/-! ## 1. The order of opening -/

/-- The connections of a kind that a client tracks, in the order in which they were opened. -/
def Client.oldestFirst (c : Client) (a : Bool) : List Connection :=
  (if a then c.asynchronous else c.blocking).reverse

theorem Client.oldestFirst_track (c : Client) (a b : Bool) (k : Connection) :
    (c.track a k).oldestFirst b = if b = a then c.oldestFirst b ++ [k] else c.oldestFirst b := by
  cases a <;> cases b <;> simp [Client.track, Client.oldestFirst]

/-- A connection that is opened comes last. -/
theorem Client.oldestFirst_connect {n : Nat} {a : Bool} {k : Connection} {w v : World}
    (h : connect n a w = (.ok k, v)) (b : Bool) : (v.clients.get n).oldestFirst b =
      if b = a then (w.clients.get n).oldestFirst b ++ [k]
      else (w.clients.get n).oldestFirst b := by
  obtain ⟨e, he, -⟩ | ⟨j, hj, hopens, -⟩ := connect_cases n a w
  · rw [h] at he
    cases he
  · rw [h, Except.ok.injEq] at hj
    subst hj
    rw [h] at hopens
    rw [hopens.clients, Store.get_set_self, oldestFirst_track]

/-! ## 2. Going back along connections -/

/-- Connections of a kind are closed from the last one back: what is left of them, what is begun
with, in order, and the failure, if there is one. -/
inductive ClosedBack (conducts : Conducts) (a : Bool) :
    List Connection → List Connection → List Connection → Option Failure → Prop
  /-- None of them fails, and none is left. -/
  | all {opened : List Connection} (fine : ∀ k ∈ opened, conducts.failure? (a, k.number) = none) :
      ClosedBack conducts a opened [] opened.reverse none
  /-- One of them fails; those that were opened earlier are left. -/
  | stopped {earlier later : List Connection} {k : Connection} {e : Failure}
      (fine : ∀ x ∈ later, conducts.failure? (a, x.number) = none)
      (fails : conducts.failure? (a, k.number) = some e) :
      ClosedBack conducts a (earlier ++ k :: later) earlier (later.reverse ++ [k]) (some e)

namespace ClosedBack

variable {conducts : Conducts} {a : Bool} {opened kept begun : List Connection} {k : Connection}

/-- It stops at once if the last connection fails. -/
theorem last {e : Failure} (fails : conducts.failure? (a, k.number) = some e) :
    ClosedBack conducts a (opened ++ [k]) opened [k] (some e) := by
  have hnone : ∀ x ∈ ([] : List Connection), conducts.failure? (a, x.number) = none := by simp
  exact stopped hnone fails

/-- Otherwise it goes on with those before. -/
theorem step {failure : Option Failure} (fine : conducts.failure? (a, k.number) = none)
    (h : ClosedBack conducts a opened kept begun failure) :
    ClosedBack conducts a (opened ++ [k]) kept (k :: begun) failure := by
  cases h with
  | all hopened =>
    have hfine : ∀ x ∈ opened ++ [k], conducts.failure? (a, x.number) = none := by
      intro x hx
      obtain hx | rfl := List.mem_append.mp hx |>.imp_right List.mem_singleton.mp
      · exact hopened x hx
      · exact fine
    simpa using all hfine
  | @stopped earlier later j e hlater fails =>
    have hfine : ∀ x ∈ later ++ [k], conducts.failure? (a, x.number) = none := by
      intro x hx
      obtain hx | rfl := List.mem_append.mp hx |>.imp_right List.mem_singleton.mp
      · exact hlater x hx
      · exact fine
    have hstopped : ClosedBack conducts a (kept ++ j :: (later ++ [k])) kept _ (some e) :=
      stopped hfine fails
    simpa using hstopped

/-- Without a failure nothing is left, and each connection has been begun with. -/
theorem kept_nil (h : ClosedBack conducts a opened kept begun none) :
    kept = [] ∧ begun = opened.reverse := by
  cases h
  exact ⟨rfl, rfl⟩

/-- There is a failure if one of the connections fails. -/
theorem failure_eq_none_iff {failure : Option Failure}
    (h : ClosedBack conducts a opened kept begun failure) :
    failure = none ↔ ∀ k ∈ opened, conducts.failure? (a, k.number) = none := by
  cases h with
  | all fine => exact iff_of_true rfl fine
  | @stopped earlier later k e fine fails =>
    refine iff_of_false (Option.some_ne_none e) fun h => ?_
    have hnone := h k (by simp)
    rw [fails] at hnone
    cases hnone

end ClosedBack

namespace Client

/-- The loop over blocking connections has one event for each connection. -/
theorem closeAll_closedBack (conducts : Conducts) : ∀ cs : List Connection, ∃ kept begun,
    ClosedBack conducts false cs.reverse kept begun (closeAll conducts cs).failure ∧
      (closeAll conducts cs).remaining = kept.reverse ∧
      (closeAll conducts cs).events = begun.map (fun k => .close k.number) ∧
      (closeAll conducts cs).log = []
  | [] => ⟨[], [], .all (by simp), rfl, rfl, rfl⟩
  | c :: rest => by
    rw [List.reverse_cons]
    cases hc : closeFailure? c.number (conducts.blocking c.number) with
    | some e =>
      refine ⟨rest.reverse, [c], ?_, ?_⟩
      · simp only [closeAll, hc]
        exact .last hc
      · simp [closeAll, hc]
    | none =>
      obtain ⟨kept, begun, hclosed, hkept, hevents, hlog⟩ := closeAll_closedBack conducts rest
      refine ⟨kept, c :: begun, ?_, ?_⟩
      · simp only [closeAll, hc]
        exact hclosed.step hc
      · simp [closeAll, hc, hkept, hevents, hlog]

/-- The loop over asynchronous connections has the events of each connection, and a warning for each
that is late. -/
theorem asyncCloseAll_closedBack (conducts : Conducts) (limit : Limit) : ∀ cs : List Connection,
    (∀ c ∈ cs, limit.Ends (conducts.asynchronous c.number)) → ∃ kept begun,
      ClosedBack conducts true cs.reverse kept begun (asyncCloseAll conducts limit cs).failure ∧
        (asyncCloseAll conducts limit cs).remaining = kept.reverse ∧
        (asyncCloseAll conducts limit cs).events =
          begun.flatMap (fun k => (conducts.asynchronous k.number).closing k.number) ∧
        (asyncCloseAll conducts limit cs).log =
          (begun.filter fun k => (conducts.asynchronous k.number).late).map fun k =>
            expiredLine limit k.number
  | [], _ => ⟨[], [], .all (by simp), rfl, rfl, rfl⟩
  | c :: rest, h => by
    obtain ⟨hends, hrest⟩ := List.forall_mem_cons.mp h
    rw [List.reverse_cons, asyncCloseAll_cons hends]
    cases hc : asyncCloseFailure? c.number (conducts.asynchronous c.number) with
    | some e =>
      refine ⟨rest.reverse, [c], .last hc, ?_⟩
      simp [Conduct.late_of_failure? hc]
    | none =>
      obtain ⟨kept, begun, hclosed, hkept, hevents, hlog⟩ :=
        asyncCloseAll_closedBack conducts limit rest hrest
      refine ⟨kept, c :: begun, hclosed.step hc, hkept, ?_, ?_⟩
      · simp only [hevents, List.flatMap_cons]
      · cases hlate : (conducts.asynchronous c.number).late <;> simp [hlate, hlog]

end Client

/-! ## 3. The whole shutdown -/

/-- What a shutdown of the client of a number comes to under a limit: its answer and the world
afterwards. -/
inductive ShutDown (n : Nat) (limit : Limit) (w : World) : Except Failure Unit × World → Prop
  /-- A blocking connection fails. Nothing is reported, and no asynchronous connection is begun
  with. -/
  | blocking {kept begun : List Connection} {e : Failure}
      (closed : ClosedBack w.conducts false ((w.clients.get n).oldestFirst false) kept begun
        (some e)) :
      ShutDown n limit w (.error e,
        (w.setClient n { w.clients.get n with blocking := kept.reverse }).record
          (begun.map fun k => .close k.number) [])
  /-- No blocking connection fails, and one line tells their number unless it is zero. The
  asynchronous connections follow; one that is late has a warning and does not stop it. -/
  | asynchronous {kept begun closing : List Connection} {failure : Option Failure}
      (first : ClosedBack w.conducts false ((w.clients.get n).oldestFirst false) [] closing none)
      (closed : ClosedBack w.conducts true ((w.clients.get n).oldestFirst true) kept begun
        failure) :
      ShutDown n limit w (Client.outcome failure,
        (w.setClient n
          { w.clients.get n with blocking := [], asynchronous := kept.reverse }).record
          (closing.map (fun k => .close k.number) ++
            begun.flatMap fun k => (w.conducts.asynchronous k.number).closing k.number)
          ((if closing.length = 0 then [] else
              [⟨.info, .clients, (w.clients.get n).kind ++ " closed " ++ toString closing.length ++
                " connection(s)"⟩]) ++
            (begun.filter fun k => (w.conducts.asynchronous k.number).late).map fun k =>
              ⟨.warning, .clients, "Timed out after " ++ limit.text ++ "s closing <connection " ++
                toString k.number ++ ">"⟩))

/-- What is known of a shutdown under a timeout. -/
structure ShutdownExact (n : Nat) (t : Timeout) (w : World) : Prop where
  /-- The order that it goes back along is that of opening: what is opened comes last. -/
  opens : ∀ a b k v, Client.connect n a w = (.ok k, v) → (v.clients.get n).oldestFirst b =
    if b = a then (w.clients.get n).oldestFirst b ++ [k] else (w.clients.get n).oldestFirst b
  outcome : ShutDown n (.ofDuration t.duration) w
    (Client.shutdownAll n (.duration t.duration) w)
  /-- It is what the method of a client does. -/
  called : Method.call ⟨.client n, "shutdown_async", ⟨[.value (.duration t.duration)], []⟩⟩ w =
    ((Client.shutdownAll n (.duration t.duration) w).1.map fun _ => Method.nothing,
      (Client.shutdownAll n (.duration t.duration) w).2)

section

variable {n : Nat} {w : World}

/-- One client after the other in the same place, with what is recorded in between. -/
theorem World.record_setClient_record (c d : Client) (events more : List Event)
    (log lines : List LogLine) :
    (((w.setClient n c).record events log).setClient n d).record more lines =
      (w.setClient n d).record (events ++ more) (log ++ lines) := by
  simp only [World.setClient, World.record, Store.set_set, List.append_assoc]

/-- Closing the blocking connections. -/
theorem Client.close_closedBack (n : Nat) (w : World) : ∃ kept begun failure,
    ClosedBack w.conducts false ((w.clients.get n).oldestFirst false) kept begun failure ∧
      close n w = (outcome failure,
        (w.setClient n { w.clients.get n with blocking := kept.reverse }).record
          (begun.map fun k => .close k.number)
          (match failure with
            | some _ => []
            | none => (w.clients.get n).closedLine)) := by
  obtain ⟨kept, begun, hclosed, hkept, hevents, hlog⟩ :=
    closeAll_closedBack w.conducts (w.clients.get n).blocking
  refine ⟨kept, begun, _, hclosed, ?_⟩
  unfold close shutdown
  cases hfailure : (closeAll w.conducts (w.clients.get n).blocking).failure with
  | some e => simp only [hfailure, hkept, hevents, hlog]
  | none => simp only [hfailure, hkept, hevents, hlog, List.nil_append]

/-- Closing the asynchronous connections. -/
theorem Client.closeAsync_closedBack (n : Nat) (limit : Limit) (w : World)
    (ends : ∀ k ∈ (w.clients.get n).tracked true, limit.Ends (w.conducts.asynchronous k)) :
    ∃ kept begun failure,
      ClosedBack w.conducts true ((w.clients.get n).oldestFirst true) kept begun failure ∧
        closeAsync n limit w = (outcome failure,
          (w.setClient n { w.clients.get n with asynchronous := kept.reverse }).record
            (begun.flatMap fun k => (w.conducts.asynchronous k.number).closing k.number)
            ((begun.filter fun k => (w.conducts.asynchronous k.number).late).map fun k =>
              expiredLine limit k.number)) := by
  obtain ⟨kept, begun, hclosed, hkept, hevents, hlog⟩ :=
    asyncCloseAll_closedBack w.conducts limit (w.clients.get n).asynchronous
      fun k hk => ends _ (List.mem_map_of_mem hk)
  refine ⟨kept, begun, _, hclosed, ?_⟩
  unfold closeAsync
  simp only [hkept, hevents, hlog]

theorem Client.closedLine_eq (c : Client) : c.closedLine =
    if c.blocking.length = 0 then [] else
      [⟨.info, .clients, c.kind ++ " closed " ++ toString c.blocking.length ++
        " connection(s)"⟩] := by
  unfold closedLine
  cases c.blocking <;> rfl

theorem Client.shutdownAll_shutDown (n : Nat) (t : Timeout) (w : World)
    (ends : ∀ k ∈ (w.clients.get n).tracked true,
      (Limit.ofDuration t.duration).Ends (w.conducts.asynchronous k)) :
    ShutDown n (.ofDuration t.duration) w (shutdownAll n (.duration t.duration) w) := by
  obtain ⟨kept, begun, failure, hclosed, hclose⟩ := close_closedBack n w
  rw [shutdownAll_eq, hclose]
  cases failure with
  | some e => exact .blocking hclosed
  | none =>
    obtain ⟨rfl, hbegun⟩ := hclosed.kept_nil
    -- each of the blocking connections has been begun with
    have hall : begun.length = (w.clients.get n).blocking.length := by
      rw [hbegun]
      simp [oldestFirst]
    -- the asynchronous connections and the conducts are the ones from before
    let v := (w.setClient n { w.clients.get n with blocking := [] }).record
      (begun.map fun k => .close k.number) (w.clients.get n).closedLine
    have hclient : v.clients.get n = { w.clients.get n with blocking := [] } :=
      Store.get_set_self _ _ _
    have htracked : (v.clients.get n).tracked true = (w.clients.get n).tracked true := by
      rw [hclient]
      rfl
    obtain ⟨left, closing, failure, hasync, hcloseAsync⟩ :=
      closeAsync_closedBack n (.ofDuration t.duration) v (htracked ▸ ends)
    have hwhole : closeAsync n (.ofDuration t.duration) v = _ := hcloseAsync
    rw [hclient] at hasync hwhole
    show ShutDown n _ w (closeAsync n (.ofDuration t.duration) v)
    rw [hwhole, World.record_setClient_record, closedLine_eq, ← hall]
    exact .asynchronous hclosed hasync

theorem Method.call_shutdown_async (n : Nat) (given : Item) (w : World) :
    call ⟨.client n, "shutdown_async", ⟨[given], []⟩⟩ w =
      ((Client.shutdownAll n (given.toValue w) w).1.map fun _ => nothing,
        (Client.shutdownAll n (given.toValue w) w).2) := by
  have hcall : call ⟨.client n, "shutdown_async", ⟨[given], []⟩⟩ w =
      (Client.shutdownAll n (given.toValue w)).andThen (fun _ => Act.give nothing) w := rfl
  rw [hcall]
  unfold Act.andThen
  rcases Client.shutdownAll n (given.toValue w) w with ⟨_ | _, v⟩ <;> rfl

end

/-- What a shutdown does and what it leaves, whatever the connections do, as long as no asynchronous
one hangs without a limit. -/
theorem shutdown_exact (n : Nat) (t : Timeout) (w : World)
    (ends : ∀ k ∈ (w.clients.get n).tracked true,
      t.duration.micros = 0 → w.conducts.asynchronous k ≠ .hangs) : ShutdownExact n t w := by
  constructor
  case opens => exact fun a b k v h => Client.oldestFirst_connect h b
  case outcome =>
    exact Client.shutdownAll_shutDown n t w fun k hk => Deployment.ends_of_hangs (ends k hk)
  case called => exact Method.call_shutdown_async n (.value (.duration t.duration)) w

/-- Five connections have been opened, of which the fourth, an asynchronous one, hangs. -/
def World.fourthHangs : World :=
  Deployment.run 0 (Deployment.made none (.live 0) (.initial .empty ClassPath.modules {
    calls := fun _ => none
    blocking := fun _ => .normal
    asynchronous := fun k => if k = 4 then .hangs else .normal })) Deployment.fiveOpened

theorem shutdown_exact_fourthHangs :
    ((World.fourthHangs.clients.get 0).tracked true = [5, 4, 3] ∧
        World.fourthHangs.conducts.asynchronous 4 = .hangs) ∧
      (∀ k ∈ (World.fourthHangs.clients.get 0).tracked true,
        Timeout.shutdown.duration.micros = 0 →
          World.fourthHangs.conducts.asynchronous k ≠ .hangs) ∧
      ShutdownExact 0 .shutdown .fourthHangs :=
  ⟨⟨by decide, rfl⟩, fun k _ hzero => absurd hzero (by decide),
    shutdown_exact 0 .shutdown .fourthHangs fun k _ hzero => absurd hzero (by decide)⟩

end RedisLink
