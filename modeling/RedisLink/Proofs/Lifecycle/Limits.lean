/-
RedisLink.Proofs.Lifecycle.Limits — shutdowns under whatever they are given.

The settings of a deployment hold no negative timeout, but a shutdown of a client
takes any value and checks none. Under a duration that is not negative it begins
to close each asynchronous connection that it takes off the client, whatever the
connections do. A value that is no duration is noticed before any of them is
touched.

A negative duration is a limit under which closing does not begin
(`Limit.begins_ofDuration`), and to the loop over asynchronous connections that
is the same as being late: it reports each of them, lets it go and fails at none
(`Client.asyncCloseAll_of_not_begins`). Only a blocking connection that fails
stops a shutdown before that. `shutdown_spares_iff` is the whole condition.
-/
import RedisLink.Proofs.Lifecycle.Residue
import RedisLink.Proofs.TimeoutChecks

namespace RedisLink

/-! ## 1. Connections that are dropped -/

/-- Every asynchronous connection that a client tracked in one world it tracks in a later one, or
its closing has begun in between. -/
def World.DropsNone (client : Nat) (w v : World) : Prop :=
  ∃ events, v.events = w.events ++ events ∧ ∀ k ∈ (w.clients.get client).tracked true,
    k ∈ (v.clients.get client).tracked true ∨ k ∈ Event.attempts true events

theorem World.Closes.dropsNone {client : Nat} {w v : World} (h : w.Closes client v) :
    w.DropsNone client v := by
  obtain ⟨events, hevents, -, htracked⟩ := h.events
  refine ⟨events, hevents, fun k hk => ?_⟩
  rw [htracked true] at hk
  exact (List.mem_append.mp hk).symm

namespace Client

/-- A shutdown that is given a value drops no asynchronous connection unasked. -/
structure Spares (n : Nat) (given : Value) (w : World) : Prop where
  begun : w.DropsNone n (shutdownAll n given w).2
  /-- Given what is no timeout it fails and keeps all of them. -/
  refused : ¬ given.IsTimeout → (∃ e, (shutdownAll n given w).1 = .error e) ∧
    ((shutdownAll n given w).2.clients.get n).asynchronous = (w.clients.get n).asynchronous

/-- A shutdown is given a negative duration, and no blocking connection saves the asynchronous ones
by failing before them. -/
structure Unsaved (n : Nat) (d : Duration) (w : World) : Prop where
  negative : d.micros < 0
  fine : ∀ k ∈ (w.clients.get n).tracked false, w.conducts.failure? (false, k) = none

/-! ## 2. Blocking connections -/

/-- Closing the blocking connections goes well if none of them fails, and leaves the asynchronous
ones as they are. -/
theorem close_spares (n : Nat) (w : World) :
    ((close n w).1 = .ok () ↔
        ∀ k ∈ (w.clients.get n).tracked false, w.conducts.failure? (false, k) = none) ∧
      ((close n w).2.clients.get n).asynchronous = (w.clients.get n).asynchronous := by
  obtain ⟨kept, begun, failure, hclosed, hclose⟩ := close_closedBack n w
  have hnone := hclosed.failure_eq_none_iff
  rw [hclose]
  constructor
  · have houtcome : outcome failure = .ok () ↔ failure = none := by
      cases failure <;> simp [outcome]
    rw [houtcome, hnone]
    simp [oldestFirst, tracked]
  · simp [World.record, World.setClient]

/-- If none of them fails, each is begun with and none is left. -/
theorem close_of_fine {n : Nat} {w : World}
    (fine : ∀ k ∈ (w.clients.get n).tracked false, w.conducts.failure? (false, k) = none) :
    close n w = (.ok (), (w.setClient n { w.clients.get n with blocking := [] }).record
      ((w.clients.get n).blocking.map fun k => .close k.number) (w.clients.get n).closedLine) := by
  obtain ⟨kept, begun, failure, hclosed, hclose⟩ := close_closedBack n w
  obtain rfl : failure = none := by
    refine hclosed.failure_eq_none_iff.mpr fun k hk => fine _ (List.mem_map_of_mem ?_)
    simpa [oldestFirst] using hk
  obtain ⟨rfl, rfl⟩ := hclosed.kept_nil
  simpa [oldestFirst, outcome] using hclose

/-! ## 3. A negative limit -/

/-- Where closing does not begin, all asynchronous connections are reported and let go. -/
theorem asyncCloseAll_of_not_begins (conducts : Conducts) {limit : Limit}
    (unbegun : limit.begins = false) : ∀ cs : List Connection,
    asyncCloseAll conducts limit cs = ⟨[], [], cs.map fun k => expiredLine limit k.number, none⟩
  | [] => rfl
  | c :: rest => by
    have ih := asyncCloseAll_of_not_begins conducts unbegun rest
    have hclose : asyncClose c.number (conducts.asynchronous c.number) limit = ([], .expired) := by
      cases limit with
      | unlimited => cases unbegun
      | within time =>
        have hnegative : time.isNegative = true := by simpa [Limit.begins] using unbegun
        unfold asyncClose
        simp only [hnegative, if_true]
    simp only [asyncCloseAll, hclose, ih, List.nil_append, List.map_cons]

/-- A shutdown that nothing saves ends normally. It has closed the blocking connections, and the
asynchronous ones are gone from the client without an event. -/
theorem shutdownAll_of_unsaved {n : Nat} {d : Duration} {w : World} (h : Unsaved n d w) :
    shutdownAll n (.duration d) w = (.ok (),
      (w.setClient n { w.clients.get n with blocking := [], asynchronous := [] }).record
        ((w.clients.get n).blocking.map fun k => .close k.number)
        ((w.clients.get n).closedLine ++
          (w.clients.get n).asynchronous.map fun k => expiredLine (.ofDuration d) k.number)) := by
  have hunbegun : (Limit.ofDuration d).begins = false := by
    rw [← Bool.not_eq_true, Limit.begins_ofDuration]
    exact Int.not_le.mpr h.negative
  rw [shutdownAll_eq, close_of_fine h.fine]
  -- the asynchronous connections are the ones from before
  let v := (w.setClient n { w.clients.get n with blocking := [] }).record
    ((w.clients.get n).blocking.map fun k => .close k.number) (w.clients.get n).closedLine
  have hclient : v.clients.get n = { w.clients.get n with blocking := [] } :=
    Store.get_set_self _ _ _
  show closeAsync n (.ofDuration d) v = _
  simp only [closeAsync, asyncCloseAll_of_not_begins _ hunbegun, hclient]
  rw [World.record_setClient_record, List.append_nil]
  rfl

/-- It has dropped every asynchronous connection that there was. -/
theorem dropsNone_of_unsaved {n : Nat} {d : Duration} {w : World} (h : Unsaved n d w) :
    w.DropsNone n (shutdownAll n (.duration d) w).2 ↔ (w.clients.get n).tracked true = [] := by
  rw [shutdownAll_of_unsaved h]
  constructor
  · rintro ⟨events, hevents, hkept⟩
    obtain rfl := List.append_cancel_left hevents
    refine List.eq_nil_iff_forall_not_mem.mpr fun k hk => ?_
    have hattempts : Event.attempts true
        ((w.clients.get n).blocking.map fun k => .close k.number) = [] := by
      have hnumbers := Event.attempts_close true ((w.clients.get n).blocking.map Connection.number)
      rwa [List.map_map] at hnumbers
    obtain htracked | hbegun := hkept k hk
    · simp [World.record, World.setClient, tracked] at htracked
    · rw [hattempts] at hbegun
      cases hbegun
  · intro hnone
    refine ⟨_, rfl, fun k hk => ?_⟩
    rw [hnone] at hk
    cases hk

/-! ## 4. Shutdowns that spare -/

/-- A blocking connection that fails ends a shutdown before it looks at what it has been given. -/
theorem shutdownAll_of_close_error {n : Nat} {w : World} {e : Failure}
    (fails : (close n w).1 = .error e) (given : Value) : shutdownAll n given w = close n w := by
  simp only [shutdownAll, bind, Act.andThen]
  rcases hclose : close n w with ⟨e' | _, v⟩
  · rfl
  · rw [hclose] at fails
    cases fails

/-- What is no duration is refused when the blocking connections have been closed. -/
theorem shutdownAll_of_no_duration {n : Nat} {given : Value} (other : ∀ d, given ≠ .duration d)
    (w : World) : (∃ e, (shutdownAll n given w).1 = .error e) ∧
      (shutdownAll n given w).2 = (close n w).2 := by
  have hlimit : limitOf given = .error (given.lacks "total_seconds") := by
    unfold limitOf
    split
    · exact absurd rfl (other _)
    · rfl
  simp only [shutdownAll, bind, Act.andThen, hlimit, Act.ofExcept]
  rcases close n w with ⟨e | _, v⟩
  · exact ⟨⟨e, rfl⟩, rfl⟩
  · exact ⟨⟨_, rfl⟩, rfl⟩

/-- Whatever a shutdown is given, it closes connections in order unless nothing saves it. -/
theorem shutdownAll_closes_of_saved {n : Nat} {given : Value} {w : World}
    (saved : ∀ d, given = .duration d → ¬ Unsaved n d w) :
    w.Closes n (shutdownAll n given w).2 := by
  by_cases hduration : ∃ d, given = .duration d
  · obtain ⟨d, rfl⟩ := hduration
    by_cases hnonneg : 0 ≤ d.micros
    · exact (shutdownAll_closes n ⟨d, hnonneg⟩ w).1
    · cases hclose : (close n w).1 with
      | error e =>
        rw [shutdownAll_of_close_error hclose]
        exact (close_closes n w).1
      | ok _ =>
        exact absurd ⟨Int.not_le.mp hnonneg, (close_spares n w).1.mp hclose⟩ (saved d rfl)
  · rw [(shutdownAll_of_no_duration (not_exists.mp hduration) w).2]
    exact (close_closes n w).1

theorem spares_of_saved {n : Nat} {given : Value} {w : World}
    (saved : ∀ d, given = .duration d → ¬ Unsaved n d w) : Spares n given w := by
  refine ⟨(shutdownAll_closes_of_saved saved).dropsNone, fun hnone => ?_⟩
  have hkept := (close_spares n w).2
  by_cases hduration : ∃ d, given = .duration d
  · obtain ⟨d, rfl⟩ := hduration
    have hnegative : d.micros < 0 := by
      by_contra hnonneg
      exact hnone ⟨d, Int.not_lt.mp hnonneg, rfl⟩
    cases hclose : (close n w).1 with
    | error e =>
      rw [shutdownAll_of_close_error hclose]
      exact ⟨⟨e, hclose⟩, hkept⟩
    | ok _ => exact absurd ⟨hnegative, (close_spares n w).1.mp hclose⟩ (saved d rfl)
  · obtain ⟨hfails, hworld⟩ := shutdownAll_of_no_duration (not_exists.mp hduration) w
    exact ⟨hfails, hworld ▸ hkept⟩

end Client

/-! ## 5. Every shutdown -/

/-- What is known of a shutdown of the client of a number that is given something. -/
structure ShutdownSpares (n : Nat) (given : Item) (w : World) : Prop where
  /-- Only a negative duration makes it drop connections, and only if no blocking one fails. -/
  spares : Client.Spares n (given.toValue w) w ↔
    ∀ d, given.toValue w = .duration d → ¬ Client.Unsaved n d w
  /-- If there are no asynchronous connections, it has none to drop. -/
  drops : w.DropsNone n (Client.shutdownAll n (given.toValue w) w).2 ↔
    ∀ d, given.toValue w = .duration d → Client.Unsaved n d w →
      (w.clients.get n).tracked true = []
  /-- Where it spares connections it begins with those it takes off the client in order, each
  once. -/
  closes : Client.Spares n (given.toValue w) w →
    w.Closes n (Client.shutdownAll n (given.toValue w) w).2
  /-- Where it does not, it ends normally, and each asynchronous connection has a warning and no
  event. -/
  dropped : ∀ d, given.toValue w = .duration d → Client.Unsaved n d w →
    Client.shutdownAll n (given.toValue w) w = (.ok (),
      (w.setClient n { w.clients.get n with blocking := [], asynchronous := [] }).record
        ((w.clients.get n).blocking.map fun k => .close k.number)
        ((if (w.clients.get n).blocking.length = 0 then [] else
            [⟨.info, .clients, (w.clients.get n).kind ++ " closed " ++
              toString (w.clients.get n).blocking.length ++ " connection(s)"⟩]) ++
          (w.clients.get n).asynchronous.map fun k =>
            ⟨.warning, .clients, "Timed out after " ++ (Limit.ofDuration d).text ++
              "s closing <connection " ++ toString k.number ++ ">"⟩))
  /-- It is what the method of a client does. -/
  called : Method.call ⟨.client n, "shutdown_async", ⟨[given], []⟩⟩ w =
    ((Client.shutdownAll n (given.toValue w) w).1.map fun _ => Method.nothing,
      (Client.shutdownAll n (given.toValue w) w).2)

theorem shutdown_spares_iff (n : Nat) (given : Item) (w : World) : ShutdownSpares n given w := by
  have hsaved : Client.Spares n (given.toValue w) w →
      ∀ d, given.toValue w = .duration d → ¬ Client.Unsaved n d w := by
    intro hspares d hd unsaved
    have hnone : ¬ (given.toValue w).IsTimeout := by
      rintro ⟨d', hnonneg, hd'⟩
      obtain rfl := Value.duration.inj (hd.symm.trans hd')
      exact Int.not_le.mpr unsaved.negative hnonneg
    obtain ⟨⟨e, he⟩, -⟩ := hspares.refused hnone
    rw [hd, Client.shutdownAll_of_unsaved unsaved] at he
    cases he
  constructor
  case spares => exact ⟨hsaved, Client.spares_of_saved⟩
  case closes => exact fun hspares => Client.shutdownAll_closes_of_saved (hsaved hspares)
  case called => exact Method.call_shutdown_async n given w
  case dropped =>
    intro d hd unsaved
    rw [hd, Client.shutdownAll_of_unsaved unsaved, Client.closedLine_eq]
    rfl
  case drops =>
    constructor
    · intro hdrops d hd unsaved
      rw [hd] at hdrops
      exact (Client.dropsNone_of_unsaved unsaved).mp hdrops
    · intro hnone
      by_cases hunsaved : ∃ d, given.toValue w = .duration d ∧ Client.Unsaved n d w
      · obtain ⟨d, hd, unsaved⟩ := hunsaved
        rw [hd]
        exact (Client.dropsNone_of_unsaved unsaved).mpr (hnone d hd unsaved)
      · refine (Client.shutdownAll_closes_of_saved fun d hd unsaved => ?_).dropsNone
        exact hunsaved ⟨d, hd, unsaved⟩

/-- A client has opened an asynchronous connection that would close normally. -/
def World.oneOpen : World :=
  Deployment.run 0 (Deployment.made none (.live 0) (.initial .empty ClassPath.modules default))
    [.call .start, .connect true]

theorem negative_limit_drops :
    (World.oneOpen.clients.get 0).tracked true = [1] ∧
      World.oneOpen.conducts.asynchronous 1 = .normal ∧
      ∃ v, Method.call ⟨.client 0, "shutdown_async",
          ⟨[.value (.duration ⟨-1000000, by decide⟩)], []⟩⟩ .oneOpen = (.ok Method.nothing, v) ∧
        (v.clients.get 0).tracked true = [] ∧ v.events = World.oneOpen.events ∧
        ¬ World.oneOpen.DropsNone 0 v := by
  refine ⟨rfl, rfl, _, rfl, rfl, rfl, ?_⟩
  rintro ⟨events, hevents, hkept⟩
  obtain rfl : events = [] := List.append_cancel_left (hevents.symm.trans (List.append_nil _).symm)
  obtain h | h := hkept 1 (by decide) <;> cases h

end RedisLink
