/-
RedisLink.Proofs.Lifecycle.Agreement — what operations and writes have to do
with each other.

Operations that are not writes keep the sources of clients and leave alone what
is configured, `World.Proceeds`. Writes leave alone everything that those
operations go by: the world before a write and the one after it agree on
clients and connections, `World.SameRuntime`. In two worlds that agree like
this an operation does the same, `Act.Coincides`. Two operations look at what is
configured even so, and do the same if that reads alike: a release that waits
reads its timeout, and a call for a connection whether callers share.
-/
import RedisLink.Proofs.Lifecycle.Moves
import RedisLink.Proofs.Translation

namespace RedisLink

/-! ## 1. Operations keep sources and what is configured -/

/-- What a timeout reads depends on the environment and on live settings alone. -/
theorem SettingsRef.timeout_congr {w v : World} (env : v.env = w.env) (live : v.live = w.live)
    (ref : SettingsRef) (name : TimeoutName) : ref.timeout name v = ref.timeout name w := by
  cases ref <;> cases name <;> simp [SettingsRef.timeout, env, live]

/-- Clients that were there are still there with their sources. -/
structure World.KeepsSources (w v : World) : Prop where
  size : w.clients.size ≤ v.clients.size
  source : ∀ i, i < w.clients.size → (v.clients.get i).source = (w.clients.get i).source

/-- What is configured for a deployment reads as before. -/
structure World.KeepsReads (n : Nat) (w v : World) : Prop where
  env : v.env = w.env
  live : v.live = w.live
  settings : (v.deployments.get n).settings = (w.deployments.get n).settings
  share : (v.deployments.get n).share = (w.deployments.get n).share

/-- What an operation on a deployment does that is not a write. -/
structure World.Proceeds (n : Nat) (w v : World) : Prop where
  sources : w.KeepsSources v
  reads : w.KeepsReads n v

namespace World

variable {n : Nat} {u v w : World}

theorem KeepsSources.of_eq (h : v.clients = w.clients) : w.KeepsSources v :=
  ⟨Nat.le_of_eq (by rw [h]), fun _ _ => by rw [h]⟩

theorem KeepsSources.trans (h : u.KeepsSources v) (h' : v.KeepsSources w) : u.KeepsSources w :=
  ⟨Nat.le_trans h.size h'.size, fun i hi =>
    (h'.source i (Nat.lt_of_lt_of_le hi h.size)).trans (h.source i hi)⟩

/-- A client may be replaced by one with the same source. -/
theorem KeepsSources.of_set {client : Nat} {c : Client}
    (clients : v.clients = w.clients.set client c)
    (source : c.source = (w.clients.get client).source) : w.KeepsSources v := by
  refine ⟨Nat.le_of_eq (by rw [clients, Store.size_set]), fun i _ => ?_⟩
  by_cases hi : i = client
  · rw [clients, hi, Store.get_set_self, source]
  · rw [clients, Store.get_set_of_ne _ _ hi]

/-- A new client takes the place of none. -/
theorem KeepsSources.of_add {c : Client} (clients : v.clients = w.clients.add c) :
    w.KeepsSources v := by
  refine ⟨?_, fun i hi => ?_⟩
  · rw [clients, Store.size_add]
    exact Nat.le_succ _
  · rw [clients, Store.get_add_of_ne _ _ (Nat.ne_of_lt hi)]

theorem KeepsReads.trans (h : u.KeepsReads n v) (h' : v.KeepsReads n w) : u.KeepsReads n w :=
  ⟨h'.env.trans h.env, h'.live.trans h.live, h'.settings.trans h.settings,
    h'.share.trans h.share⟩

theorem Proceeds.refl (n : Nat) (w : World) : w.Proceeds n w :=
  ⟨.of_eq rfl, rfl, rfl, rfl, rfl⟩

theorem Proceeds.trans (h : u.Proceeds n v) (h' : v.Proceeds n w) : u.Proceeds n w :=
  ⟨h.sources.trans h'.sources, h.reads.trans h'.reads⟩

/-- Each move proceeds. -/
theorem Move.proceeds (h : w.Move n v) : w.Proceeds n v := by
  cases h with
  | record events log => exact ⟨.of_eq rfl, rfl, rfl, rfl, rfl⟩
  | call => exact ⟨.of_eq rfl, rfl, rfl, rfl, rfl⟩
  | number k => exact ⟨.of_eq rfl, rfl, rfl, rfl, rfl⟩
  | setClient client c source => exact ⟨.of_set rfl source, rfl, rfl, rfl, rfl⟩
  | addClient c next => exact ⟨.of_add rfl, rfl, rfl, rfl, rfl⟩
  | setDeployment d settings share =>
    refine ⟨.of_eq rfl, rfl, rfl, ?_, ?_⟩
    · simpa [World.setDeployment] using settings
    · simpa [World.setDeployment] using share

theorem Moves.proceeds (h : w.Moves n v) : w.Proceeds n v := by
  induction h with
  | refl => exact .refl n w
  | tail _ move ih => exact ih.trans move.proceeds

end World

namespace Deployment

/-- Every operation that is not a write proceeds. -/
theorem perform_proceeds {n : Nat} {op : Operation} (hop : op.isChange = false) (w : World) :
    w.Proceeds n (op.perform n w).2 :=
  (perform_moves hop w).proceeds

/-- Writes keep the sources of clients too. -/
theorem perform_keepsSources (n : Nat) (op : Operation) (w : World) :
    w.KeepsSources (op.perform n w).2 := by
  rcases op.change_cases with hop | ⟨c, rfl⟩
  · exact (perform_proceeds hop w).sources
  · rw [perform_change_after]
    exact .of_eq (c.make_same w).clients

/-- Nothing installs modules. -/
theorem perform_installed (n : Nat) (op : Operation) (w : World) :
    (op.perform n w).2.installed = w.installed := by
  rcases op.change_cases with hop | ⟨c, rfl⟩
  · exact (perform_configuration hop w).installed
  · rw [perform_change_after]
    exact (c.make_edit w).quiet.1

end Deployment

/-! ## 2. Operations in worlds that agree on clients and connections -/

/-- Two worlds agree on everything that a deployment with a client goes by, apart from what is
configured. -/
structure World.SameRuntime (n : Nat) (w v : World) : Prop where
  installed : v.installed = w.installed
  conducts : v.conducts = w.conducts
  called : v.called = w.called
  opened : v.opened = w.opened
  clients : v.clients = w.clients
  events : v.events = w.events
  log : v.log = w.log
  client : (v.deployments.get n).client = (w.deployments.get n).client
  shared : ∀ a, (v.deployments.get n).shared a = (w.deployments.get n).shared a

/-- An operation does the same in two worlds: it gives the same, and the worlds after it agree. -/
structure Act.Coincides {α : Type} (n : Nat) (act : Act α) (w v : World) : Prop where
  answer : (act v).1 = (act w).1
  after : (act w).2.SameRuntime n (act v).2

namespace World.SameRuntime

variable {n : Nat} {u v w : World}

theorem refl (n : Nat) (w : World) : w.SameRuntime n w :=
  ⟨rfl, rfl, rfl, rfl, rfl, rfl, rfl, rfl, fun _ => rfl⟩

theorem symm (h : w.SameRuntime n v) : v.SameRuntime n w :=
  ⟨h.installed.symm, h.conducts.symm, h.called.symm, h.opened.symm, h.clients.symm,
    h.events.symm, h.log.symm, h.client.symm, fun a => (h.shared a).symm⟩

theorem trans (h : u.SameRuntime n v) (h' : v.SameRuntime n w) : u.SameRuntime n w :=
  ⟨h'.installed.trans h.installed, h'.conducts.trans h.conducts, h'.called.trans h.called,
    h'.opened.trans h.opened, h'.clients.trans h.clients, h'.events.trans h.events,
    h'.log.trans h.log, h'.client.trans h.client, fun a => (h'.shared a).trans (h.shared a)⟩

theorem record (h : w.SameRuntime n v) (events : List Event) (log : List LogLine) :
    (w.record events log).SameRuntime n (v.record events log) :=
  { h with
    events := congrArg (· ++ events) h.events
    log := congrArg (· ++ log) h.log }

theorem countCall (h : w.SameRuntime n v) : w.countCall.SameRuntime n v.countCall :=
  { h with called := congrArg (· + 1) h.called }

theorem setClient (h : w.SameRuntime n v) (client : Nat) (c : Client) :
    (w.setClient client c).SameRuntime n (v.setClient client c) :=
  { h with clients := congrArg (·.set client c) h.clients }

theorem track (h : w.SameRuntime n v) (client : Nat) (a : Bool) (k : Connection) :
    (w.track client a k).SameRuntime n (v.track client a k) :=
  { h with
    opened := rfl
    clients := by simp only [World.track, World.setClient, h.clients] }

theorem setDeployment (h : w.SameRuntime n v) (d d' : Deployment) (client : d'.client = d.client)
    (shared : ∀ a, d'.shared a = d.shared a) :
    (w.setDeployment n d).SameRuntime n (v.setDeployment n d') :=
  { h with
    client := by simpa [World.setDeployment] using client
    shared := fun a => by simpa [World.setDeployment] using shared a }

end World.SameRuntime

namespace Act

variable {α β : Type} {n : Nat} {w v : World}

theorem Coincides.map {act : Act α} (h : act.Coincides n w v) (f : α → β) :
    (act.map f).Coincides n w v := by
  refine ⟨?_, ?_⟩
  · rw [Deployment.map_answer, Deployment.map_answer, h.answer]
  · rw [Deployment.map_after, Deployment.map_after]
    exact h.after

/-- Two operations one after the other. -/
theorem Coincides.andThen {act : Act α} {next : α → Act β} (h : act.Coincides n w v)
    (hnext : ∀ x {w v : World}, w.SameRuntime n v → (next x).Coincides n w v) :
    (act.andThen next).Coincides n w v := by
  obtain ⟨hanswer, hafter⟩ := h
  unfold Act.andThen
  rcases hw : act w with ⟨r, w'⟩
  rcases hv : act v with ⟨r', v'⟩
  rw [hw, hv] at hanswer hafter
  obtain rfl : r' = r := hanswer
  constructor <;> simp only [hw, hv] <;> cases r'
  · rfl
  · exact (hnext _ hafter).answer
  · exact hafter
  · exact (hnext _ hafter).after

end Act

namespace Client

variable {n : Nat} {w v : World}

theorem connect_coincides (h : w.SameRuntime n v) (client : Nat) (a : Bool) :
    (connect client a).Coincides n w v := by
  have hget : v.clients.get client = w.clients.get client := by rw [h.clients]
  constructor <;>
    simp only [connect, hget, h.installed, h.conducts, h.called, h.opened] <;>
    rcases (w.clients.get client).plan w.installed a with ⟨lines, e | b⟩
  · rfl
  · cases w.conducts.calls w.called <;> rfl
  · exact h.record _ _
  · cases w.conducts.calls w.called with
    | some e => exact h.countCall.record _ _
    | none => exact (h.countCall.track _ _ _).record _ _

theorem close_coincides (h : w.SameRuntime n v) (client : Nat) :
    (close client).Coincides n w v := by
  constructor <;> simp only [close, h.clients, h.conducts]
  exact (h.setClient _ _).record _ _

theorem closeAsync_coincides (h : w.SameRuntime n v) (client : Nat) (limit : Limit) :
    (closeAsync client limit).Coincides n w v := by
  constructor <;> simp only [closeAsync, h.clients, h.conducts]
  exact (h.setClient _ _).record _ _

theorem shutdownAll_coincides (h : w.SameRuntime n v) (client : Nat) (timeout : Value) :
    (shutdownAll client timeout).Coincides n w v := by
  refine (close_coincides h client).andThen fun _ _ _ h' => ?_
  cases hl : limitOf timeout with
  | error e => exact ⟨rfl, h'⟩
  | ok limit => exact closeAsync_coincides h' client limit

end Client

namespace Deployment

variable {n : Nat} {w v : World}

/-- A start that finds a client does nothing. -/
theorem start_coincides (h : w.SameRuntime n v) (present : clientIn n w ≠ none) :
    (start n).Coincides n w v := by
  obtain ⟨client, hc⟩ := Option.ne_none_iff_exists'.mp present
  have hc' : clientIn n v = some client := h.client.trans hc
  constructor <;> simp only [start, hc, hc']
  exact h

/-- A connection is handed out alike if callers share alike. -/
theorem handOut_coincides (h : w.SameRuntime n v) (a : Bool)
    (share : (v.deployments.get n).share.truthy = (w.deployments.get n).share.truthy) :
    (handOut n a).Coincides n w v := by
  have hclient := h.client
  cases hc : (w.deployments.get n).client with
  | none =>
    rw [hc] at hclient
    constructor <;> simp only [handOut, hc, hclient]
    exact h
  | some client =>
    rw [hc] at hclient
    have hconnect := Client.connect_coincides h client a
    cases hs : (w.deployments.get n).share.truthy with
    | false =>
      rw [hs] at share
      constructor <;> simp only [handOut, hc, hclient, hs, share]
      · exact hconnect.answer
      · exact hconnect.after
    | true =>
      rw [hs] at share
      have hshared := h.shared a
      cases hk : (w.deployments.get n).shared a with
      | some k =>
        rw [hk] at hshared
        constructor <;> simp only [handOut, hc, hclient, hs, share, hk, hshared, if_true]
        exact h
      | none =>
        rw [hk] at hshared
        rcases hw : Client.connect client a w with ⟨r, w'⟩
        rcases hv : Client.connect client a v with ⟨r', v'⟩
        obtain ⟨hanswer, hafter⟩ := hconnect
        rw [hw, hv] at hanswer hafter
        obtain rfl : r' = r := hanswer
        constructor <;>
          simp only [handOut, hc, hclient, hs, share, hk, hshared, hw, hv, if_true] <;> cases r'
        · rfl
        · rfl
        · exact hafter
        · refine hafter.setDeployment _ _ ?_ fun b => ?_
          · cases a <;> exact h.client
          · cases a <;> cases b
            · rfl
            · exact h.shared true
            · exact h.shared false
            · rfl

theorem release_coincides (h : w.SameRuntime n v) (client : Nat) :
    (release n client).Coincides n w v := by
  constructor <;> simp only [release, h.clients]
  refine (h.setDeployment (w.deployments.get n).released (v.deployments.get n).released rfl
    fun a => ?_).record _ _
  cases a <;> rfl

theorem destroy_coincides (h : w.SameRuntime n v) : (destroy n).Coincides n w v := by
  have hclient := h.client
  cases hc : (w.deployments.get n).client with
  | none =>
    rw [hc] at hclient
    constructor <;> simp only [destroy, hc, hclient]
    exact h
  | some client =>
    rw [hc] at hclient
    by_cases hopen : (w.clients.get client).openAsyncCount = 0
    · have hclose := (Client.close_coincides h client).andThen fun _ _ _ h' =>
        release_coincides h' client
      have hw := destroy_eq hc hopen
      have hv := destroy_eq hclient (by rw [h.clients, hopen])
      exact ⟨by rw [hw, hv]; exact hclose.answer, by rw [hw, hv]; exact hclose.after⟩
    · constructor <;> simp only [destroy, hc, hclient, h.clients, ne_eq, hopen, not_false_eq_true,
        if_true]
      exact h

/-- A release that waits does the same if its timeout reads alike. -/
theorem destroyAsync_coincides (h : w.SameRuntime n v)
    (timeout : (v.deployments.get n).settings.timeout .shutdown v =
      (w.deployments.get n).settings.timeout .shutdown w) :
    (destroyAsync n).Coincides n w v := by
  have hclient := h.client
  cases hc : (w.deployments.get n).client with
  | none =>
    rw [hc] at hclient
    constructor <;> simp only [destroyAsync, hc, hclient]
    exact h
  | some client =>
    rw [hc] at hclient
    cases ht : (w.deployments.get n).settings.timeout .shutdown w with
    | error e =>
      rw [ht] at timeout
      constructor <;> simp only [destroyAsync, hc, hclient, ht, timeout]
      exact h
    | ok t =>
      rw [ht] at timeout
      have hclose := (Client.shutdownAll_coincides h client (.duration t.duration)).andThen
        fun _ _ _ h' => release_coincides h' client
      have hw := destroyAsync_eq hc ht
      have hv := destroyAsync_eq hclient timeout
      exact ⟨by rw [hw, hv]; exact hclose.answer, by rw [hw, hv]; exact hclose.after⟩

/-- An operation that is not a write does the same in worlds that agree, if what it reads live reads
alike: a release that waits its timeout, a call for a connection whether callers share. -/
theorem perform_coincides (h : w.SameRuntime n v) {op : Operation} (hop : op.isChange = false)
    (present : clientIn n w ≠ none)
    (timeout : op = .call .destroyAsync → (v.deployments.get n).settings.timeout .shutdown v =
      (w.deployments.get n).settings.timeout .shutdown w)
    (share : op.isHandOut = true →
      (v.deployments.get n).share.truthy = (w.deployments.get n).share.truthy) :
    (op.perform n).Coincides n w v := by
  have hdirect : ∀ {α : Type} (name : String) (act : Nat → Act α) (f : α → Option Connection),
      (∀ client, (act client).Coincides n w v) →
        (withClient n name fun client => (act client).map f).Coincides n w v := by
    intro α name act f hact
    obtain ⟨client, hc⟩ := Option.ne_none_iff_exists'.mp present
    have hc' : (v.deployments.get n).client = some client := h.client.trans hc
    constructor <;> simp only [withClient, hc, hc']
    · exact ((hact client).map f).answer
    · exact ((hact client).map f).after
  cases op with
  | call c =>
    cases c with
    | start => exact (start_coincides h present).map _
    | handOut a => exact (handOut_coincides h a (share rfl)).map _
    | destroy => exact (destroy_coincides h).map _
    | destroyAsync => exact (destroyAsync_coincides h (timeout rfl)).map _
    | change c => cases hop
  | connect a => exact hdirect _ _ _ fun client => Client.connect_coincides h client a
  | close => exact hdirect _ _ _ fun client => Client.close_coincides h client
  | closeAll t => exact hdirect _ _ _ fun client => Client.shutdownAll_coincides h client _

end Deployment

/-! ## 3. Writes are not noticed -/

/-- Writes lead to worlds that agree with those before. -/
theorem Change.make_sameRuntime (n : Nat) (c : Change) (w : World) :
    w.SameRuntime n (c.make w).2 := by
  obtain ⟨hinstalled, hconducts, hcalled, hlog⟩ := (c.make_edit w).quiet
  have hsame := c.make_same w
  exact ⟨hinstalled, hconducts, hcalled, hsame.opened, hsame.clients, hsame.events, hlog,
    hsame.client n, hsame.shared n⟩

end RedisLink
