/-
RedisLink.Proofs.Lifecycle.Order — connections are tracked in the reverse of the
order in which they were opened.

Numbers are given out in ascending order, and a client puts each new connection
in front. So what a history has opened ascends, what the present client tracks
descends (`Ordered`), and both together with the ledger leave no choice: of each
kind a client tracks, the newest first, exactly those of its connections whose
closing has not begun (`tracked_eq_reverse`).
-/
import RedisLink.Proofs.Lifecycle.Conservation

namespace RedisLink.Deployment

/-! ## 1. Runs in two parts -/

theorem run_append {n : Nat} : ∀ {w : World} (ops more : List Operation),
    run n w (ops ++ more) = run n (run n w ops) more
  | _, [], _ => rfl
  | _, _ :: ops, more => run_append ops more

theorem trace_append {n : Nat} : ∀ {w : World} (ops more : List Operation),
    trace n w (ops ++ more) = trace n w ops ++ trace n (run n w ops) more
  | _, [], _ => rfl
  | w, op :: ops, more => by
    rw [List.cons_append, trace, trace, trace_append ops more]
    rfl

/-! ## 2. Ascending and descending numbers -/

/-- The numbers of a history are in order. -/
structure Ordered (n : Nat) (h : History) (w : World) : Prop where
  ascending : ((h.openings n).map Opening.number).Pairwise (· < ·)
  descending : ∀ a, (held n a w).Pairwise (· > ·)

section

variable {n base : Nat} {h : History} {m : Moment}

/-- A moment that opens nothing and tracks no more than before keeps the order. -/
theorem Ordered.quiet (O : Ordered n h m.before) (hopen : m.openings n = [])
    (hheld : ∀ a, (held n a m.after).Sublist (held n a m.before)) :
    Ordered n (h ++ [m]) m.after := by
  refine ⟨?_, fun a => (O.descending a).sublist (hheld a)⟩
  rw [History.openings_append, History.openings_singleton, hopen, List.append_nil]
  exact O.ascending

/-- A new connection has a number beyond all others, and stands in front. -/
theorem Ordered.opens (O : Ordered n h m.before) (L : Ledger n base h m.before) {client : Nat}
    {a : Bool} {k : Connection} (kind : m.operation.kind? = some a)
    (present : clientIn n m.before = some client) (kept : clientIn n m.after = some client)
    (opens : m.before.Opens client a k m.after) : Ordered n (h ++ [m]) m.after := by
  have hnumber := opens.number
  constructor
  · rw [History.openings_append, History.openings_singleton,
      Moment.openings_of_opens present kind opens, List.map_append]
    refine List.pairwise_append.mpr ⟨O.ascending, List.pairwise_singleton _ _, ?_⟩
    intro i hi j hj
    obtain ⟨o, ho, rfl⟩ := List.mem_map.mp hi
    have hle := (L.bounded o ho).1
    have hj : j = k.number := List.mem_singleton.mp hj
    omega
  · intro b
    have hdescending := O.descending b
    rw [held_eq present] at hdescending
    rw [held_eq kept, opens.tracked]
    split
    · refine List.pairwise_cons.mpr ⟨fun i hi => ?_, hdescending⟩
      have hle := (L.bounded _ (L.owned client present b i hi)).1
      have : i ≤ m.before.opened := hle
      omega
    · exact hdescending

theorem Ordered.step (O : Ordered n h m.before) (L : Ledger n base h m.before)
    (effect : Effect n m) : Ordered n (h ++ [m]) m.after := by
  have hsilent : ∀ {evs}, m.after.events = m.before.events ++ evs → Event.openings evs = [] →
      m.openings n = [] := by
    intro evs hevs hnone
    exact Moment.openings_nil (by rw [Moment.events_eq hevs, hnone])
  cases effect with
  | idle same =>
    refine O.quiet (hsilent (by rw [same.events, List.append_nil]) rfl) fun a => ?_
    have hclient : clientIn n m.after = clientIn n m.before := same.client n
    rw [held, held, hclient, same.clients]
  | reused a k _ _ _ _ _ same =>
    refine O.quiet (hsilent (by rw [same, List.append_nil]) rfl) fun b => ?_
    rw [same]
  | built c _ _ _ present clients untracked _ events =>
    refine O.quiet (hsilent (by rw [events, List.append_nil]) rfl) fun a => ?_
    rw [held_eq present, clients, Store.get_add_size, untracked]
    exact List.nil_sublist _
  | opened client a k kind _ present kept opens => exact O.opens L kind present kept opens
  | closed client _ _ _ present kept _ closes =>
    obtain ⟨evs, hevs, hnone, htracked⟩ := closes.events
    refine O.quiet (hsilent hevs hnone) fun a => ?_
    rw [held_eq present, held_eq kept, htracked a]
    exact List.sublist_append_right _ _
  | released client _ _ present absent _ closes _ =>
    obtain ⟨evs, hevs, hnone, -⟩ := closes.events
    refine O.quiet (hsilent hevs hnone) fun a => ?_
    simp [held, absent]

end

/-- Every run of a deployment that has just been made is in order. -/
theorem Ordered.of_run (topology : Option TopologyRef) (settings : SettingsRef) (w : World)
    (ops : List Operation) :
    Ordered w.deployments.size
      (trace w.deployments.size (made topology settings w) ops)
      (run w.deployments.size (made topology settings w) ops) := by
  have hboth := trace_induction (n := w.deployments.size)
    (P := fun h v => Ledger w.deployments.size w.clients.size h v ∧ Ordered w.deployments.size h v)
    (fun h v op ⟨L, O⟩ => ⟨L.step (m := .of _ op v) (Effect.of_perform _ op v),
      O.step (m := .of _ op v) L (Effect.of_perform _ op v)⟩)
    (w := made topology settings w) ⟨Ledger.of_run topology settings w [], ?_⟩ ops
  · exact hboth.2
  · obtain ⟨habsent, -⟩ := made_idle topology settings w
    refine ⟨List.Pairwise.nil, fun a => ?_⟩
    simp [held, clientIn, habsent]

/-! ## 3. What is tracked -/

/-- The connections of a kind that a client has opened and whose closing has not begun, by their
numbers in the order of opening. -/
def History.untouched (h : History) (n client : Nat) (a : Bool) : List Nat :=
  (h.openedBy n client a).filter fun k => h.attempts a k = 0

/-- The present client tracks its untouched connections, the newest first. -/
theorem tracked_eq_reverse {n base c : Nat} {h : History} {w : World} (O : Ordered n h w)
    (L : Ledger n base h w) (present : clientIn n w = some c) (a : Bool) :
    (w.clients.get c).tracked a = (h.untouched n c a).reverse := by
  have hdescending := O.descending a
  rw [held_eq present] at hdescending
  have hascending : (h.untouched n c a).Pairwise (· < ·) :=
    (O.ascending.sublist (List.filter_sublist.map _)).sublist List.filter_sublist
  have hreversed : (h.untouched n c a).reverse.Pairwise (· > ·) :=
    List.pairwise_reverse.mpr hascending
  -- two descending lists with the same members are equal
  refine List.Perm.eq_of_pairwise (fun i j _ _ hij hji => absurd hij (Nat.lt_asymm hji))
    hdescending hreversed ?_
  refine (List.perm_ext_iff_of_nodup (hdescending.imp Nat.ne_of_gt)
    (hreversed.imp Nat.ne_of_gt)).mpr fun k => ?_
  rw [List.mem_reverse, History.untouched, List.mem_filter, decide_eq_true_eq]
  constructor
  · intro hk
    have ho := L.owned c present a k hk
    refine ⟨History.mem_openedBy.mpr ho, ?_⟩
    obtain ⟨-, hnone⟩ | ⟨hno, -⟩ := L.once ho
    · exact hnone
    · exact absurd hk hno
  · rintro ⟨ho, hnone⟩
    obtain ⟨hk, -⟩ | ⟨-, hone⟩ := L.once (History.mem_openedBy.mp ho)
    · exact hk
    · rw [hnone] at hone
      cases hone

end RedisLink.Deployment
