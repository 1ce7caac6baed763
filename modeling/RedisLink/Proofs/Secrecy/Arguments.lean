/-
RedisLink.Proofs.Secrecy.Arguments — arguments bound without passwords.

Whether arguments can be bound to parameters depends on how many are given by
place and on the names of the others (`Signature.bind_eq`). So they are bound
alike under any view of their items, and a null could as well be left out.
-/
import RedisLink.Proofs.Secrecy.Items
import RedisLink.Session.Signature

namespace RedisLink

/-! ## 1. What binding depends on -/

namespace Signature

/-- Whether arguments can be bound, for which only the number of those given by place and the names
of the others matter. -/
def accept (s : Signature) (places : Nat) (names : List String) : Except Failure Unit :=
  match names.findSome? (s.namedProblem ((s.parameters.map (·.name)).take places)) with
  | some problem => .error (.wrongArguments s.callee problem)
  | none =>
    if s.parameters.length < places then .error (.wrongArguments s.callee (s.tooMany places))
    else
      let missing := (s.parameters.drop places).filter fun p =>
        p.default.isNone && !names.contains p.name
      if missing.isEmpty then .ok ()
      else .error (.wrongArguments s.callee ("missing " ++
        counted missing.length "required positional argument" ++ ": " ++
        enumerate (missing.map (·.name))))

/-- The item of each parameter, if the arguments are not refused. -/
def filled (s : Signature) (a : Arguments) : List Item :=
  a.positional ++ (s.parameters.drop a.positional.length).map fun p =>
    ((a.named.lookup p.name).or p.default).getD Item.null

theorem isNone_lookup (named : List (String × Item)) (name : String) :
    (named.lookup name).isNone = !(named.map Prod.fst).contains name := by
  induction named with
  | nil => rfl
  | cons entry rest ih =>
    obtain ⟨key, x⟩ := entry
    rw [List.lookup_cons, List.map_cons, List.contains_cons, Bool.not_or, ← ih]
    cases name == key <;> rfl

theorem lookup_eq_none {named : List (String × Item)} {name : String}
    (h : name ∉ named.map Prod.fst) : named.lookup name = none := by
  refine Option.isNone_iff_eq_none.mp ?_
  rw [isNone_lookup, List.contains_eq_mem, decide_eq_false h]
  rfl

theorem findSome?_congr {α β : Type} {f g : α → Option β} : ∀ {xs : List α},
    (∀ x ∈ xs, f x = g x) → xs.findSome? f = xs.findSome? g
  | [], _ => rfl
  | x :: xs, h => by
    rw [List.findSome?_cons, List.findSome?_cons, h x List.mem_cons_self,
      findSome?_congr fun y hy => h y (List.mem_cons_of_mem _ hy)]

theorem bind_eq (s : Signature) (a : Arguments) :
    s.bind a = (s.accept a.positional.length (a.named.map Prod.fst)).map fun _ => s.filled a := by
  unfold bind accept
  simp only [List.findSome?_map, Function.comp_def, isNone_lookup]
  generalize a.named.findSome? _ = problem
  cases problem with
  | some problem => rfl
  | none =>
    simp only
    split
    · rfl
    · split <;> rfl

/-- Items under a view that depends on the names of the parameters that they are given for. -/
def viewed (view : String → Item → Item) : List Parameter → List Item → List Item
  | p :: ps, x :: xs => view p.name x :: viewed view ps xs
  | [], xs => xs.map (view "")
  | _, [] => []

section

variable (view : String → Item → Item)

@[simp] theorem length_viewed : ∀ (ps : List Parameter) (xs : List Item),
    (viewed view ps xs).length = xs.length
  | [], _ => List.length_map _
  | _ :: _, [] => rfl
  | _ :: ps, _ :: xs => congrArg (· + 1) (length_viewed ps xs)

@[simp] theorem viewed_nil (ps : List Parameter) : viewed view ps [] = [] := by
  cases ps <;> rfl

theorem viewed_const (f : Item → Item) : ∀ (ps : List Parameter) (xs : List Item),
    viewed (fun _ => f) ps xs = xs.map f
  | [], _ => rfl
  | _ :: _, [] => rfl
  | _ :: ps, x :: xs => congrArg (f x :: ·) (viewed_const f ps xs)

theorem viewed_map (f : Item → Item) (h : ∀ name x, view name (f x) = view name x) :
    ∀ (ps : List Parameter) (xs : List Item), viewed view ps (xs.map f) = viewed view ps xs
  | [], xs => by simp [viewed, h]
  | _ :: _, [] => rfl
  | p :: ps, x :: xs => congrArg₂ List.cons (h p.name x) (viewed_map f h ps xs)

theorem viewed_append (f : Parameter → Item) : ∀ (ps : List Parameter) (xs : List Item),
    viewed view ps (xs ++ (ps.drop xs.length).map f) =
      viewed view ps xs ++ (ps.drop xs.length).map fun p => view p.name (f p)
  | [], xs => by simp
  | p :: ps, [] => by
    have ih := viewed_append f ps []
    rw [viewed_nil] at ih
    exact congrArg (view p.name (f p) :: ·) ih
  | p :: ps, x :: xs => congrArg (view p.name x :: ·) (viewed_append f ps xs)

theorem lookup_map_view (named : List (String × Item)) (name : String) :
    (named.map fun entry => (entry.1, view entry.1 entry.2)).lookup name =
      (named.lookup name).map (view name) := by
  induction named with
  | nil => rfl
  | cons entry rest ih =>
    obtain ⟨key, x⟩ := entry
    simp only [List.map_cons, List.lookup_cons, ih]
    by_cases h : name = key
    · simp [h]
    · rw [beq_false_of_ne h]

end

end Signature

/-- Arguments for parameters, under a view of their items. -/
def Arguments.viewed (view : String → Item → Item) (ps : List Parameter) (a : Arguments) :
    Arguments :=
  ⟨Signature.viewed view ps a.positional, a.named.map fun entry => (entry.1, view entry.1 entry.2)⟩

/-- A parameter whose default is the same under a view. -/
def Parameter.Plain (view : String → Item → Item) (p : Parameter) : Prop :=
  view p.name (p.default.getD Item.null) = p.default.getD Item.null

namespace Signature

variable {s : Signature}

/-- Arguments are bound alike under a view that leaves defaults as they are. -/
theorem bind_viewed {view : String → Item → Item} (plain : ∀ p ∈ s.parameters, p.Plain view)
    (a : Arguments) :
    s.bind (a.viewed view s.parameters) = (s.bind a).map (viewed view s.parameters) := by
  have hfilled : s.filled (a.viewed view s.parameters) = viewed view s.parameters (s.filled a) := by
    simp only [filled, Arguments.viewed, length_viewed, viewed_append, lookup_map_view]
    congr 1
    refine List.map_congr_left fun p hp => ?_
    have hplain := plain p (List.mem_of_mem_drop hp)
    cases a.named.lookup p.name with
    | some x => rfl
    | none => exact hplain.symm
  rw [bind_eq, bind_eq, hfilled]
  simp only [Arguments.viewed, length_viewed, List.map_map, Function.comp_def]
  cases s.accept a.positional.length (a.named.map Prod.fst) <;> rfl

theorem length_of_bind {a : Arguments} {items : List Item} (h : s.bind a = .ok items) :
    items.length = s.parameters.length := by
  have haccept : s.accept a.positional.length (a.named.map Prod.fst) = .ok () →
      a.positional.length ≤ s.parameters.length := by
    unfold accept
    split
    · intro h
      cases h
    · split
      · intro h
        cases h
      · omega
  rw [bind_eq] at h
  cases hok : s.accept a.positional.length (a.named.map Prod.fst) with
  | error e =>
    rw [hok] at h
    cases h
  | ok _ =>
    rw [hok] at h
    obtain rfl := Except.ok.inj h
    have hle := haccept hok
    simp only [filled, List.length_append, List.length_map, List.length_drop]
    omega

/-- A call without parameters takes no arguments. -/
theorem bind_none_cases (callee : String) (arguments : Arguments) :
    (arguments = ⟨[], []⟩ ∧ Signature.bind ⟨callee, []⟩ arguments = .ok []) ∨
      (arguments ≠ ⟨[], []⟩ ∧ ∃ e, Signature.bind ⟨callee, []⟩ arguments = .error e) := by
  obtain ⟨positional, named⟩ := arguments
  cases named with
  | cons entry rest =>
    right
    simp [Signature.bind, Signature.namedProblem]
  | nil =>
    cases positional with
    | cons x rest =>
      right
      simp [Signature.bind]
    | nil => exact .inl ⟨rfl, rfl⟩

/-- A null given by name to a parameter that is null by default could be left out. -/
theorem bind_named_null {name : String} {positional : List Item}
    {first rest : List (String × Item)} (known : name ∈ s.parameters.map (·.name))
    (free : name ∉ (s.parameters.map (·.name)).take positional.length)
    (nullable : ∀ p ∈ s.parameters, p.name = name → p.default = some Item.null)
    (once : name ∉ (first ++ rest).map Prod.fst) :
    s.bind ⟨positional, first ++ (name, Item.null) :: rest⟩ =
      s.bind ⟨positional, first ++ rest⟩ := by
  have hproblem :
      s.namedProblem ((s.parameters.map (·.name)).take positional.length) name = none := by
    rw [namedProblem, List.contains_iff_mem.mpr known]
    simp [free]
  have hmissing : ∀ p ∈ s.parameters.drop positional.length,
      (p.default.isNone && !((first ++ (name, Item.null) :: rest).map Prod.fst).contains p.name) =
        (p.default.isNone && !((first ++ rest).map Prod.fst).contains p.name) := by
    intro p hp
    by_cases h : p.name = name
    · rw [nullable p (List.mem_of_mem_drop hp) h]
      rfl
    · rw [List.map_append, List.map_cons, List.map_append]
      simp only [List.contains_append, List.contains_cons, beq_false_of_ne h, Bool.false_or]
  have haccept : s.accept positional.length ((first ++ (name, Item.null) :: rest).map Prod.fst) =
      s.accept positional.length ((first ++ rest).map Prod.fst) := by
    unfold accept
    rw [List.filter_congr hmissing]
    simp only [List.map_append, List.map_cons, List.findSome?_append, List.findSome?_cons, hproblem]
  have hfilled : s.filled ⟨positional, first ++ (name, Item.null) :: rest⟩ =
      s.filled ⟨positional, first ++ rest⟩ := by
    unfold filled
    refine congrArg (positional ++ ·) (List.map_congr_left fun p hp => ?_)
    by_cases h : p.name = name
    · have hfirst : name ∉ first.map Prod.fst := fun hm =>
        once (by rw [List.map_append]; exact List.mem_append_left _ hm)
      rw [h, lookup_eq_none once, List.lookup_append, lookup_eq_none hfirst, List.lookup_cons,
        beq_self_eq_true, nullable p (List.mem_of_mem_drop hp) h]
      rfl
    · rw [List.lookup_append, List.lookup_append, List.lookup_cons, beq_false_of_ne h]
  rw [bind_eq, bind_eq, haccept, hfilled]

/-- A null given in the last place to a parameter that is null by default could be left out. -/
theorem bind_last_null {name : String} {positional : List Item} {named : List (String × Item)}
    (here : s.parameters[positional.length]? = some (Signature.nullable name))
    (once : name ∉ named.map Prod.fst) :
    s.bind ⟨positional ++ [Item.null], named⟩ = s.bind ⟨positional, named⟩ := by
  obtain ⟨hlt, hp⟩ := List.getElem?_eq_some_iff.mp here
  have hdrop : s.parameters.drop positional.length =
      Signature.nullable name :: s.parameters.drop (positional.length + 1) := by
    rw [List.drop_eq_getElem_cons hlt, hp]
  have htake : (s.parameters.map (·.name)).take (positional.length + 1) =
      (s.parameters.map (·.name)).take positional.length ++ [name] := by
    rw [List.take_add_one, List.getElem?_map, here]
    rfl
  have hproblem : ∀ key ∈ named.map Prod.fst,
      s.namedProblem ((s.parameters.map (·.name)).take (positional.length + 1)) key =
        s.namedProblem ((s.parameters.map (·.name)).take positional.length) key := by
    intro key hkey
    have hne : (key == name) = false := beq_false_of_ne fun h => once (h ▸ hkey)
    simp only [namedProblem, htake, List.contains_append, List.contains_cons, hne,
      List.contains_nil, Bool.or_false]
  have haccept : s.accept (positional.length + 1) (named.map Prod.fst) =
      s.accept positional.length (named.map Prod.fst) := by
    unfold accept
    have h : ¬ s.parameters.length < positional.length := by omega
    have h' : ¬ s.parameters.length < positional.length + 1 := by omega
    rw [findSome?_congr hproblem, hdrop, if_neg h, if_neg h']
    rfl
  have hfilled : s.filled ⟨positional ++ [Item.null], named⟩ = s.filled ⟨positional, named⟩ := by
    have hnull : ((named.lookup name).or (some Item.null)).getD Item.null = Item.null := by
      rw [lookup_eq_none once]
      rfl
    simp only [filled, hdrop, List.length_append, List.length_cons, List.length_nil, List.map_cons,
      List.append_assoc, List.cons_append, List.nil_append, Nat.zero_add]
    rw [show (Signature.nullable name).default = some Item.null from rfl,
      show (Signature.nullable name).name = name from rfl, hnull]
  rw [bind_eq, bind_eq, hfilled]
  simp only [List.length_append, List.length_cons, List.length_nil, Nat.zero_add, haccept]

end Signature

/-- Arguments without passwords. -/
def Arguments.redacted (a : Arguments) : Arguments := a.viewed (fun _ => Item.redacted) []

theorem Arguments.viewed_redacted (a : Arguments) (ps : List Parameter) :
    a.viewed (fun _ => Item.redacted) ps = a.redacted := by
  simp [redacted, Arguments.viewed, Signature.viewed_const]

theorem Arguments.concealed_redacted (a : Arguments) (ps : List Parameter) :
    a.redacted.viewed Item.concealed ps = a.viewed Item.concealed ps := by
  simp [redacted, Arguments.viewed, Signature.viewed_const, Item.concealed_redacted,
    Signature.viewed_map, Function.comp_def]

namespace Signature

variable {s : Signature}

@[simp] theorem plain_required (name : String) :
    (required name).Plain fun _ => Item.redacted := rfl

@[simp] theorem plain_optional (name : String) (v : Value) :
    (optional name v).Plain fun _ => Item.redacted := rfl

@[simp] theorem plain_nullable (name : String) :
    (nullable name).Plain fun _ => Item.redacted := rfl

/-- Arguments are bound alike without passwords. -/
theorem bind_redacted (plain : ∀ p ∈ s.parameters, p.Plain fun _ => Item.redacted)
    (a : Arguments) : s.bind a.redacted = (s.bind a).map (List.map Item.redacted) := by
  rw [← a.viewed_redacted s.parameters, bind_viewed plain]
  exact congrArg (Except.map · _) (funext (viewed_const _ _))

end Signature

end RedisLink
