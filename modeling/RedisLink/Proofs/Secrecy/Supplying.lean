/-
RedisLink.Proofs.Secrecy.Supplying — passwords supplied to the makers of objects.

A maker is given a password in its place among the parameters or by its name. What
it gets once the password is left out of it is always the same, whatever the
password is and also if there is none: `Session.bound_alike`.
-/
import RedisLink.Proofs.Secrecy.Showing

namespace RedisLink

/-! ## 1. Supplying a password -/

/-- A password as it is supplied, or is not. -/
inductive Password
  | absent
  | null
  | text (password : String)

namespace Password

/-- The value that stands for a password. -/
def value : Password → Value
  | .text password => .text password
  | _ => .null

/-- What is written down for a password. -/
def written : Password → List Term
  | .absent => []
  | p => [.value p.value]

@[simp] theorem written_absent : absent.written = [] := rfl

@[simp] theorem concealed_value (p : Password) :
    (Item.value p.value).concealed "password" = Item.null := by
  cases p <;> rfl

end Password

/-- The place of the password among the parameters for making an object. -/
def ObjectKind.passwordPlace (kind : ObjectKind) : Option Nat :=
  kind.parameters.findIdx? fun p => p.name = "password"

/-- The way in which a password is given to the maker of an object, with all other arguments. -/
inductive Manner
  /-- In its place, before others. -/
  | place (before after : List Term) (named : List (String × Term))
  /-- In the last place, where it may be left out. -/
  | last (before : List Term) (named : List (String × Term))
  /-- By its name, where it may be left out. -/
  | name (positional : List Term) (first rest : List (String × Term))

namespace Manner

/-- The arguments with a password. -/
def written : Manner → Password → WrittenArguments
  | .place before after named, p => ⟨before ++ .value p.value :: after, named⟩
  | .last before named, p => ⟨before ++ p.written, named⟩
  | .name positional first rest, p =>
    ⟨positional, first ++ p.written.map (fun t => ("password", t)) ++ rest⟩

/-- Whether a password is given to a kind of objects in this way, and once. -/
def Fits (kind : ObjectKind) : Manner → Prop
  | .place before _ _ => kind.passwordPlace = some before.length
  | .last before named =>
    kind.passwordPlace = some before.length ∧ "password" ∉ named.map Prod.fst
  | .name positional first rest =>
    (∃ n, kind.passwordPlace = some n ∧ positional.length ≤ n) ∧
      "password" ∉ (first ++ rest).map Prod.fst

end Manner

/-! ## 2. Arguments with a password -/

namespace ObjectKind

theorem passwordPlace_spec {kind : ObjectKind} {n : Nat} (h : kind.passwordPlace = some n) :
    kind.parameters[n]? = some (Signature.nullable "password") ∧
      "password" ∉ (kind.parameters.map (·.name)).take n := by
  cases kind <;>
    simp [passwordPlace, parameters, List.findIdx?_cons, Signature.nullable, Signature.optional,
      Signature.required] at h <;>
    subst h <;>
    simp [parameters, Signature.nullable, Signature.optional, Signature.required]

end ObjectKind

theorem Signature.viewed_append_cons {view : String → Item → Item} {p : Parameter} {x y : Item}
    (h : view p.name x = view p.name y) (rest : List Item) :
    ∀ {ps : List Parameter} {xs : List Item}, ps[xs.length]? = some p →
      viewed view ps (xs ++ x :: rest) = viewed view ps (xs ++ y :: rest)
  | [], _, hp => by simp at hp
  | q :: ps, [], hp => by
    obtain rfl : q = p := by simpa using hp
    exact congrArg (· :: viewed view ps rest) h
  | q :: ps, z :: xs, hp =>
    congrArg (view q.name z :: ·) (viewed_append_cons h rest (by simpa using hp))

namespace Password

variable {kind : ObjectKind}

/-- A password given in its place is not told from none there. -/
theorem bind_place {xs : List Item} (h : kind.passwordPlace = some xs.length) (rest : List Item)
    (named : List (String × Item)) (p : Password) :
    (kind.signature.bind ⟨xs ++ .value p.value :: rest, named⟩).map kind.conceal =
      (kind.signature.bind ⟨xs ++ Item.null :: rest, named⟩).map kind.conceal := by
  have hview : (Item.value p.value).concealed (Signature.nullable "password").name =
      Item.null.concealed (Signature.nullable "password").name :=
    p.concealed_value
  rw [Construct.conceal_bind, Construct.conceal_bind, Arguments.viewed, Arguments.viewed,
    Signature.viewed_append_cons hview rest (ObjectKind.passwordPlace_spec h).1]

/-- A password given in the last place is not told from none at all. -/
theorem bind_last {xs : List Item} (h : kind.passwordPlace = some xs.length)
    {named : List (String × Item)} (once : "password" ∉ named.map Prod.fst) (p : Password) :
    (kind.signature.bind ⟨xs ++ [.value p.value], named⟩).map kind.conceal =
      (kind.signature.bind ⟨xs, named⟩).map kind.conceal := by
  rw [bind_place h, Signature.bind_last_null (ObjectKind.passwordPlace_spec h).1 once]

/-- A password given by name is not told from none at all. -/
theorem bind_name {n : Nat} (h : kind.passwordPlace = some n) {positional : List Item}
    (hle : positional.length ≤ n) {first rest : List (String × Item)}
    (once : "password" ∉ (first ++ rest).map Prod.fst) (p : Password) :
    (kind.signature.bind
        ⟨positional, first ++ ("password", .value p.value) :: rest⟩).map kind.conceal =
      (kind.signature.bind ⟨positional, first ++ rest⟩).map kind.conceal := by
  obtain ⟨hplace, hfree⟩ := ObjectKind.passwordPlace_spec h
  have hknown : "password" ∈ kind.parameters.map (·.name) :=
    List.mem_map.mpr ⟨_, List.mem_of_getElem? hplace, rfl⟩
  have hfree' : "password" ∉ (kind.parameters.map (·.name)).take positional.length :=
    fun hm => hfree (List.take_subset_take_left _ hle hm)
  have hnull := Signature.bind_named_null (s := kind.signature) hknown hfree'
    kind.password_nullable once
  rw [← hnull, Construct.conceal_bind, Construct.conceal_bind]
  simp only [Arguments.viewed, List.map_append, List.map_cons, concealed_value]
  rfl

end Password

theorem Term.evalAll_append (w : World) (names : Names) (rest first : List Term) :
    evalAll w names (first ++ rest) =
      evalAll w names first >>= fun xs => (evalAll w names rest).map (xs ++ ·) := by
  induction first with
  | nil =>
    show evalAll w names rest = (evalAll w names rest).map fun ys => ys
    cases evalAll w names rest <;> rfl
  | cons t first ih =>
    rw [List.cons_append, evalAll, evalAll, ih]
    cases t.eval w names with
    | error e => rfl
    | ok x =>
      cases evalAll w names first with
      | error e => rfl
      | ok xs => cases evalAll w names rest <;> rfl

theorem Term.length_evalAll {w : World} {names : Names} : ∀ {ts : List Term} {xs : List Item},
    evalAll w names ts = .ok xs → xs.length = ts.length
  | [], xs, h => by
    cases h
    rfl
  | t :: rest, xs, h => by
    rw [evalAll] at h
    cases ht : t.eval w names with
    | error e => simp [ht] at h
    | ok x =>
      cases hr : evalAll w names rest with
      | error e => simp [ht, hr] at h
      | ok ys =>
        obtain rfl : x :: ys = xs := by simpa [ht, hr] using h
        rw [List.length_cons, List.length_cons, length_evalAll hr]

namespace Session

/-- The items of arguments that are written by name. -/
def evalNamed (w : World) (names : Names) :
    List (String × Term) → Except Failure (List (String × Item))
  | [] => .ok []
  | (key, t) :: rest =>
    match t.eval w names with
    | .error e => .error e
    | .ok x => (evalNamed w names rest).map ((key, x) :: ·)

section

variable (w : World) (names : Names)

theorem evalArguments_eq (written : WrittenArguments) :
    evalArguments w names written = (Term.evalAll w names written.positional >>= fun xs =>
      (evalNamed w names written.named).map fun named => ⟨xs, named⟩) := by
  have hnamed : ∀ named : List (String × Term), (named.mapM fun entry => do
      return (entry.1, ← entry.2.eval w names)) = evalNamed w names named := by
    intro named
    induction named with
    | nil => rfl
    | cons entry rest ih =>
      rw [List.mapM_cons, ih, evalNamed]
      cases entry.2.eval w names with
      | error e => rfl
      | ok x => cases evalNamed w names rest <;> rfl
  unfold evalArguments
  rw [hnamed]
  cases Term.evalAll w names written.positional with
  | error e => rfl
  | ok xs => cases evalNamed w names written.named <;> rfl

theorem evalNamed_append (rest first : List (String × Term)) :
    evalNamed w names (first ++ rest) = (evalNamed w names first >>= fun xs =>
      (evalNamed w names rest).map (xs ++ ·)) := by
  induction first with
  | nil =>
    show evalNamed w names rest = (evalNamed w names rest).map fun ys => ys
    cases evalNamed w names rest <;> rfl
  | cons entry first ih =>
    obtain ⟨key, t⟩ := entry
    rw [List.cons_append, evalNamed, evalNamed, ih]
    cases t.eval w names with
    | error e => rfl
    | ok x =>
      cases evalNamed w names first with
      | error e => rfl
      | ok xs => cases evalNamed w names rest <;> rfl

theorem evalNamed_redacted (written : List (String × Term)) :
    evalNamed w.redacted names.redacted written = (evalNamed w names written).map
      (List.map fun entry => (entry.1, entry.2.redacted)) := by
  induction written with
  | nil => rfl
  | cons entry rest ih =>
    obtain ⟨key, t⟩ := entry
    simp only [evalNamed, Term.eval_redacted, ih]
    cases t.eval w names with
    | error e => rfl
    | ok x => cases evalNamed w names rest <;> rfl

theorem evalArguments_redacted (written : WrittenArguments) :
    evalArguments w.redacted names.redacted written =
      (evalArguments w names written).map Arguments.redacted := by
  rw [evalArguments_eq, evalArguments_eq, Term.evalAll_redacted, evalNamed_redacted]
  cases Term.evalAll w names written.positional with
  | error e => rfl
  | ok xs => cases evalNamed w names written.named <;> rfl

end

theorem keys_evalNamed {w : World} {names : Names} :
    ∀ {written : List (String × Term)} {named : List (String × Item)},
      evalNamed w names written = .ok named → named.map Prod.fst = written.map Prod.fst
  | [], named, h => by
    cases h
    rfl
  | (key, t) :: rest, named, h => by
    rw [evalNamed] at h
    cases ht : t.eval w names with
    | error e => simp [ht] at h
    | ok x =>
      cases hr : evalNamed w names rest with
      | error e => simp [ht, hr, Except.map] at h
      | ok ys =>
        obtain rfl : (key, x) :: ys = named := by simpa [ht, hr, Except.map] using h
        rw [List.map_cons, List.map_cons, keys_evalNamed hr]

/-- The items that a maker of a kind of objects gets. -/
def bound (kind : ObjectKind) (w : World) (names : Names) (written : WrittenArguments) :
    Except Failure (List Item) :=
  evalArguments w names written >>= kind.signature.bind

theorem length_bound {kind : ObjectKind} {w : World} {names : Names} {written : WrittenArguments}
    {items : List Item} (h : bound kind w names written = .ok items) :
    items.length = kind.parameters.length := by
  unfold bound at h
  cases ha : evalArguments w names written with
  | error e =>
    rw [ha] at h
    cases h
  | ok a =>
    rw [ha] at h
    exact Signature.length_of_bind h

/-- What a maker gets does not tell one password from another, or from none. -/
theorem bound_written {kind : ObjectKind} {m : Manner} (fits : m.Fits kind) (w : World)
    (names : Names) (p : Password) :
    (bound kind w names (m.written p)).map kind.conceal =
      (bound kind w names (m.written .absent)).map kind.conceal := by
  have hitems : ∀ (v : Value) (after : List Term), Term.evalAll w names (.value v :: after) =
      (Term.evalAll w names after).map (.value v :: ·) := by
    intro v after
    rw [Term.evalAll, Term.eval]
    cases Term.evalAll w names after <;> rfl
  obtain rfl | hp : p = .absent ∨ p.written = [.value p.value] := by
    cases p <;> simp [Password.written]
  · rfl
  unfold bound
  cases m with
  | place before after named =>
    simp only [Manner.written, evalArguments_eq, Term.evalAll_append, hitems]
    cases hxs : Term.evalAll w names before with
    | error e => rfl
    | ok xs =>
      cases Term.evalAll w names after with
      | error e => rfl
      | ok ys =>
        cases evalNamed w names named with
        | error e => rfl
        | ok zs => exact p.bind_place (fits.trans (by rw [Term.length_evalAll hxs])) ys zs
  | last before named =>
    obtain ⟨hplace, once⟩ := fits
    simp only [Manner.written, hp, Password.written_absent, List.append_nil, evalArguments_eq,
      Term.evalAll_append, hitems]
    cases hxs : Term.evalAll w names before with
    | error e => rfl
    | ok xs =>
      cases hzs : evalNamed w names named with
      | error e => rfl
      | ok zs =>
        exact p.bind_last (hplace.trans (by rw [Term.length_evalAll hxs]))
          (by rwa [keys_evalNamed hzs])
  | name positional first rest =>
    obtain ⟨⟨n, hplace, hle⟩, once⟩ := fits
    have hentry : ∀ v : Value, evalNamed w names (("password", .value v) :: rest) =
        (evalNamed w names rest).map (("password", .value v) :: ·) := fun _ => rfl
    simp only [Manner.written, hp, Password.written_absent, List.map_cons, List.map_nil,
      List.append_nil,
      List.append_assoc, List.cons_append, List.nil_append, evalArguments_eq, evalNamed_append,
      hentry]
    cases hxs : Term.evalAll w names positional with
    | error e => rfl
    | ok xs =>
      cases hfs : evalNamed w names first with
      | error e => rfl
      | ok fs =>
        cases hrs : evalNamed w names rest with
        | error e => rfl
        | ok rs =>
          have hkeys : "password" ∉ (fs ++ rs).map Prod.fst := by
            rw [List.map_append, keys_evalNamed hfs, keys_evalNamed hrs, ← List.map_append]
            exact once
          exact p.bind_name hplace (by rwa [Term.length_evalAll hxs]) hkeys

theorem bound_redacted (kind : ObjectKind) (w : World) (names : Names)
    (written : WrittenArguments) :
    (bound kind w.redacted names.redacted written).map kind.conceal =
      (bound kind w names written).map kind.conceal := by
  unfold bound
  rw [evalArguments_redacted]
  cases evalArguments w names written with
  | error e => rfl
  | ok a =>
    show (kind.signature.bind a.redacted).map kind.conceal =
      (kind.signature.bind a).map kind.conceal
    rw [Construct.conceal_bind, Construct.conceal_bind, a.concealed_redacted]

/-- What makers get in sessions that are alike. -/
theorem bound_alike {kind : ObjectKind} {m : Manner} (fits : m.Fits kind) {w w' : World}
    (hw : w.redacted = w'.redacted) {names names' : Names} (hn : names.redacted = names'.redacted)
    (p p' : Password) :
    (bound kind w names (m.written p)).map kind.conceal =
      (bound kind w' names' (m.written p')).map kind.conceal := by
  rw [bound_written fits, bound_written fits w', ← bound_redacted, hw, hn, bound_redacted]

end Session

end RedisLink
