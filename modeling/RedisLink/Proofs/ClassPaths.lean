/-
RedisLink.Proofs.ClassPaths — what the path of a class comes to.

A path should stand for what the module before its last dot exports under the
name behind it. If it has no dot, or nothing on one side of the last one, it is a
bad value; if there is no such module, or the module does not export the name,
that is what is reported (`Meant`). One sort of path is not covered: a dot at the
beginning makes a path relative to a package, none is given, and this is reported
as a bad kind (`Relative`). `Outcomes` has the whole account.

Modules are found from the outside to the inside. The paths of the modules around
another one are what stands before the dots of its path (`Encloses`); a module is
found just if it is installed and all modules around it are packages, whichever
modules are installed (`findModule_eq_ok_iff`). Otherwise the failure names the
first module on the way that is not found. All modules around that one are found,
so there is one such place only (`Gap.unique`).
-/
import RedisLink.ClassPath

namespace RedisLink.ClassPath

open RedisLink.Text

/-! ## 1. The modules around a module -/

/-- One path is what stands before a dot of another one. -/
def Encloses (outer path : List Char) : Prop := outer ++ ['.'] <+: path

/-- One path is another one or encloses it. -/
def LeadsTo (outer path : List Char) : Prop := outer = path ∨ Encloses outer path

section

variable {p q r part : List Char}

theorem encloses_child (p part : List Char) : Encloses p (p ++ '.' :: part) :=
  ⟨part, by simp⟩

theorem Encloses.trans (hpq : Encloses p q) (hqr : Encloses q r) : Encloses p r := by
  have hprefix : p ++ ['.'] <+: q ++ ['.'] := List.IsPrefix.trans hpq (List.prefix_append q ['.'])
  exact hprefix.trans hqr

theorem leadsTo_of_prefix (h : p ++ ['.'] <+: q ++ ['.']) : LeadsTo p q := by
  obtain heq | hprefix := List.prefix_concat_iff.mp h
  · exact .inl (List.append_cancel_right heq)
  · exact .inr hprefix

/-- Of two paths that enclose a third one, the shorter encloses the longer. -/
theorem Encloses.cases (hp : Encloses p r) (hq : Encloses q r) :
    p = q ∨ Encloses p q ∨ Encloses q p := by
  obtain h | h := List.prefix_or_prefix_of_prefix hp hq
  · obtain heq | hencloses := leadsTo_of_prefix h
    · exact .inl heq
    · exact .inr (.inl hencloses)
  · obtain heq | hencloses := leadsTo_of_prefix h
    · exact .inl heq.symm
    · exact .inr (.inr hencloses)

theorem LeadsTo.cases (hp : LeadsTo p r) (hq : LeadsTo q r) :
    p = q ∨ Encloses p q ∨ Encloses q p := by
  obtain rfl | hp := hp
  · obtain rfl | hq := hq
    · exact .inl rfl
    · exact .inr (.inr hq)
  · obtain rfl | hq := hq
    · exact .inr (.inl hp)
    · exact hp.cases hq

/-- Around a module inside another one are that one and the modules around it. -/
theorem encloses_child_iff (hpart : '.' ∉ part) :
    Encloses q (p ++ '.' :: part) ↔ LeadsTo q p := by
  constructor
  · intro h
    obtain heq | hqp | ⟨rest, rfl⟩ := h.cases (encloses_child p part)
    · exact .inl heq
    · exact .inr hqp
    · -- a longer path would need a dot inside the last part
      obtain ⟨after, hafter⟩ := h
      simp only [List.append_assoc, List.append_cancel_left_eq, List.cons_append,
        List.cons.injEq, true_and] at hafter
      have hdot : '.' ∈ part := by
        rw [← hafter]
        simp
      exact absurd hdot hpart
  · rintro (rfl | h)
    · exact encloses_child q part
    · exact h.trans (encloses_child p part)

/-- Parts that follow a path lead on from it. -/
theorem leadsTo_append (p : List Char) (parts : List (List Char)) :
    LeadsTo p (p ++ parts.flatMap ('.' :: ·)) := by
  cases parts with
  | nil => exact .inl (by simp)
  | cons part rest => exact .inr ⟨part ++ rest.flatMap ('.' :: ·), by simp⟩

end

/-! ## 2. Modules that are found -/

section

variable (installed : Installation)

/-- A path is that of a package. -/
def IsPackage (path : List Char) : Prop :=
  ∃ m, installed.lookup (String.ofList path) = some m ∧ m.isPackage = true

/-- A module is found under a path: it is installed, and all modules around it are packages. -/
structure Found (path : List Char) (m : Module) : Prop where
  listed : installed.lookup (String.ofList path) = some m
  around : ∀ outer, Encloses outer path → IsPackage installed outer

/-- The first module on the way to a path that is not found. -/
structure FirstUnfound (path first : List Char) : Prop where
  way : LeadsTo first path
  unfound : ∀ m, ¬ Found installed first m
  around : ∀ outer, Encloses outer first → ∃ m, Found installed outer m

/-- Why no module is found under a path. -/
inductive Gap (path : List Char) : Failure → Prop
  /-- The first one that is missing would be in a package, or at the top. -/
  | missing {p} (first : FirstUnfound installed path p)
      (inside : ∀ outer, Encloses outer p → IsPackage installed outer) :
      Gap path (.missingModule (String.ofList p))
  /-- It would be in a module that is no package, and such a module has none inside. -/
  | closed {p last m} (first : FirstUnfound installed path (p ++ '.' :: last)) (part : '.' ∉ last)
      (parent : Found installed p m) (plain : m.isPackage = false) :
      Gap path (.notAPackage (String.ofList (p ++ '.' :: last)) (String.ofList p))

/-- What comes of looking for a module. -/
inductive Finding (path : List Char) : Except Failure Module → Prop
  | found {m : Module} (found : Found installed path m) : Finding path (.ok m)
  | gap {e : Failure} (gap : Gap installed path e) : Finding path (.error e)

end

section

variable {installed : Installation} {path p q part : List Char} {m n : Module} {e : Failure}

theorem Found.outer (h : Found installed path m) (hp : Encloses p path) :
    ∃ n, Found installed p n ∧ n.isPackage = true := by
  obtain ⟨n, hlisted, hpackage⟩ := h.around p hp
  exact ⟨n, ⟨hlisted, fun outer houter => h.around outer (houter.trans hp)⟩, hpackage⟩

theorem Found.unique (h : Found installed path m) (h' : Found installed path n) : m = n :=
  Option.some.inj (h.listed.symm.trans h'.listed)

theorem Found.not_isPackage (h : Found installed path m) (plain : m.isPackage = false) :
    ¬ IsPackage installed path := by
  rintro ⟨n, hlisted, hpackage⟩
  obtain rfl : m = n := Option.some.inj (h.listed.symm.trans hlisted)
  rw [plain] at hpackage
  cases hpackage

/-- If a module is found, so is every module around one of those that lie in it. -/
theorem Found.around_child (h : Found installed p m) (hpart : '.' ∉ part) {outer : List Char}
    (houter : Encloses outer (p ++ '.' :: part)) : ∃ n, Found installed outer n := by
  obtain rfl | houter := (encloses_child_iff hpart).mp houter
  · exact ⟨m, h⟩
  · obtain ⟨n, hn, -⟩ := h.outer houter
    exact ⟨n, hn⟩

theorem FirstUnfound.unique (hp : FirstUnfound installed path p)
    (hq : FirstUnfound installed path q) : p = q := by
  obtain heq | hpq | hqp := hp.way.cases hq.way
  · exact heq
  · obtain ⟨m, hm⟩ := hq.around p hpq
    exact absurd hm (hp.unfound m)
  · obtain ⟨m, hm⟩ := hp.around q hqp
    exact absurd hm (hq.unfound m)

theorem Gap.first (h : Gap installed path e) : ∃ p, FirstUnfound installed path p := by
  cases h with
  | missing first => exact ⟨_, first⟩
  | closed first => exact ⟨_, first⟩

/-- Where there is a gap no module is found. -/
theorem Gap.unfound (h : Gap installed path e) : ¬ Found installed path m := by
  intro hfound
  obtain ⟨p, first⟩ := h.first
  obtain rfl | hp := first.way
  · exact first.unfound m hfound
  · obtain ⟨n, hn, -⟩ := hfound.outer hp
    exact first.unfound n hn

/-- There is one gap at most on the way to a module. -/
theorem Gap.unique {e' : Failure} (h : Gap installed path e) (h' : Gap installed path e') :
    e = e' := by
  cases h with
  | missing first inside =>
    cases h' with
    | missing first' => rw [first.unique first']
    | closed first' _ parent plain =>
      rw [first.unique first'] at inside
      exact absurd (inside _ (encloses_child _ _)) (parent.not_isPackage plain)
  | @closed p last m first part parent plain =>
    cases h' with
    | missing first' inside =>
      rw [← first.unique first'] at inside
      exact absurd (inside _ (encloses_child _ _)) (parent.not_isPackage plain)
    | @closed q last' n first' part' =>
      have heq := first.unique first'
      have hcut : cutLast? '.' (p ++ '.' :: last) = some (p, last) := cutLast?_append part
      rw [heq, cutLast?_append part'] at hcut
      simp only [Option.some.injEq, Prod.mk.injEq] at hcut
      rw [heq, hcut.1]

theorem Gap.category (h : Gap installed path e) : e.category = .missingModule := by
  cases h <;> rfl

/-! ## 3. Looking for a module -/

theorem ofList_child (p part : List Char) :
    String.ofList p ++ "." ++ String.ofList part = String.ofList (p ++ '.' :: part) := by
  apply String.ext
  simp

/-- From a module that is found, the way goes on part by part. -/
theorem findFrom_finding (parts : List (List Char)) (dotless : ∀ part ∈ parts, '.' ∉ part)
    (found : Found installed p m) :
    Finding installed (p ++ parts.flatMap ('.' :: ·))
      (findFrom installed (String.ofList p, m) parts) := by
  induction parts generalizing p m with
  | nil =>
    rw [List.flatMap_nil, List.append_nil]
    exact .found found
  | cons part rest ih =>
    obtain ⟨hpart, hrest⟩ := List.forall_mem_cons.mp dotless
    have hway := leadsTo_append (p ++ '.' :: part) rest
    have hpath : p ++ (part :: rest).flatMap ('.' :: ·) =
        p ++ '.' :: part ++ rest.flatMap ('.' :: ·) := by simp
    rw [hpath, findFrom]
    simp only [ofList_child]
    cases hpackage : m.isPackage with
    | false =>
      refine .gap (.closed ⟨hway, fun n hn => ?_, fun outer => found.around_child hpart⟩ hpart
        found hpackage)
      exact found.not_isPackage hpackage (hn.around p (encloses_child p part))
    | true =>
      have inside : ∀ outer, Encloses outer (p ++ '.' :: part) → IsPackage installed outer := by
        intro outer houter
        obtain rfl | houter := (encloses_child_iff hpart).mp houter
        · exact ⟨m, found.listed, hpackage⟩
        · exact found.around outer houter
      cases hlisted : installed.lookup (String.ofList (p ++ '.' :: part)) with
      | none =>
        refine .gap (.missing ⟨hway, fun n hn => ?_, fun outer => found.around_child hpart⟩ inside)
        rw [hn.listed] at hlisted
        cases hlisted
      | some n => exact ih hrest ⟨hlisted, inside⟩

/-- Nothing stands around a path without a dot. -/
theorem not_encloses (hpart : '.' ∉ part) {outer : List Char} : ¬ Encloses outer part :=
  fun h => hpart (h.subset (by simp))

theorem findModule_finding (installed : Installation) (path : List Char) :
    Finding installed path (findModule installed path) := by
  unfold findModule
  cases hparts : cutAll '.' path with
  | nil => exact absurd hparts (cutAll_ne_nil '.' path)
  | cons part rest =>
    have hdotless : ∀ other ∈ part :: rest, '.' ∉ other := fun other hother =>
      not_mem_of_mem_cutAll (hparts ▸ hother)
    obtain ⟨hpart, hrest⟩ := List.forall_mem_cons.mp hdotless
    rw [eq_of_cutAll hparts]
    dsimp only
    cases hlisted : installed.lookup (String.ofList part) with
    | none =>
      refine .gap (.missing ⟨leadsTo_append part rest, fun n hn => ?_, fun outer houter => ?_⟩
        fun outer houter => ?_)
      · rw [hn.listed] at hlisted
        cases hlisted
      · exact absurd houter (not_encloses hpart)
      · exact absurd houter (not_encloses hpart)
    | some m =>
      exact findFrom_finding rest hrest
        ⟨hlisted, fun outer houter => absurd houter (not_encloses hpart)⟩

theorem findModule_eq_ok_iff : findModule installed path = .ok m ↔ Found installed path m := by
  have hfinding := findModule_finding installed path
  constructor
  · intro h
    rw [h] at hfinding
    cases hfinding with
    | found found => exact found
  · intro h
    generalize findModule installed path = result at hfinding ⊢
    cases hfinding with
    | found found => rw [found.unique h]
    | gap gap => exact absurd h gap.unfound

theorem findModule_eq_error_iff : findModule installed path = .error e ↔ Gap installed path e := by
  have hfinding := findModule_finding installed path
  constructor
  · intro h
    rw [h] at hfinding
    cases hfinding with
    | gap gap => exact gap
  · intro h
    generalize findModule installed path = result at hfinding ⊢
    cases hfinding with
    | found found => exact absurd found h.unfound
    | gap gap => rw [gap.unique h]

end

/-- The first module that is missing is named, not the one that was looked for. -/
example : findModule modules "redis.lost.inside".toList = .error (.missingModule "redis.lost") := by
  rfl

/-! ## 4. The two sides of a path -/

/-- A path comes apart at its last dot. -/
structure CutAt (path : String) (place name : List Char) : Prop where
  text : path.toList = place ++ '.' :: name
  last : '.' ∉ name

/-- A path has a dot, and something before the last one and behind it. -/
structure Dotted (path : String) (place name : List Char) : Prop extends CutAt path place name where
  place_some : place ≠ []
  name_some : name ≠ []

/-- A path has no dot, or nothing before the last one or behind it. -/
def Undotted (path : String) : Prop :=
  '.' ∉ path.toList ∨ ∃ place name, CutAt path place name ∧ (place = [] ∨ name = [])

/-- A path names a module and something in it, and begins with a dot. -/
def Relative (path : String) : Prop := ∃ place name, Dotted path place name ∧ place.head? = some '.'

section

variable {path : String} {place place' name name' : List Char}

theorem cutLast?_eq_some_iff :
    cutLast? '.' path.toList = some (place, name) ↔ CutAt path place name := by
  constructor
  · intro h
    obtain ⟨htext, hlast⟩ := cutLast?_eq_some h
    exact ⟨htext, hlast⟩
  · intro h
    rw [h.text, cutLast?_append h.last]

theorem CutAt.unique (h : CutAt path place name) (h' : CutAt path place' name') :
    place = place' ∧ name = name' := by
  have heq := cutLast?_eq_some_iff.mpr h
  rw [cutLast?_eq_some_iff.mpr h'] at heq
  simp only [Option.some.injEq, Prod.mk.injEq] at heq
  exact ⟨heq.1.symm, heq.2.symm⟩

theorem Dotted.not_undotted (h : Dotted path place name) : ¬ Undotted path := by
  rintro (hnone | ⟨place', name', hcut, hempty⟩)
  · exact hnone (by simp [h.text])
  · obtain ⟨rfl, rfl⟩ := h.toCutAt.unique hcut
    exact hempty.elim h.place_some h.name_some

theorem split?_eq_some_iff : split? path = some (place, name) ↔ Dotted path place name := by
  unfold split?
  cases hcut : cutLast? '.' path.toList with
  | none =>
    constructor
    · intro h
      cases h
    · intro h
      rw [cutLast?_eq_some_iff.mpr h.toCutAt] at hcut
      cases hcut
  | some parts =>
    have hparts : CutAt path parts.1 parts.2 := cutLast?_eq_some_iff.mp hcut
    constructor
    · intro h
      simp only [Option.ite_none_left_eq_some, Bool.or_eq_true, List.isEmpty_iff, not_or,
        Option.some.injEq, Prod.mk.injEq] at h
      obtain ⟨⟨hplace, hname⟩, rfl, rfl⟩ := h
      exact ⟨hparts, hplace, hname⟩
    · intro h
      obtain ⟨rfl, rfl⟩ := hparts.unique h.toCutAt
      simp [h.place_some, h.name_some]

theorem split?_eq_none_iff : split? path = none ↔ Undotted path := by
  constructor
  · intro h
    cases hcut : cutLast? '.' path.toList with
    | none => exact .inl (cutLast?_eq_none_iff.mp hcut)
    | some parts =>
      refine .inr ⟨parts.1, parts.2, cutLast?_eq_some_iff.mp hcut, ?_⟩
      simp only [split?, hcut, ite_eq_left_iff, reduceCtorEq, imp_false, Decidable.not_not,
        Bool.or_eq_true, List.isEmpty_iff] at h
      exact h
  · intro h
    cases hsplit : split? path with
    | none => rfl
    | some parts => exact absurd h (split?_eq_some_iff.mp hsplit).not_undotted

end

/-! ## 5. What a path comes to -/

section

variable (installed : Installation) (path : String)

/-- What should come of a path. -/
inductive Meant : Except Failure Value → Prop
  /-- What the module before the last dot exports under the name behind it. -/
  | exported {place name : List Char} {m : Module} {v : Value} (dotted : Dotted path place name)
      (found : Found installed place m)
      (exported : m.exports.lookup (String.ofList name) = some v) : Meant (.ok v)
  /-- A bad value, if one of the two is not there. -/
  | undotted {e : Failure} (undotted : Undotted path) (value : e.category = .badValue) :
      Meant (.error e)
  /-- A missing module or export, if both are. -/
  | missing {e : Failure} (dotted : ¬ Undotted path)
      (kind : e.category = .missingModule ∨ e.category = .badAttribute) : Meant (.error e)

/-- A path that is not relative names what a module exports. -/
inductive StandsFor (v : Value) : Prop
  | intro {place name : List Char} {m : Module} (dotted : Dotted path place name)
      (absolute : place.head? ≠ some '.') (found : Found installed place m)
      (exported : m.exports.lookup (String.ofList name) = some v) : StandsFor v

/-- Why a path is refused. -/
inductive Refused : Failure → Prop
  | undotted (undotted : Undotted path) : Refused (.pathWithoutModule path)
  | relative {place name : List Char} (dotted : Dotted path place name)
      (relative : place.head? = some '.') : Refused (.relativePath (String.ofList place))
  | gap {place name : List Char} {e : Failure} (dotted : Dotted path place name)
      (absolute : place.head? ≠ some '.') (gap : Gap installed place e) : Refused e
  | unexported {place name : List Char} {m : Module} (dotted : Dotted path place name)
      (absolute : place.head? ≠ some '.') (found : Found installed place m)
      (unexported : m.exports.lookup (String.ofList name) = none) :
      Refused (.missingExport (String.ofList place) (String.ofList name))

/-- What comes of a path, of those that should stand for something and of the others. -/
structure Outcomes : Prop where
  /-- It is what it should be, unless the path is relative. -/
  meant : Meant installed path (loadFrom installed path) ↔ ¬ Relative path
  /-- It is what the path names, if there is that. -/
  loaded : ∀ v, loadFrom installed path = .ok v ↔ StandsFor installed path v
  refused : ∀ e, loadFrom installed path = .error e ↔ Refused installed path e
  /-- Without a module or a name it is a bad value, and in no other case. -/
  badValue : (∃ e, loadFrom installed path = .error e ∧ e.category = .badValue) ↔ Undotted path
  /-- A relative path is a bad kind, and nothing else is. -/
  badKind : (∃ e, loadFrom installed path = .error e ∧ e.category = .badKind) ↔ Relative path
  kinds : ∀ e, loadFrom installed path = .error e →
    e.category ∈ [.badValue, .badKind, .missingModule, .badAttribute]

end

section

variable {installed : Installation} {path : String} {place name : List Char} {e : Failure}

theorem loadFrom_of_undotted (h : Undotted path) :
    loadFrom installed path = .error (.pathWithoutModule path) := by
  rw [loadFrom, split?_eq_none_iff.mpr h]

theorem loadFrom_of_relative (h : Dotted path place name) (relative : place.head? = some '.') :
    loadFrom installed path = .error (.relativePath (String.ofList place)) := by
  rw [loadFrom, split?_eq_some_iff.mpr h]
  exact if_pos relative

theorem loadFrom_of_gap (h : Dotted path place name) (absolute : place.head? ≠ some '.')
    (gap : Gap installed place e) : loadFrom installed path = .error e := by
  rw [loadFrom, split?_eq_some_iff.mpr h]
  simp only [if_neg absolute, findModule_eq_error_iff.mpr gap]

/-- Once its module is found, a path stands for what that exports. -/
theorem loadFrom_of_found {m : Module} (h : Dotted path place name)
    (absolute : place.head? ≠ some '.') (found : Found installed place m) :
    loadFrom installed path =
      match m.exports.lookup (String.ofList name) with
      | some v => .ok v
      | none => .error (.missingExport (String.ofList place) (String.ofList name)) := by
  rw [loadFrom, split?_eq_some_iff.mpr h]
  refine (if_neg absolute).trans ?_
  have hmodule := findModule_eq_ok_iff.mpr found
  generalize findModule installed place = result at hmodule
  subst hmodule
  rfl

theorem dotted_of_not_undotted (h : ¬ Undotted path) : ∃ place name, Dotted path place name := by
  cases hsplit : split? path with
  | none => exact absurd (split?_eq_none_iff.mp hsplit) h
  | some parts => exact ⟨parts.1, parts.2, split?_eq_some_iff.mp hsplit⟩

theorem Dotted.relative_iff (h : Dotted path place name) :
    Relative path ↔ place.head? = some '.' := by
  constructor
  · rintro ⟨place', name', h', relative⟩
    obtain ⟨rfl, rfl⟩ := h.toCutAt.unique h'.toCutAt
    exact relative
  · exact fun relative => ⟨place, name, h, relative⟩

theorem loadFrom_of_standsFor {v : Value} (h : StandsFor installed path v) :
    loadFrom installed path = .ok v := by
  obtain ⟨dotted, absolute, found, exported⟩ := h
  rw [loadFrom_of_found dotted absolute found, exported]

theorem loadFrom_of_refused (h : Refused installed path e) :
    loadFrom installed path = .error e := by
  cases h with
  | undotted undotted => exact loadFrom_of_undotted undotted
  | relative dotted relative => exact loadFrom_of_relative dotted relative
  | gap dotted absolute gap => exact loadFrom_of_gap dotted absolute gap
  | unexported dotted absolute found unexported =>
    rw [loadFrom_of_found dotted absolute found, unexported]

/-- Every path names something or is refused. -/
theorem standsFor_or_refused (installed : Installation) (path : String) :
    (∃ v, StandsFor installed path v) ∨ ∃ e, Refused installed path e := by
  by_cases undotted : Undotted path
  · exact .inr ⟨_, .undotted undotted⟩
  obtain ⟨place, name, dotted⟩ := dotted_of_not_undotted undotted
  by_cases relative : place.head? = some '.'
  · exact .inr ⟨_, .relative dotted relative⟩
  cases hmodule : findModule installed place with
  | error e => exact .inr ⟨e, .gap dotted relative (findModule_eq_error_iff.mp hmodule)⟩
  | ok m =>
    have found := findModule_eq_ok_iff.mp hmodule
    cases hexport : m.exports.lookup (String.ofList name) with
    | none => exact .inr ⟨_, .unexported dotted relative found hexport⟩
    | some v => exact .inl ⟨v, .intro dotted relative found hexport⟩

theorem loadFrom_eq_ok_iff {v : Value} :
    loadFrom installed path = .ok v ↔ StandsFor installed path v := by
  refine ⟨fun h => ?_, loadFrom_of_standsFor⟩
  obtain ⟨u, stands⟩ | ⟨e, refused⟩ := standsFor_or_refused installed path
  · rw [loadFrom_of_standsFor stands] at h
    cases h
    exact stands
  · rw [loadFrom_of_refused refused] at h
    cases h

theorem loadFrom_eq_error_iff :
    loadFrom installed path = .error e ↔ Refused installed path e := by
  refine ⟨fun h => ?_, loadFrom_of_refused⟩
  obtain ⟨v, stands⟩ | ⟨e', refused⟩ := standsFor_or_refused installed path
  · rw [loadFrom_of_standsFor stands] at h
    cases h
  · rw [loadFrom_of_refused refused] at h
    cases h
    exact refused

/-- The kind of a refusal says which of three sorts of paths it is about. -/
theorem Refused.sorted (h : Refused installed path e) :
    (e.category = .badValue ∧ Undotted path) ∨ (e.category = .badKind ∧ Relative path) ∨
      ((e.category = .missingModule ∨ e.category = .badAttribute) ∧ ¬ Undotted path ∧
        ¬ Relative path) := by
  cases h with
  | undotted undotted => exact .inl ⟨rfl, undotted⟩
  | relative dotted relative => exact .inr (.inl ⟨rfl, _, _, dotted, relative⟩)
  | gap dotted absolute gap =>
    exact .inr (.inr ⟨.inl gap.category, dotted.not_undotted, mt dotted.relative_iff.mp absolute⟩)
  | unexported dotted absolute =>
    exact .inr (.inr ⟨.inr rfl, dotted.not_undotted, mt dotted.relative_iff.mp absolute⟩)

end

/-- A path stands for what it names or is refused as it should be, whichever modules are installed,
except that a relative path is a bad kind. -/
theorem class_paths_loaded (installed : Installation) (path : String) :
    Outcomes installed path := by
  constructor
  case loaded => exact fun v => loadFrom_eq_ok_iff
  case refused => exact fun e => loadFrom_eq_error_iff
  case badValue =>
    constructor
    · rintro ⟨e, h, value⟩
      obtain ⟨-, undotted⟩ | ⟨kind, -⟩ | ⟨kind, -⟩ := (loadFrom_eq_error_iff.mp h).sorted
      · exact undotted
      · simp [value] at kind
      · simp [value] at kind
    · intro undotted
      exact ⟨_, loadFrom_of_undotted undotted, rfl⟩
  case badKind =>
    constructor
    · rintro ⟨e, h, value⟩
      obtain ⟨kind, -⟩ | ⟨-, relative⟩ | ⟨kind, -⟩ := (loadFrom_eq_error_iff.mp h).sorted
      · simp [value] at kind
      · exact relative
      · simp [value] at kind
    · rintro ⟨place, name, dotted, relative⟩
      exact ⟨_, loadFrom_of_relative dotted relative, rfl⟩
  case kinds =>
    intro e h
    obtain ⟨kind, -⟩ | ⟨kind, -⟩ | ⟨kind | kind, -⟩ := (loadFrom_eq_error_iff.mp h).sorted
    all_goals simp [kind]
  case meant =>
    constructor
    · rintro hmeant ⟨place, name, dotted, relative⟩
      rw [loadFrom_of_relative dotted relative] at hmeant
      cases hmeant with
      | undotted undotted => exact dotted.not_undotted undotted
      | missing _ kind => simp [Failure.category] at kind
    · intro absolute
      obtain ⟨v, stands⟩ | ⟨e, refused⟩ := standsFor_or_refused installed path
      · rw [loadFrom_of_standsFor stands]
        obtain ⟨dotted, -, found, exported⟩ := stands
        exact .exported dotted found exported
      · rw [loadFrom_of_refused refused]
        obtain ⟨value, undotted⟩ | ⟨-, relative⟩ | ⟨kind, dotted, -⟩ := refused.sorted
        · exact .undotted undotted value
        · exact absurd relative absolute
        · exact .missing dotted kind

/-- A relative path is neither found missing nor a bad value. -/
theorem relative_path_not_meant :
    loadFrom modules ".redis.Redis" = .error (.relativePath ".redis") ∧
      ¬ Meant modules ".redis.Redis" (loadFrom modules ".redis.Redis") := by
  have hload : loadFrom modules ".redis.Redis" = .error (.relativePath ".redis") := by rfl
  refine ⟨hload, ?_⟩
  rw [hload]
  intro h
  cases h with
  | undotted _ value => cases value
  | missing _ kind => obtain kind | kind := kind <;> cases kind

end RedisLink.ClassPath
