/-
RedisLink.Proofs.Secrecy.Showing — items written down, shown, and compared
without passwords.

Terms stand for the same items and items are shown by the same texts, whatever
the passwords are (`Term.eval_redacted`, `Item.shown_redacted`). Comparing is
the exception: two URIs are equal only if their passwords are, so two items are
compared alike if at most one of them holds a URI (`Item.equals_redacted`).
-/
import RedisLink.Proofs.Secrecy.Replies
import RedisLink.Session

namespace RedisLink

/-! ## 1. Terms -/

/-- Names of items without passwords. -/
def Names.redacted (names : Names) : Names := names.map fun entry => (entry.1, entry.2.redacted)

@[simp] theorem Names.lookup_redacted (names : Names) (name : String) :
    names.redacted.lookup name = (names.lookup name).map Item.redacted :=
  Signature.lookup_map_view (fun _ => Item.redacted) names name

namespace Term

variable (w : World) (names : Names)

mutual

/-- A term stands for the same item, but for passwords. -/
theorem eval_redacted : ∀ t : Term,
    t.eval w.redacted names.redacted = (t.eval w names).map Item.redacted
  | .value v => rfl
  | .list items => by
    simp only [eval, evalAll_redacted items]
    cases evalAll w names items with
    | error e => rfl
    | ok xs => exact congrArg Except.ok (Item.ofSequence_redacted w false xs)
  | .tuple items => by
    simp only [eval, evalAll_redacted items]
    cases evalAll w names items with
    | error e => rfl
    | ok xs => exact congrArg Except.ok (Item.ofSequence_redacted w true xs)
  | .dict fields => by
    simp only [eval, evalFields_redacted fields]
    cases evalFields w names fields <;> rfl
  | .named name => by
    simp only [eval, Names.lookup_redacted]
    cases names.lookup name <;> rfl
  | .duration parts => by
    simp only [eval, evalFields_redacted parts]
    cases evalFields w names parts with
    | error e => rfl
    | ok xs => cases hd : Duration.ofParts xs <;> simp [hd, Except.map]
  | .node host port => by
    simp only [eval, eval_redacted host, eval_redacted port]
    cases host.eval w names with
    | error e => rfl
    | ok h =>
      cases port.eval w names with
      | error e => rfl
      | ok p =>
        simp only [Except.map, Item.toValue_redacted]
        cases Node.make (h.toValue w) (p.toValue w) <;> rfl
  | .cls path => by
    simp only [eval, eval_redacted path]
    cases path.eval w names with
    | error e => rfl
    | ok p =>
      simp only [Except.map, Item.toValue_redacted, World.redacted_installed]
      cases ClassPath.loadValue w.installed (p.toValue w) <;> rfl

theorem evalAll_redacted : ∀ ts : List Term,
    evalAll w.redacted names.redacted ts = (evalAll w names ts).map (List.map Item.redacted)
  | [] => rfl
  | t :: rest => by
    simp only [evalAll, eval_redacted t, evalAll_redacted rest]
    cases t.eval w names with
    | error e => rfl
    | ok x => cases evalAll w names rest <;> rfl

theorem evalFields_redacted : ∀ fields : List (String × Term),
    evalFields w.redacted names.redacted fields = evalFields w names fields
  | [] => rfl
  | (key, t) :: rest => by
    simp only [evalFields, eval_redacted t, evalFields_redacted rest]
    cases t.eval w names with
    | error e => rfl
    | ok x =>
      simp only [Except.map, Item.toValue_redacted]

end

end Term

/-! ## 2. Items as they are shown -/

theorem Settings.shown_redacted (s : Settings) : s.redacted.shown = s.shown := by
  unfold shown redacted
  rw [Part.shown_redacted, Part.shown_redacted]

namespace Item

variable (w : World)

@[simp] theorem shownTopology_redacted (ref : TopologyRef) :
    shownTopology ref w.redacted = shownTopology ref w := by
  cases ref <;> simp [shownTopology]

mutual

/-- An item is shown without its passwords. -/
@[simp] theorem shown_redacted : ∀ x : Item, x.redacted.shown w.redacted = x.shown w
  | .items isTuple xs => by
    simp only [redacted, shown, shownAll_redacted xs]
  | .uri u => by simp [redacted, shown, Shared.map]
  | .topology ref => by simp [redacted, shown]
  | .client n => by simp [redacted, shown]
  | .settings s => by simp only [redacted, shown, Shared.map, s.value.shown_redacted]
  | .value _ | .options _ | .resources _ | .connection _ | .live _ | .builder _
  | .deployment _ => rfl

theorem shownAll_redacted : ∀ xs : List Item, shownAll w.redacted (redactedAll xs) = shownAll w xs
  | [] => rfl
  | x :: rest => by
    simp only [redactedAll, shownAll, shown_redacted x, shownAll_redacted rest]

end

@[simp] theorem text_redacted (x : Item) : x.redacted.text w.redacted = x.text w := by
  have hshown := shown_redacted w x
  cases x with
  | uri u => simp [redacted, text, Shared.map]
  | value v => rfl
  | _ => exact hshown

end Item

/-! ## 3. Items compared -/

theorem Value.unhashableItem?_append (xs ys : List Value) :
    unhashableItem? (xs ++ ys) = (unhashableItem? xs).or (unhashableItem? ys) := by
  induction xs with
  | nil => rfl
  | cons x xs ih =>
    rw [List.cons_append, unhashableItem?, unhashableItem?, ih]
    cases x.unhashable? <;> rfl

/-- Whether a URI has a hash does not depend on its password. -/
theorem Uri.unhashable_fields_redacted (u : Uri) :
    Value.unhashableItem? (u.redacted.fields.map (·.2)) =
      Value.unhashableItem? (u.fields.map (·.2)) := by
  have hmasked : ∀ v : Value, v.masked.unhashable? = v.unhashable? := fun v => by cases v <;> rfl
  simp [fields, redacted, Value.unhashableItem?, hmasked]

namespace Part

/-- Whether a URI is given as options or as resources. -/
def isUri : Part → Bool
  | .uri _ => true
  | _ => false

@[simp] theorem isUri_redacted (p : Part) : p.redacted.isUri = p.isUri := by
  cases p <;> rfl

theorem redacted_of_not_uri {p : Part} (h : p.isUri = false) : p.redacted = p := by
  cases p with
  | uri u => cases h
  | _ => rfl

/-- Two parts are equal whatever their passwords are, unless both are URIs. -/
theorem equals_redacted {p q : Part} (h : (p.isUri && q.isUri) = false) :
    p.redacted.equals q.redacted = p.equals q := by
  cases p with
  | uri u =>
    cases q with
    | uri v => cases h
    | _ => rfl
  | _ => cases q <;> rfl

@[simp] theorem tag_redacted (p : Part) : p.redacted.tag = p.tag := by
  cases p <;> rfl

theorem uri_eq_tag_iff {p : Part} : "uri" = p.tag ↔ p.isUri = true := by
  cases p <;> simp [tag, isUri]

/-- Whether a part has a hash does not depend on its password. -/
@[simp] theorem unhashable_identity_redacted (p : Part) :
    Value.unhashableItem? p.redacted.identity = Value.unhashableItem? p.identity := by
  cases p with
  | uri u => exact u.value.unhashable_fields_redacted
  | _ => rfl

end Part

namespace Settings

/-- Whether a record of settings has a URI for its options or resources. -/
def holdsUri (s : Settings) : Bool := s.options.isUri || s.resources.isUri

@[simp] theorem holdsUri_redacted (s : Settings) : s.redacted.holdsUri = s.holdsUri := by
  simp [holdsUri, redacted]

theorem redacted_of_holds_none {s : Settings} (h : s.holdsUri = false) : s.redacted = s := by
  obtain ⟨ho, hr⟩ := Bool.or_eq_false_iff.mp h
  simp only [redacted, Part.redacted_of_not_uri ho, Part.redacted_of_not_uri hr]

/-- Two records of settings are equal whatever passwords are in them, unless both hold a URI. -/
theorem equals_redacted {s t : Settings} (h : (s.holdsUri && t.holdsUri) = false) :
    s.redacted.equals t.redacted = s.equals t := by
  have hoptions : (s.options.isUri && t.options.isUri) = false := by
    cases ho : s.options.isUri <;> simp_all [holdsUri]
  have hresources : (s.resources.isUri && t.resources.isUri) = false := by
    cases hr : s.resources.isUri <;> simp_all [holdsUri]
  simp only [equals, redacted, plainFields, Part.equals_redacted hoptions,
    Part.equals_redacted hresources]

end Settings

namespace Item

mutual

/-- Whether an item is a URI, a record of settings with one, or a sequence with one. -/
def holdsUri : Item → Bool
  | .uri _ => true
  | .settings s => s.value.holdsUri
  | .items _ xs => holdUri xs
  | _ => false

/-- Whether one of some items holds a URI. -/
def holdUri : List Item → Bool
  | [] => false
  | x :: rest => x.holdsUri || holdUri rest

end

mutual

@[simp] theorem holdsUri_redacted : ∀ x : Item, x.redacted.holdsUri = x.holdsUri
  | .items _ xs => by simp only [redacted, holdsUri, holdUri_redacted xs]
  | .settings s => s.value.holdsUri_redacted
  | .uri _ | .value _ | .options _ | .resources _ | .connection _ | .topology _ | .live _
  | .builder _ | .client _ | .deployment _ => rfl

theorem holdUri_redacted : ∀ xs : List Item, holdUri (redactedAll xs) = holdUri xs
  | [] => rfl
  | x :: rest => by
    simp only [redactedAll, holdUri, holdsUri_redacted x, holdUri_redacted rest]

end

@[simp] theorem same_redacted (x y : Item) : x.redacted.same y.redacted = x.same y := by
  cases x <;> cases y <;> rfl

mutual

/-- Two items are equal whatever their passwords are, unless both hold a URI. -/
theorem equals_redacted : ∀ x y : Item, (x.holdsUri && y.holdsUri) = false →
    x.redacted.equals y.redacted = x.equals y
  | .items a xs, y, h => by
    cases y with
    | items b ys =>
      simp only [redacted, equals]
      rw [equalsAll_redacted xs ys h]
    | _ => rfl
  | .uri u, y, h => by
    cases y with
    | uri v => cases h
    | _ => rfl
  | .settings s, y, h => by
    cases y with
    | settings t => exact Settings.equals_redacted h
    | _ => rfl
  | .value _, y, h | .options _, y, h | .resources _, y, h | .connection _, y, h
  | .topology _, y, h | .live _, y, h | .builder _, y, h | .client _, y, h
  | .deployment _, y, h => by
    cases y <;> rfl

theorem equalsAll_redacted : ∀ xs ys : List Item, (holdUri xs && holdUri ys) = false →
    equalsAll (redactedAll xs) (redactedAll ys) = equalsAll xs ys
  | [], [], _ => rfl
  | [], _ :: _, _ => rfl
  | _ :: _, [], _ => rfl
  | x :: xs, y :: ys, h => by
    simp only [redactedAll, equalsAll]
    rw [equals_redacted x y, equalsAll_redacted xs ys] <;> simp_all [holdUri]

end

/-- Whether an item has a hash does not depend on passwords. -/
theorem hashTags_redacted (x : Item) :
    x.redacted.hashParts.map Prod.fst = x.hashParts.map Prod.fst := by
  have hhashable : ∀ (tags : List String) {values values' : List Value},
      Value.unhashableItem? values' = Value.unhashableItem? values →
        (hashParts.hashable tags values').map Prod.fst =
          (hashParts.hashable tags values).map Prod.fst := by
    intro tags values values' h
    simp only [hashParts.hashable, h]
    cases Value.unhashableItem? values <;> rfl
  cases x with
  | uri u => exact hhashable ["uri"] u.value.unhashable_fields_redacted
  | settings s =>
    simp only [redacted, hashParts, Shared.map, Settings.redacted, Part.tag_redacted]
    refine hhashable _ ?_
    simp only [Settings.plainFields, Value.unhashableItem?_append,
      Part.unhashable_identity_redacted]
  | _ => rfl

/-- Whether the hash of an item is made from what is in a URI. -/
def hashesUri : Item → Bool
  | .uri _ => true
  | .settings s => s.value.holdsUri
  | _ => false

theorem holdsUri_of_hashesUri {x : Item} (h : x.hashesUri = true) : x.holdsUri = true := by
  cases x with
  | uri u => rfl
  | settings s => exact h
  | _ => cases h

theorem hashParts_redacted {x : Item} (h : x.hashesUri = false) :
    x.redacted.hashParts = x.hashParts := by
  cases x with
  | uri u => cases h
  | settings s =>
    simp only [redacted, hashParts, Shared.map, Settings.redacted_of_holds_none h]
  | _ => rfl

theorem hashTags_eq {tags : List String} {values : List Value} {part : List String × List Value}
    (h : hashParts.hashable tags values = .ok part) : part.1 = tags := by
  unfold hashParts.hashable at h
  split at h
  · cases h
  · cases h
    rfl

/-- Only a hash that is made from what is in a URI has the tag of one. -/
theorem hashesUri_iff {x : Item} {part : List String × List Value} (h : x.hashParts = .ok part) :
    x.hashesUri = true ↔ "uri" ∈ part.1 := by
  cases x with
  | value v | uri u | options o =>
    rw [hashTags_eq h]
    simp [hashesUri]
  | settings s =>
    rw [hashTags_eq h]
    simp [hashesUri, Settings.holdsUri, Part.uri_eq_tag_iff]
  | items isTuple xs =>
    cases isTuple
    · cases h
    · cases h
      simp [hashesUri]
  | topology ref =>
    cases ref <;> cases h <;> simp [hashesUri]
  | _ =>
    cases h
    simp [hashesUri]

/-- Whether the hashes of two items can be compared does not depend on passwords. -/
theorem sameHash_failure_redacted (x y : Item) :
    (x.redacted.sameHash y.redacted).map (fun _ => false) = (x.sameHash y).map fun _ => false := by
  unfold sameHash
  obtain ⟨e, hx', hx⟩ | ⟨p', p, hx', hx, -⟩ := cases_of_map_eq (hashTags_redacted x)
  · rw [hx, hx']
  · obtain ⟨e, hy', hy⟩ | ⟨q', q, hy', hy, -⟩ := cases_of_map_eq (hashTags_redacted y)
    · rw [hx, hx', hy, hy']
    · rw [hx, hx', hy, hy']
      rfl

/-- Two items have the same hash whatever their passwords are, unless both hold a URI. -/
theorem sameHash_redacted {x y : Item} (h : (x.holdsUri && y.holdsUri) = false) :
    x.redacted.sameHash y.redacted = x.sameHash y := by
  by_cases huri : (x.hashesUri || y.hashesUri) = true
  · -- only one of the two hashes is made from what is in a URI, so their tags differ
    have hnot : ¬ (x.hashesUri = true ↔ y.hashesUri = true) := by
      intro hiff
      obtain ⟨hx, hy⟩ : x.hashesUri = true ∧ y.hashesUri = true := by
        rw [Bool.or_eq_true] at huri
        tauto
      rw [holdsUri_of_hashesUri hx, holdsUri_of_hashesUri hy] at h
      cases h
    unfold sameHash
    obtain ⟨e, hx', hx⟩ | ⟨p', p, hx', hx, hp⟩ := cases_of_map_eq (hashTags_redacted x)
    · rw [hx, hx']
    · obtain ⟨e, hy', hy⟩ | ⟨q', q, hy', hy, hq⟩ := cases_of_map_eq (hashTags_redacted y)
      · rw [hx, hx', hy, hy']
      · have hne : p.1 ≠ q.1 := fun he =>
          hnot ((hashesUri_iff hx).trans (he ▸ (hashesUri_iff hy).symm))
        rw [hx, hx', hy, hy']
        simp only [hp, hq, hne, decide_false, Bool.false_and]
  · obtain ⟨hx, hy⟩ := Bool.or_eq_false_iff.mp (Bool.eq_false_iff.mpr huri)
    unfold sameHash
    rw [hashParts_redacted hx, hashParts_redacted hy]

theorem mapM_hashParts_redacted (xs : List Item) :
    ((xs.map redacted).mapM hashParts).map (fun _ => ()) = (xs.mapM hashParts).map fun _ => () := by
  induction xs with
  | nil => rfl
  | cons x rest ih =>
    simp only [List.map_cons, List.mapM_cons]
    obtain ⟨e, hx', hx⟩ | ⟨p', p, hx', hx, -⟩ := cases_of_map_eq (hashTags_redacted x)
    · rw [hx, hx']
      rfl
    · rw [hx, hx']
      obtain ⟨e, hr', hr⟩ | ⟨q', q, hr', hr, -⟩ := cases_of_map_eq ih
      · rw [hr, hr']
        rfl
      · rw [hr, hr']
        rfl

/-- The different ones among items, after those that have been seen. -/
def distinct (seen xs : List Item) : List Item :=
  xs.foldl (fun seen x => if seen.any (·.equals x) then seen else x :: seen) seen

theorem distinct_redacted : ∀ {xs seen : List Item},
    (∀ s ∈ seen, ∀ x ∈ xs, (s.holdsUri && x.holdsUri) = false) →
    (xs.Pairwise fun x y => (x.holdsUri && y.holdsUri) = false) →
    distinct (seen.map redacted) (xs.map redacted) = (distinct seen xs).map redacted
  | [], _, _, _ => rfl
  | x :: rest, seen, hseen, hxs => by
    obtain ⟨hx, hrest⟩ := List.pairwise_cons.mp hxs
    have hany : (seen.map redacted).any (·.equals x.redacted) = seen.any (·.equals x) := by
      rw [List.any_map, Bool.eq_iff_iff, List.any_eq_true, List.any_eq_true]
      refine exists_congr fun s => and_congr_right fun hs => ?_
      rw [Function.comp_apply, equals_redacted s x (hseen s hs x List.mem_cons_self)]
    have hkeep : ∀ s ∈ seen, ∀ y ∈ rest, (s.holdsUri && y.holdsUri) = false :=
      fun s hs y hy => hseen s hs y (List.mem_cons_of_mem _ hy)
    have hkept := distinct_redacted hkeep hrest
    have hadded := distinct_redacted (List.forall_mem_cons.mpr ⟨hx, hkeep⟩) hrest
    simp only [distinct, List.map_cons, List.foldl_cons, hany] at hkept hadded ⊢
    split
    · exact hkept
    · exact hadded

/-- Whether different items can be counted does not depend on passwords. -/
theorem countDistinct_failure_redacted (xs : List Item) :
    (countDistinct (xs.map redacted)).map (fun _ => ()) =
      (countDistinct xs).map fun _ => () := by
  unfold countDistinct
  obtain ⟨e, h', h⟩ | ⟨_, _, h', h, -⟩ := cases_of_map_eq (mapM_hashParts_redacted xs)
  · rw [h, h']
  · rw [h, h']
    rfl

/-- How many different items there are does not depend on passwords, unless two of the items hold
URIs. -/
theorem countDistinct_redacted {xs : List Item}
    (h : xs.Pairwise fun x y => (x.holdsUri && y.holdsUri) = false) :
    countDistinct (xs.map redacted) = countDistinct xs := by
  have hdistinct : (distinct [] (xs.map redacted)).length = (distinct [] xs).length := by
    have hmap := distinct_redacted (List.forall_mem_nil _) h
    rw [List.map_nil] at hmap
    rw [hmap, List.length_map]
  unfold countDistinct
  obtain ⟨e, h', h⟩ | ⟨_, _, h', h, -⟩ := cases_of_map_eq (mapM_hashParts_redacted xs)
  · rw [h, h']
  · rw [h, h']
    exact congrArg Except.ok hdistinct

end Item

/-! ## 4. Items taken apart -/

namespace Inspection

/-- The entries that are passwords, or tables with an entry for one. -/
def telling : List String :=
  ["password", "to_dict", "fields", "kwargs", "kwargs_without_database"]

/-- An entry without passwords. -/
def disclosedEntry (entry : String × Except Failure Item) : String × Except Failure Item :=
  (entry.1, entry.2.map fun x => if entry.1 ∈ telling then x.censored else x.redacted)

/-- An inspection without passwords. -/
def disclosed (inspection : Inspection) : Inspection := inspection.map disclosedEntry

variable (w : World)

theorem disclosedEntry_table {name : String} (h : name ∈ telling)
    {fields fields' : Except Failure (List (String × Value))}
    (hf : fields.map (Keywords.without "password") = fields'.map (Keywords.without "password")) :
    disclosedEntry (name, ofFields fields) = disclosedEntry (name, ofFields fields') := by
  obtain ⟨e, rfl, rfl⟩ | ⟨k, k', rfl, rfl, hk⟩ := cases_of_map_eq hf
  · rfl
  · simp [disclosedEntry, ofFields, Except.map, h, Item.censored, hk]

theorem attributeNames_redacted (x : Item) :
    attributeNames w.redacted x.redacted = attributeNames w x := by
  cases x with
  | topology ref => cases ref <;> rfl
  | client n =>
    simp only [attributeNames, Item.redacted, World.redacted_clients, Store.get_map,
      Client.aim_redacted]
    cases (w.clients.get n).aim <;> rfl
  | _ => rfl

theorem hasShownForm_redacted (x : Item) :
    hasShownForm w.redacted x.redacted = hasShownForm w x := by
  cases x with
  | topology ref => cases ref <;> rfl
  | client n => simp [hasShownForm, Item.redacted]
  | _ => rfl

theorem disclosedEntry_attribute (x : Item) (name : String) :
    disclosedEntry (name, Attribute.read w.redacted x.redacted name) =
      disclosedEntry (name, Attribute.read w x name) := by
  rw [Attribute.read_redacted]
  cases Attribute.read w x name with
  | error e => rfl
  | ok y =>
    by_cases h : name = "password"
    · subst h
      simp [disclosedEntry, Except.map, telling, Item.concealed]
    · simp [disclosedEntry, Except.map, Item.concealed_of_ne h]

theorem disclosed_extras_redacted (x : Item) :
    (extras w.redacted x.redacted).map disclosedEntry = (extras w x).map disclosedEntry := by
  cases x with
  | topology ref =>
    simp only [extras, Item.redacted, List.map_cons, List.map_nil]
    rw [disclosedEntry_table (by simp [telling]) (Method.without_topologyFields_redacted ref w)]
  | uri u =>
    simp only [extras, Item.redacted, Shared.map, List.map_cons, List.map_nil, Uri.text_redacted]
    have hfields : (Except.ok u.value.redacted.fields : Except Failure Keywords).map
        (Keywords.without "password") =
          (Except.ok u.value.fields : Except Failure Keywords).map (Keywords.without "password") :=
      congrArg Except.ok u.value.without_fields_redacted
    rw [disclosedEntry_table (by simp [telling]) hfields,
      disclosedEntry_table (by simp [telling]) (u.value.keywords_redacted true),
      disclosedEntry_table (by simp [telling]) (u.value.keywords_redacted false)]
  | _ => rfl

/-- An item is taken apart alike, but for passwords. -/
theorem disclosed_of_redacted (x : Item) :
    (of w.redacted x.redacted).disclosed = (of w x).disclosed := by
  have hattributes : ((attributeNames w x).map fun name =>
        disclosedEntry (name, Attribute.read w.redacted x.redacted name)) =
      (attributeNames w x).map fun name => disclosedEntry (name, Attribute.read w x name) :=
    List.map_congr_left fun name _ => disclosedEntry_attribute w x name
  unfold of disclosed
  simp only [List.map_cons, List.map_append, List.map_map, Function.comp_def, Item.kind_redacted,
    attributeNames_redacted, hasShownForm_redacted, Item.shown_redacted, hattributes,
    disclosed_extras_redacted]

end Inspection

end RedisLink
