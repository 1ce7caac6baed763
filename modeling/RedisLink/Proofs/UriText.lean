/-
RedisLink.Proofs.UriText — the text of a URI is a URL that names the same server.

The text of a URI without sentinels is a scheme, a host, a colon, a port, a slash
and a database. Where the host is made of small letters, digits, points and
hyphens, and port and database are decimal numbers that can be read back
(`Uri.Plain`), no character of it has a meaning of its own for a URL. So every
part is found again where it was put (`Url.split_place`, `Url.splitHost_place`),
and reading the URL gives host, port and database back and asks for TLS just if
the URI did (`Uri.target_of_text`).

All four are set in the server that is made from the URL. Therefore none of them
is left to the environment (`Uri.text_comes_back`). The password is not part of
the text, so it is.
-/
import RedisLink.Proofs.Numerals
import RedisLink.Proofs.Urls
import RedisLink.Session.Inspection

namespace RedisLink

open RedisLink.Number RedisLink.Text

namespace Url

/-! ## 1. Characters of hosts -/

/-- A small letter, a digit, a point or a hyphen. -/
def isHostChar (c : Char) : Bool := c.isLower || c.isDigit || c = '.' || c = '-'

/-- The characters that separate the parts of a URL, that count for nothing in it, or that stand
for another one. -/
def marks : List Char := ['/', '?', '#', '@', '[', ']', ':', '%', '\t', '\r', '\n']

theorem isHostChar_of_isDigit {c : Char} (h : c.isDigit = true) : isHostChar c = true := by
  simp [isHostChar, h]

/-- Characters of hosts are ASCII characters, and no capital letters. -/
theorem toNat_of_isHostChar {c : Char} (h : isHostChar c = true) :
    c.toNat < 0x41 ∨ 0x5A < c.toNat ∧ c.toNat < 0x80 := by
  simp only [isHostChar, Bool.or_eq_true, decide_eq_true_eq] at h
  rcases h with ((hlower | hdigit) | rfl) | rfl
  case inl.inl.inl =>
    replace hlower : (decide (0x61 ≤ c.val) && decide (c.val ≤ 0x7A)) = true := hlower
    simp only [Bool.and_eq_true, decide_eq_true_eq, UInt32.le_iff_toNat_le] at hlower
    have hfirst : 0x61 ≤ c.toNat := hlower.1
    have hlast : c.toNat ≤ 0x7A := hlower.2
    omega
  case inl.inl.inr => exact .inl (by have := toNat_of_isDigit hdigit; omega)
  case inl.inr => exact .inl (by decide)
  case inr => exact .inl (by decide)

/-- No mark stands among characters of hosts. -/
theorem not_mem_of_isHostChar {m : Char} (hmark : m ∈ marks) {cs : List Char}
    (h : ∀ c ∈ cs, isHostChar c = true) : m ∉ cs := by
  have apart : ∀ m ∈ marks, isHostChar m = false := by simp [marks, isHostChar]
  intro hmem
  exact absurd (h m hmem) (by simp [apart m hmark])

theorem isAscii_of_isHostChar {c : Char} (h : isHostChar c = true) : isAscii c = true := by
  have := toNat_of_isHostChar h
  simp only [isAscii, decide_eq_true_eq]
  omega

/-- Letters that have another lower-case form are capitals or beyond ASCII. -/
theorem lowerChar_of_isHostChar {c : Char} (h : isHostChar c = true) : lowerChar c = [c] := by
  have hc := toNat_of_isHostChar h
  have apart : ∀ r ∈ caseRuns, 0x41 ≤ r.first ∧ r.last ≤ 0x5A ∨ 0x80 ≤ r.first := by
    decide +kernel
  have hnone : caseRuns.find? (·.holds c.toNat) = none := by
    refine List.find?_eq_none.mpr fun r hr hholds => ?_
    simp only [CaseRun.holds, Bool.and_eq_true, decide_eq_true_eq] at hholds
    have := apart r hr
    omega
  rw [lowerChar, if_neg (by omega), hnone]

theorem lower_of_isHostChar {cs : List Char} (h : ∀ c ∈ cs, isHostChar c = true) :
    lower cs = cs := by
  have after : ∀ {cs : List Char}, (∀ c ∈ cs, isHostChar c = true) → ∀ before : List Char,
      lowerAfter before cs = cs := by
    intro cs
    induction cs with
    | nil => intro _ _; rfl
    | cons c rest ih =>
      intro h before
      obtain ⟨hc, hrest⟩ := List.forall_mem_cons.mp h
      have hsigma : (decide (c.toNat = capitalSigma) && endsWord before rest) = false := by
        have := toNat_of_isHostChar hc
        have hne : c.toNat ≠ capitalSigma := by simp only [capitalSigma]; omega
        simp [hne]
      rw [lowerAfter, hsigma, if_neg Bool.false_ne_true, lowerChar_of_isHostChar hc,
        ih hrest (c :: before), List.singleton_append]
  exact after h []

/-! ## 2. The parts of a plain URL -/

/-- What begins with the lead of a scheme has that scheme. -/
theorem splitScheme_lead (scheme : Scheme) (rest : List Char) :
    splitScheme (scheme.lead.toList ++ rest) = some (scheme, rest) := by
  cases scheme <;> simp [splitScheme, afterLead?, Scheme.lead]

variable {host port path : List Char}

/-- Nothing is dropped from a host, a port and a path, and the first slash ends the authority. -/
theorem split_place (hhost : ∀ c ∈ host, isHostChar c = true)
    (hport : ∀ c ∈ port, isHostChar c = true) (hpath : ∀ c ∈ path, isHostChar c = true) :
    split (host ++ ':' :: (port ++ '/' :: path)) = ⟨host ++ ':' :: port, '/' :: path, []⟩ := by
  have hplace : ∀ c ∈ host ++ ':' :: port, isHostChar c = true ∨ c = ':' := by
    intro c hc
    rcases List.mem_append.mp hc with hc | hc
    · exact .inl (hhost c hc)
    · rcases List.mem_cons.mp hc with rfl | hc
      · exact .inr rfl
      · exact .inl (hport c hc)
  have hinside : ∀ c, isHostChar c = true ∨ c = ':' →
      isIgnored c = false ∧ endsAuthority c = false := by
    rintro c (hc | rfl)
    · have hne {m : Char} (hmark : m ∈ marks) : c ≠ m := by
        rintro rfl
        exact not_mem_of_isHostChar hmark (List.forall_mem_singleton.mpr hc)
          (List.mem_singleton_self c)
      constructor
      · simp [isIgnored, hne (m := '\t') (by decide), hne (m := '\r') (by decide),
          hne (m := '\n') (by decide)]
      · simp [endsAuthority, hne (m := '/') (by decide), hne (m := '?') (by decide),
          hne (m := '#') (by decide)]
    · decide
  have hkept : (host ++ ':' :: (port ++ '/' :: path)).filter (fun c => !isIgnored c) =
      (host ++ ':' :: port) ++ '/' :: path := by
    rw [List.append_assoc, List.cons_append, List.filter_eq_self]
    intro c hc
    simp only [List.mem_append, List.mem_cons] at hc
    rcases hc with hc | rfl | hc | rfl | hc
    · simp [(hinside c (.inl (hhost c hc))).1]
    · rfl
    · simp [(hinside c (.inl (hport c hc))).1]
    · rfl
    · simp [(hinside c (.inl (hpath c hc))).1]
  have hnone {m : Char} (hmark : m ∈ marks) (hslash : m ≠ '/') :
      cutAt m ('/' :: path) = ('/' :: path, []) := by
    have hmem : m ∉ '/' :: path := by
      simp [hslash, not_mem_of_isHostChar hmark hpath]
    rw [cutAt, cutFirst?_of_not_mem hmem, Option.getD_none]
  have hpass : ∀ c ∈ host ++ ':' :: port, (!endsAuthority c) = true := fun c hc => by
    simp [(hinside c (hplace c hc)).2]
  simp only [split, hkept, List.takeWhile_append_of_pos hpass, List.dropWhile_append_of_pos hpass]
  rw [List.takeWhile_cons_of_neg (by decide), List.dropWhile_cons_of_neg (by decide),
    hnone (m := '#') (by decide) (by decide)]
  simp only [hnone (m := '?') (by decide) (by decide), List.append_nil]

/-- A mark that is no colon does not stand in a host with a port. -/
theorem not_mem_place {m : Char} (hmark : m ∈ marks) (hcolon : m ≠ ':')
    (hhost : ∀ c ∈ host, isHostChar c = true) (hport : ∀ c ∈ port, isHostChar c = true) :
    m ∉ host ++ ':' :: port := by
  simp [not_mem_of_isHostChar hmark hhost, hcolon, not_mem_of_isHostChar hmark hport]

theorem splitUser_place (hhost : ∀ c ∈ host, isHostChar c = true)
    (hport : ∀ c ∈ port, isHostChar c = true) :
    splitUser (host ++ ':' :: port) = (none, host ++ ':' :: port) := by
  rw [splitUser, cutLast?_eq_none_iff.mpr (not_mem_place (by decide) (by decide) hhost hport)]

theorem splitHost_place (hhost : ∀ c ∈ host, isHostChar c = true)
    (hport : ∀ c ∈ port, isHostChar c = true) :
    splitHost (host ++ ':' :: port) = (host, port) := by
  have hbracket : cutFirst? '[' (host ++ ':' :: port) = none :=
    cutFirst?_of_not_mem (not_mem_place (by decide) (by decide) hhost hport)
  simp only [splitHost, splitUser_place hhost hport, hbracket]
  rw [cutAt, cutFirst?_append (not_mem_of_isHostChar (by decide) hhost), Option.getD_some]

theorem checkBrackets_place (hhost : ∀ c ∈ host, isHostChar c = true)
    (hport : ∀ c ∈ port, isHostChar c = true) :
    checkBrackets (host ++ ':' :: port) = .ok () := by
  have hnone {m : Char} (hmark : m ∈ marks) (hcolon : m ≠ ':') :
      (host ++ ':' :: port).contains m = false := by
    simpa using not_mem_place hmark hcolon hhost hport
  rw [checkBrackets, hnone (m := '[') (by decide) (by decide),
    hnone (m := ']') (by decide) (by decide)]
  rfl

/-- Plain characters hide no mark. -/
theorem checkAuthority_place (hhost : ∀ c ∈ host, isHostChar c = true)
    (hport : ∀ c ∈ port, isHostChar c = true) :
    checkAuthority (host ++ ':' :: port) = .ok () := by
  have hopen : (host ++ ':' :: port).any hidesMark = false := by
    rw [List.any_eq_false]
    intro c hc
    have hascii : c.toNat < 128 := by
      rcases List.mem_append.mp hc with hc | hc
      · have := toNat_of_isHostChar (hhost c hc)
        omega
      · rcases List.mem_cons.mp hc with rfl | hc
        · decide
        · have := toNat_of_isHostChar (hport c hc)
          omega
    simp [hidesMark_of_ascii hascii]
  rw [checkAuthority, checkBrackets_place hhost hport]
  simp only [hopen, Bool.false_eq_true, if_false]

theorem readPassword_place (hhost : ∀ c ∈ host, isHostChar c = true)
    (hport : ∀ c ∈ port, isHostChar c = true) : readPassword (host ++ ':' :: port) = none := by
  rw [readPassword, password?, splitUser_place hhost hport]

/-! ## 3. What the parts are read as -/

theorem isDigit_of_mem_toDigits {n : Nat} : ∀ c ∈ Nat.toDigits 10 n, c.isDigit = true :=
  fun _ => Nat.isDigit_of_mem_toDigits (by decide) (by decide)

theorem isHostChar_of_mem_toDigits {n : Nat} : ∀ c ∈ Nat.toDigits 10 n, isHostChar c = true :=
  fun c hc => isHostChar_of_isDigit (isDigit_of_mem_toDigits c hc)

/-- A port is read back from its digits. -/
theorem readPort_toDigits {p : Nat} (range : p ≤ 65535) :
    readPort (Nat.toDigits 10 p) = .ok (some p) := by
  have hsome : (Nat.toDigits 10 p).isEmpty = false := by
    simp
  have hlength : (Nat.toDigits 10 p).length ≤ 5 :=
    (Nat.length_toDigits_le_iff (by decide) (by decide)).mpr (by omega)
  have hshort : ¬ digitLimit < (Nat.toDigits 10 p).length := by
    have hlimit : 5 ≤ digitLimit := by decide
    omega
  have hvalue : (Nat.toDigits 10 p).foldl (fun n c => 10 * n + (c.toNat - '0'.toNat)) 0 = p :=
    Nat.ofDigitChars_ten_toDigits
  rw [readPort, hsome, if_neg Bool.false_ne_true,
    if_pos (List.all_eq_true.mpr isDigit_of_mem_toDigits), if_neg hshort]
  simp only [hvalue, if_pos range]

/-- A host of plain characters is read as it is written. -/
theorem readHost_of_isHostChar (present : host ≠ []) (h : ∀ c ∈ host, isHostChar c = true) :
    readHost host = some (String.ofList host) := by
  have hempty : host.isEmpty = false := by simpa using present
  have hpercent : '%' ∉ host := not_mem_of_isHostChar (by decide) h
  have hwhole : host.takeWhile (· ≠ '%') = host := by
    have hpass : ∀ c ∈ host, decide (c ≠ '%') = true := fun c hc => by
      simpa using fun heq : c = '%' => hpercent (heq ▸ hc)
    rw [← List.append_nil host, List.takeWhile_append_of_pos (by simpa using hpass),
      List.takeWhile_nil]
  rw [readHost, hempty, if_neg Bool.false_ne_true]
  simp only [hwhole, List.drop_length, List.append_nil, lower_of_isHostChar h]
  rw [decode_of_plain host (fun c hc => isAscii_of_isHostChar (h c hc)) hpercent]

/-- A database is read back from a path that its digits make up. -/
theorem pathDatabase_toDigits {n : Nat} (short : (Nat.toDigits 10 n).length ≤ digitLimit) :
    pathDatabase ('/' :: Nat.toDigits 10 n) = some (n : Int) := by
  have hdecode : decode ('/' :: Nat.toDigits 10 n) = '/' :: Nat.toDigits 10 n := by
    refine decode_of_plain _ (fun c hc => ?_) ?_
    · rcases List.mem_cons.mp hc with rfl | hc
      · rfl
      · exact isAscii_of_isHostChar (isHostChar_of_mem_toDigits c hc)
    · simp [not_mem_of_isHostChar (m := '%') (by decide) isHostChar_of_mem_toDigits]
  have hslash : ('/' :: Nat.toDigits 10 n).filter (· ≠ '/') = Nat.toDigits 10 n := by
    rw [List.filter_cons_of_neg (by decide), List.filter_eq_self]
    intro c hc
    have hne : c ≠ '/' := fun h =>
      not_mem_of_isHostChar (m := '/') (by decide) isHostChar_of_mem_toDigits (h ▸ hc)
    simpa using hne
  rw [pathDatabase, List.isEmpty_cons, if_neg Bool.false_ne_true, hdecode, hslash,
    readInteger_eq_ok_iff.mpr (integerText_toDigits short)]
  rfl

/-- A URL of a host, a port and a database over the network says just these. -/
theorem Target.ofUrl_place {scheme : Scheme} (network : scheme ≠ .socket) {url : String}
    {p n : Nat} (present : host ≠ []) (hhost : ∀ c ∈ host, isHostChar c = true)
    (range : 1 ≤ p ∧ p ≤ 65535) (short : (Nat.toDigits 10 n).length ≤ digitLimit)
    (written : url.toList = scheme.lead.toList ++
      (host ++ ':' :: (Nat.toDigits 10 p ++ '/' :: Nat.toDigits 10 n))) :
    Target.ofUrl url = .ok {
      host := some (String.ofList host)
      port := .int p
      password := none
      database := some n
      transport := if scheme = .secure then .secure else .plain } := by
  have hport := isHostChar_of_mem_toDigits (n := p)
  have hsplit := split_place hhost hport (isHostChar_of_mem_toDigits (n := n))
  obtain ⟨q, rfl⟩ := Nat.exists_eq_add_of_le' range.1
  have hfields : queryFields [] = [] := rfl
  unfold Target.ofUrl
  rw [written, splitScheme_lead]
  simp only [hsplit, checkAuthority_place hhost hport, hfields, splitHost_place hhost hport,
    readPort_toDigits range.2, readPassword_place hhost hport,
    readHost_of_isHostChar present hhost, pathDatabase_toDigits short, if_neg network]
  cases scheme with
  | plain => rfl
  | secure => rfl
  | socket => exact absurd rfl network

end Url

/-! ## 4. The text of a URI -/

namespace Uri

open Url

/-- A URI whose text is a URL without anything that has to be escaped: no sentinels, a host of
plain characters, a port, and a database that is not too long. -/
structure Plain (u : Uri) (h : String) (p n : Nat) : Prop where
  single : u.master = .null
  host : u.host = .text h
  host_present : h ≠ ""
  host_plain : ∀ c ∈ h.toList, isHostChar c = true
  port : u.port = .int p
  port_range : 1 ≤ p ∧ p ≤ 65535
  database : u.database = .int n
  database_short : (Nat.toDigits 10 n).length ≤ digitLimit

variable {u : Uri} {host : String} {port database : Nat}

/-- The scheme that a URI without sentinels is written with. -/
def scheme (u : Uri) : Scheme := if u.ssl.truthy then .secure else .plain

theorem toList_asText_int (n : Nat) : (Value.asText (.int n)).toList = Nat.toDigits 10 n := by
  have h : Value.asText (.int n) = toString n := rfl
  rw [h]
  simp

/-- The text of a plain URI, part by part. -/
theorem text_of_plain (plain : u.Plain host port database) : ∃ url, u.text = .ok url ∧
    url.toList = u.scheme.lead.toList ++
      (host.toList ++ ':' :: (Nat.toDigits 10 port ++ '/' :: Nat.toDigits 10 database)) := by
  have hsingle : u.isSentinel = false := by rw [isSentinel, plain.single]; rfl
  refine ⟨(if u.ssl.truthy then "rediss" else "redis") ++ "://" ++ u.host.asText ++ ":" ++
    u.port.asText ++ "/" ++ u.database.asText, ?_, ?_⟩
  · rw [text, hsingle]
    exact if_neg Bool.false_ne_true
  · have hhost : u.host.asText = host := by rw [plain.host, Value.asText]
    rw [plain.port, plain.database]
    simp only [String.toList_append, toList_asText_int, hhost, scheme]
    cases u.ssl.truthy <;> simp [Scheme.lead]

/-- The text of a plain URI is read as host, port and database of the URI, over TLS just if the
URI is. -/
theorem target_of_text (plain : u.Plain host port database) {url : String}
    (written : u.text = .ok url) : Target.ofUrl url = .ok {
      host := some host
      port := .int port
      password := none
      database := some database
      transport := if u.ssl.truthy then .secure else .plain } := by
  obtain ⟨url', htext, hparts⟩ := text_of_plain plain
  obtain rfl := Except.ok.inj (written.symm.trans htext)
  have hnetwork : u.scheme ≠ .socket := by
    unfold scheme
    cases u.ssl.truthy <;> decide
  have hread := Target.ofUrl_place hnetwork (by simpa using plain.host_present) plain.host_plain
    plain.port_range plain.database_short hparts
  rw [hread, String.ofList_toList, scheme]
  cases u.ssl.truthy <;> rfl

/-! ## 5. The server that the text names -/

/-- The server that has everything but its password from a URI. -/
def server (u : Uri) (database : Nat) : Standalone :=
  ⟨⟨.null, some database⟩, u.host, u.port, .bool u.ssl.truthy⟩

/-- This is the server that the text of a plain URI names. -/
theorem server_of_text (plain : u.Plain host port database) {url : String}
    (written : u.text = .ok url) : Standalone.ofUrl url = .ok (u.server database) := by
  have hmake : Standalone.make (.text host) (.int port) .null (.int database) =
      .ok ⟨⟨.null, some database⟩, .text host, .int port, .bool false⟩ := rfl
  unfold Standalone.ofUrl server
  rw [target_of_text plain written, plain.host, plain.port]
  simp only [bind, Except.bind, pure, Except.pure, Standalone.optionalText, hmake]
  cases u.ssl.truthy <;> rfl

/-- Host, port, database and TLS of a topology are those of a URI. -/
structure ReadFrom (u : Uri) (ref : TopologyRef) (w : World) : Prop where
  host : Attribute.read w (.topology ref) "host" = .ok (.value u.host)
  port : Attribute.read w (.topology ref) "port" = .ok (.value u.port)
  database : Attribute.read w (.topology ref) "database" = .ok (.value u.database)
  tls : Attribute.read w (.topology ref) "ssl" = .ok (.value (.bool u.ssl.truthy))
  /-- A flag of the URI is read as it is. -/
  flag : ∀ b, u.ssl = .bool b → Attribute.read w (.topology ref) "ssl" = .ok (.value u.ssl)

/-- Nothing of the server is left to the environment. -/
theorem readFrom_server (plain : u.Plain host port database) {w : World} {n : Nat}
    (held : w.standalones.get n = u.server database) : u.ReadFrom (.standalone n) w := by
  have htls : Attribute.read w (.topology (.standalone n)) "ssl" =
      .ok (.value (.bool u.ssl.truthy)) := by
    simp only [Attribute.read, Attribute.find, Attribute.ofTopology, held, server,
      Option.getD_some]
  constructor
  case host =>
    simp only [Attribute.read, Attribute.find, Attribute.ofTopology, held, server,
      Option.getD_some, plain.host, Standalone.hostIn, Value.orElse]
  case port =>
    simp only [Attribute.read, Attribute.find, Attribute.ofTopology, held, server,
      Option.getD_some, plain.port, Standalone.portIn, Value.orElse]
  case database =>
    simp only [Attribute.read, Attribute.find, Attribute.ofTopology, TopologyRef.database,
      World.credentialsOf, held, server, Option.getD_some, plain.database,
      Credentials.databaseIn, Item.ofNat]
  case tls => exact htls
  case flag =>
    intro b hb
    rw [htls, hb]
    rfl

/-- A plain URI comes back from its text: the single server that is made from the text as a URL has
its host, its port, its database and its TLS, in every environment. -/
theorem text_comes_back (plain : u.Plain host port database) (number : Nat) (w : World) :
    ∃ url ref v, Item.text w (.uri ⟨number, u⟩) = .ok url ∧
      Construct.static .standalone "from_url" ⟨[.value (.text url)], []⟩ w =
        (.ok (.topology ref), v) ∧
      ∀ env : Environment, u.ReadFrom ref { v with env := env } := by
  obtain ⟨url, htext, -⟩ := text_of_plain plain
  refine ⟨url, .standalone w.standalones.size,
    { w with standalones := w.standalones.add (u.server database) }, htext, ?_, ?_⟩
  · have hmade : Construct.static .standalone "from_url" ⟨[.value (.text url)], []⟩ w =
        Construct.addTopology ((Standalone.ofUrl url).map .standalone) w := rfl
    rw [hmade, server_of_text plain htext]
    rfl
  · exact fun env => readFrom_server plain (Store.get_add_size _ _)

/-- A URI with a password and a database, over TLS. -/
def cache : Uri :=
  { standard (.text "cache-1.local") (.int 6380) with
    password := .text "secret", database := .int 3, ssl := .bool true }

theorem text_comes_back_cache : cache.Plain "cache-1.local" 6380 3 ∧
    ∃ url ref v,
      Item.text (World.initial .empty ClassPath.modules default) (.uri ⟨1, cache⟩) = .ok url ∧
      Construct.static .standalone "from_url" ⟨[.value (.text url)], []⟩
          (World.initial .empty ClassPath.modules default) = (.ok (.topology ref), v) ∧
      ∀ env : Environment, cache.ReadFrom ref { v with env := env } :=
  have plain : cache.Plain "cache-1.local" 6380 3 :=
    ⟨rfl, rfl, by decide, List.all_eq_true.mp rfl, rfl, by decide, rfl, by decide⟩
  ⟨plain, text_comes_back plain 1 (World.initial .empty ClassPath.modules default)⟩

end Uri

end RedisLink
