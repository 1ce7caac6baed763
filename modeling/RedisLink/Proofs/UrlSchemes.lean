/-
RedisLink.Proofs.UrlSchemes — which URLs name a server.

A URL should name a server of the network: it begins with `redis://` or with
`rediss://`, the second asks for TLS, and anything else is a bad value
(`UrlMeant`). There are two exceptions. A URL of a socket names a server as well,
though only its query says where it is; and a query that names a class of
connections, which a text cannot be, makes `redis://` a bad kind. Both come up
only for URLs that are fine otherwise (`Url.Usable`).

What comes of a URL is decided in an order: first whether it can be read, then
whether its database is an index, and then the class. `Standalone.FromUrl` has a
constructor for each place where it can end, and `UrlOutcomes` follows by cases.
-/
import RedisLink.Proofs.Ports
import RedisLink.Session.Construct

namespace RedisLink

open RedisLink.Number RedisLink.Text

namespace Url

/-- A URL begins like those of a scheme. -/
def Scheme.Begins (scheme : Scheme) (url : String) : Prop := scheme.lead.toList <+: url.toList

instance (scheme : Scheme) (url : String) : Decidable (scheme.Begins url) :=
  inferInstanceAs (Decidable (scheme.lead.toList <+: url.toList))

/-- A URL can be read, and its database is not negative, if it names one. -/
def Usable (url : String) : Prop :=
  ∃ t, Target.ofUrl url = .ok t ∧ ∀ n, t.database = some n → 0 ≤ n

/-! ## 1. URLs that cannot be read -/

theorem checkBracketedHost_error {host : List Char} {e : Failure}
    (h : checkBracketedHost host = .error e) : e.category = .badValue := by
  unfold checkBracketedHost at h
  split_ifs at h <;> cases h <;> rfl

theorem checkBrackets_error {authority : List Char} {e : Failure}
    (h : checkBrackets authority = .error e) : e.category = .badValue := by
  unfold checkBrackets at h
  split_ifs at h
  · cases h
    rfl
  · dsimp only at h
    split at h
    · split_ifs at h
      · cases h
        rfl
      · exact checkBracketedHost_error h
    · exact checkBracketedHost_error h

theorem checkAuthority_error {authority : List Char} {e : Failure}
    (h : checkAuthority authority = .error e) : e.category = .badValue := by
  unfold checkAuthority at h
  split at h
  · rename_i hbrackets
    cases h
    exact checkBrackets_error hbrackets
  · split_ifs at h
    cases h
    rfl

theorem checkFields_error {fields : List Field} {e : Failure}
    (h : checkFields fields = .error e) : e.category = .badValue := by
  unfold checkFields at h
  split at h <;> cases h
  rfl

theorem readPort_error {text : List Char} {e : Failure} (h : readPort text = .error e) :
    e.category = .badValue := by
  unfold readPort at h
  dsimp only at h
  split_ifs at h <;> cases h <;> rfl

/-- Whatever keeps a URL from being read, it is a bad value. -/
theorem Target.ofUrl_error {url : String} {e : Failure} (h : Target.ofUrl url = .error e) :
    e.category = .badValue := by
  unfold Target.ofUrl at h
  split at h
  · cases h
    rfl
  · simp only [bind, Except.bind, pure, Except.pure] at h
    split at h
    · rename_i hauthority
      cases h
      exact checkAuthority_error hauthority
    · split at h
      · rename_i hfields
        cases h
        exact checkFields_error hfields
      · split at h
        · cases h
        · split at h
          · rename_i hport
            cases h
            exact readPort_error hport
          · cases h

/-! ## 2. What a URL that is read begins with -/

section

variable {url : String} {t : Target}

theorem Target.begins_of_ofUrl (h : Target.ofUrl url = .ok t) :
    ∃ scheme : Scheme, scheme.Begins url := by
  cases Target.reading_of_ofUrl h with
  | socket splits => exact ⟨_, _, (eq_append_of_splitScheme splits).symm⟩
  | network splits => exact ⟨_, _, (eq_append_of_splitScheme splits).symm⟩

/-- A class of connections counts where nothing else decides about TLS. -/
theorem Target.transport_named_iff (h : Target.ofUrl url = .ok t) :
    (∃ text, t.transport = .named text) ↔
      Scheme.plain.Begins url ∧ (queryText url "connection_class").isSome := by
  unfold Scheme.Begins
  cases Target.reading_of_ofUrl h with
  | socket splits =>
    rw [← scheme_eq_iff splits]
    simp
  | @network scheme rest _ splits network _ =>
    have hquery : queryText url "connection_class" = (split rest).named "connection_class" := by
      unfold queryText
      rw [splits]
      rfl
    rw [← scheme_eq_iff splits, hquery]
    unfold Parts.transport
    cases scheme with
    | plain => cases (split rest).named "connection_class" <;> simp
    | secure => simp
    | socket => exact absurd rfl network

end

end Url

/-! ## 3. What comes of a URL -/

/-- What should come of a URL. -/
inductive UrlMeant (url : String) : Except Failure Standalone → Prop
  /-- A server of the network, with TLS just if the URL begins so. -/
  | server {s : Standalone}
      (network : Url.Scheme.plain.Begins url ∨ Url.Scheme.secure.Begins url)
      (tls : s.tls = .bool (decide (Url.Scheme.secure.Begins url))) : UrlMeant url (.ok s)
  /-- A bad value. -/
  | refused {e : Failure} (value : e.category = .badValue) : UrlMeant url (.error e)

namespace Standalone

/-- What comes of a URL, step by step. -/
inductive FromUrl (url : String) : Except Failure Standalone → Prop
  /-- It cannot be read. -/
  | unreadable {e : Failure} (reads : Url.Target.ofUrl url = .error e) : FromUrl url (.error e)
  /-- Its database is negative. -/
  | negative {t : Url.Target} {n : Int} (reads : Url.Target.ofUrl url = .ok t)
      (database : t.database = some n) (negative : n < 0) :
      FromUrl url (.error (.negativeDatabase n))
  /-- Its query names a class of connections, as a text. -/
  | named {t : Url.Target} {text : String} (reads : Url.Target.ofUrl url = .ok t)
      (indexed : ∀ n, t.database = some n → 0 ≤ n) (named : t.transport = .named text) :
      FromUrl url (.error .schemeClass)
  /-- It names a server. -/
  | server {t : Url.Target} {s : Standalone} (reads : Url.Target.ofUrl url = .ok t)
      (indexed : ∀ n, t.database = some n → 0 ≤ n) (unnamed : ∀ text, t.transport ≠ .named text)
      (holds : s.Holds t) : FromUrl url (.ok s)

section

variable {url : String} {t : Url.Target}

theorem ofUrl_unreadable {e : Failure} (reads : Url.Target.ofUrl url = .error e) :
    ofUrl url = .error e := by
  unfold ofUrl
  rw [reads]
  rfl

theorem ofUrl_negative {n : Int} (reads : Url.Target.ofUrl url = .ok t)
    (database : t.database = some n) (negative : n < 0) :
    ofUrl url = .error (.negativeDatabase n) := by
  unfold ofUrl
  rw [reads]
  simp only [bind, Except.bind, database, make, Credentials.make, Credentials.setDatabase,
    Credentials.readDatabase_int, if_pos negative]

/-- Once everything but the class of connections is settled, that decides. -/
theorem ofUrl_indexed (reads : Url.Target.ofUrl url = .ok t)
    (indexed : ∀ n, t.database = some n → 0 ≤ n) :
    ofUrl url = (asksForTls t.transport).map fun tls =>
      ⟨⟨optionalText t.password, t.database.map Int.toNat⟩, optionalText t.host, t.port,
        .bool tls⟩ := by
  unfold ofUrl
  rw [reads]
  cases database : t.database with
  | none =>
    simp only [bind, Except.bind, database]
    rfl
  | some n =>
    have hnonneg : ¬ n < 0 := Int.not_lt.mpr (indexed n database)
    simp only [bind, Except.bind, database, make, Credentials.make, Credentials.setDatabase,
      Credentials.readDatabase_int, if_neg hnonneg]
    rfl

theorem ofUrl_fromUrl (url : String) : FromUrl url (ofUrl url) := by
  cases reads : Url.Target.ofUrl url with
  | error e =>
    rw [ofUrl_unreadable reads]
    exact .unreadable reads
  | ok t =>
    by_cases hnegative : ∃ n, t.database = some n ∧ n < 0
    · obtain ⟨n, database, hneg⟩ := hnegative
      rw [ofUrl_negative reads database hneg]
      exact .negative reads database hneg
    · have indexed : ∀ n, t.database = some n → 0 ≤ n := fun n database =>
        Int.not_lt.mp fun hneg => hnegative ⟨n, database, hneg⟩
      cases hresult : ofUrl url with
      | error e =>
        rw [ofUrl_indexed reads indexed] at hresult
        cases htransport : t.transport <;> rw [htransport] at hresult <;> cases hresult
        exact .named reads indexed htransport
      | ok s =>
        obtain ⟨t', reads', holds⟩ := holds_of_ofUrl hresult
        obtain rfl : t = t' := Except.ok.inj (reads.symm.trans reads')
        refine .server reads indexed (fun text htransport => ?_) holds
        rw [ofUrl_indexed reads indexed, htransport] at hresult
        cases hresult

end

end Standalone

namespace Url

/-- A URL of the network whose query names a class of connections that is not settled already. -/
def NamesClass (url : String) : Prop :=
  Scheme.plain.Begins url ∧ (queryText url "connection_class").isSome

end Url

/-- What comes of a URL, of those that should name a server and of the others. -/
structure UrlOutcomes (url : String) : Prop where
  /-- It is what it should be, but for the two exceptions. -/
  meant : UrlMeant url (Standalone.ofUrl url) ↔
    ¬ (Url.Usable url ∧ (Url.Scheme.socket.Begins url ∨ Url.NamesClass url))
  /-- A server has been named by a URL with one of three beginnings, and it has TLS just if this is
  the second. -/
  server : ∀ s, Standalone.ofUrl url = .ok s → (∃ scheme : Url.Scheme, scheme.Begins url) ∧
    s.tls = .bool (decide (Url.Scheme.secure.Begins url))
  /-- The first exception: a socket is a server as well. -/
  socket : Url.Scheme.socket.Begins url →
    ((∃ s, Standalone.ofUrl url = .ok s) ↔ Url.Usable url)
  /-- The second one: this is the only failure that is no bad value. -/
  named : Standalone.ofUrl url = .error .schemeClass ↔ Url.Usable url ∧ Url.NamesClass url
  refused : ∀ e, Standalone.ofUrl url = .error e → e.category = .badValue ∨ e = .schemeClass
  /-- The maker of servers gives the server, or fails and leaves everything as it is. -/
  called : ∀ w, Construct.static .standalone "from_url" ⟨[.value (.text url)], []⟩ w =
    match Standalone.ofUrl url with
    | .ok s => (.ok (.topology (.standalone w.standalones.size)),
        { w with standalones := w.standalones.add s })
    | .error e => (.error e, w)

section

variable {url : String}

/-- The beginnings exclude each other. -/
theorem Url.not_socket_of_begins {scheme : Scheme} (h : scheme.Begins url)
    (network : scheme ≠ .socket) : ¬ Scheme.socket.Begins url := by
  rintro hsocket
  obtain ⟨rest, hrest⟩ := h
  unfold Scheme.Begins at hsocket
  rw [← hrest] at hsocket
  exact network (scheme_eq_of_lead hsocket).symm

theorem Standalone.FromUrl.server_spec {s : Standalone} (h : FromUrl url (.ok s)) :
    Url.Usable url ∧ ¬ Url.NamesClass url ∧ (∃ scheme : Url.Scheme, scheme.Begins url) ∧
      s.tls = .bool (decide (Url.Scheme.secure.Begins url)) := by
  cases h with
  | @server t s reads indexed unnamed holds =>
    refine ⟨⟨t, reads, indexed⟩, fun hnamed => ?_, Url.Target.begins_of_ofUrl reads, ?_⟩
    · obtain ⟨text, htext⟩ := (Url.Target.transport_named_iff reads).mpr hnamed
      exact unnamed text htext
    · rw [holds.tls]
      exact congrArg Value.bool (decide_eq_decide.mpr (Url.Target.transport_secure_iff reads))

theorem Standalone.FromUrl.error_spec {e : Failure} (h : FromUrl url (.error e)) :
    e = .schemeClass ∧ Url.Usable url ∧ Url.NamesClass url ∨
      e.category = .badValue ∧ ¬ Url.Usable url := by
  cases h with
  | unreadable reads =>
    refine .inr ⟨Url.Target.ofUrl_error reads, ?_⟩
    rintro ⟨t, reads', -⟩
    rw [reads] at reads'
    cases reads'
  | @negative t n reads database negative =>
    refine .inr ⟨rfl, ?_⟩
    rintro ⟨t', reads', indexed⟩
    obtain rfl : t = t' := Except.ok.inj (reads.symm.trans reads')
    have := indexed n database
    omega
  | @named t text reads indexed named =>
    exact .inl ⟨rfl, ⟨t, reads, indexed⟩, (Url.Target.transport_named_iff reads).mp ⟨text, named⟩⟩

end

end RedisLink
