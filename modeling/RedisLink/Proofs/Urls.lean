/-
RedisLink.Proofs.Urls — what is read from a URL, and the server that it names.

Every URL that can be read has one of three schemes. `Target.Reading` says once
what each part of the result is taken from; everything else about a URL that
has been read follows from it by two cases, one for a socket and one for the
network. In particular a URL leads to TLS just when it begins with `rediss://`
(`Target.transport_secure_iff`), whatever its query names.

A single server that is made from a URL holds what the URL says, and leaves the
rest unset (`Standalone.Holds`).
-/
import RedisLink.Topology.Standalone

namespace RedisLink

open RedisLink.Number RedisLink.Text

namespace Url

/-! ## 1. Schemes -/

theorem eq_append_of_afterLead? {start cs rest : List Char} (h : afterLead? start cs = some rest) :
    cs = start ++ rest := by
  unfold afterLead? at h
  split at h
  case isTrue hlead =>
    obtain ⟨behind, rfl⟩ := List.isPrefixOf_iff_prefix.mp hlead
    rw [List.drop_left, Option.some.injEq] at h
    rw [h]
  case isFalse => cases h

theorem eq_append_of_splitScheme {url rest : List Char} {scheme : Scheme}
    (h : splitScheme url = some (scheme, rest)) : url = scheme.lead.toList ++ rest := by
  obtain ⟨found, -, hfound⟩ := List.exists_of_findSome?_eq_some h
  obtain ⟨behind, hbehind, hpair⟩ := Option.map_eq_some_iff.mp hfound
  obtain ⟨rfl, rfl⟩ := Prod.mk.inj hpair
  exact eq_append_of_afterLead? hbehind

/-- No scheme begins like another one. -/
theorem scheme_eq_of_lead {s t : Scheme} {rest : List Char}
    (h : s.lead.toList <+: t.lead.toList ++ rest) : s = t := by
  cases s <;> cases t <;> simp [Scheme.lead] at h ⊢

theorem scheme_eq_iff {url rest : List Char} {scheme : Scheme}
    (h : splitScheme url = some (scheme, rest)) (other : Scheme) :
    scheme = other ↔ other.lead.toList <+: url := by
  have hurl := eq_append_of_splitScheme h
  constructor
  · rintro rfl
    exact ⟨rest, hurl.symm⟩
  · intro hlead
    rw [hurl] at hlead
    exact (scheme_eq_of_lead hlead).symm

/-! ## 2. The parts that a URL is read from -/

namespace Parts

/-- The text that the query gives for a name. -/
def named (parts : Parts) (name : String) : Option String :=
  fieldText (queryFields parts.query) name

/-- A port of the authority that is not zero, else what the query names as one. -/
def port (parts : Parts) : Option Nat → Value
  | some (n + 1) => .int (n + 1)
  | _ => Standalone.optionalText (parts.named "port")

/-- The password of the authority, else that of the query. -/
def password (parts : Parts) : Option String :=
  firstOf (readPassword parts.authority) (parts.named "password")

/-- The database that the query names. -/
def namedDatabase (parts : Parts) : Option Int := (parts.named "db").bind integer?

/-- The way over the network that a scheme and the query ask for. -/
def transport (parts : Parts) (scheme : Scheme) : Transport :=
  match scheme, parts.named "connection_class" with
  | .secure, _ => .secure
  | _, some text => .named text
  | _, none => .plain

end Parts

/-- What a URL is read as. -/
inductive Target.Reading (url : String) : Target → Prop
  /-- For a socket only the query counts, besides a password. -/
  | socket {rest : List Char} (splits : splitScheme url.toList = some (.socket, rest)) :
      Reading url {
        host := (split rest).named "host"
        port := (split rest).port none
        password := (split rest).password
        database := (split rest).namedDatabase
        transport := .socket }
  | network {scheme : Scheme} {rest : List Char} {port : Option Nat}
      (splits : splitScheme url.toList = some (scheme, rest)) (network : scheme ≠ .socket)
      (readable : readPort (splitHost (split rest).authority).2 = .ok port) :
      Reading url {
        host := firstOf (readHost (splitHost (split rest).authority).1) ((split rest).named "host")
        port := (split rest).port port
        password := (split rest).password
        database :=
          if ((split rest).named "db").isSome then (split rest).namedDatabase
          else pathDatabase (split rest).path
        transport := (split rest).transport scheme }

theorem Target.reading_of_ofUrl {url : String} {t : Target} (h : Target.ofUrl url = .ok t) :
    Target.Reading url t := by
  unfold Target.ofUrl at h
  split at h
  · cases h
  · rename_i scheme rest hscheme
    simp only [bind, Except.bind, pure, Except.pure] at h
    split at h
    · cases h
    · split at h
      · cases h
      · split at h
        case isTrue hsocket =>
          subst hsocket
          cases h
          exact .socket hscheme
        case isFalse hnetwork =>
          split at h
          · cases h
          · rename_i port hport
            cases h
            exact .network hscheme hnetwork hport

/-- A URL leads to TLS just when it begins so; its query cannot make it or keep it from that. -/
theorem Target.transport_secure_iff {url : String} {t : Target} (h : Target.ofUrl url = .ok t) :
    t.transport = .secure ↔ Scheme.secure.lead.toList <+: url.toList := by
  cases Target.reading_of_ofUrl h with
  | socket splits =>
    rw [← scheme_eq_iff splits]
    simp
  | @network scheme rest _ splits network _ =>
    rw [← scheme_eq_iff splits]
    unfold Parts.transport
    cases scheme with
    | plain => cases (split rest).named "connection_class" <;> simp
    | secure => simp
    | socket => exact absurd rfl network

end Url

/-! ## 3. The server that a URL names -/

theorem Credentials.readDatabase_int (n : Int) : readDatabase (.int n) =
    if n < 0 then .error (.negativeDatabase n) else .ok n.toNat :=
  rfl

namespace Standalone

/-- A server is made with every port or with none. -/
theorem make_eq_ok_iff {host port password database : Value} {s : Standalone} :
    make host port password database = .ok s ↔
      ∃ c, Credentials.make password database = .ok c ∧ s = ⟨c, host, port, .bool false⟩ := by
  unfold make
  cases Credentials.make password database with
  | error e => simp
  | ok c => simp [eq_comm]

/-- A server holds what a URL says, and nothing else. -/
structure Holds (s : Standalone) (t : Url.Target) : Prop where
  host : s.host = optionalText t.host
  port : s.port = t.port
  password : s.credentials.password = optionalText t.password
  database : s.credentials.database.map Int.ofNat = t.database
  tls : s.tls = .bool (decide (t.transport = .secure))

theorem asksForTls_eq_ok {transport : Url.Transport} {tls : Bool}
    (h : asksForTls transport = .ok tls) : tls = decide (transport = .secure) := by
  cases transport <;> cases h <;> simp

theorem make_database {password : Value} {database : Option Int} {c : Credentials}
    (h : Credentials.make password (match database with
      | some n => .int n
      | none => .null) = .ok c) :
    c.password = password ∧ c.database.map Int.ofNat = database := by
  cases database with
  | none =>
    cases h
    exact ⟨rfl, rfl⟩
  | some n =>
    simp only [Credentials.make, Credentials.setDatabase, Credentials.readDatabase_int] at h
    by_cases hn : n < 0
    · rw [if_pos hn] at h
      cases h
    · rw [if_neg hn] at h
      cases h
      exact ⟨rfl, congrArg some (Int.toNat_of_nonneg (Int.not_lt.mp hn))⟩

theorem holds_of_ofUrl {url : String} {s : Standalone} (h : ofUrl url = .ok s) :
    ∃ t, Url.Target.ofUrl url = .ok t ∧ s.Holds t := by
  unfold ofUrl at h
  simp only [bind, Except.bind, pure, Except.pure] at h
  split at h
  · cases h
  · rename_i target htarget
    split at h
    · cases h
    · rename_i server hserver
      obtain ⟨c, hc, rfl⟩ := make_eq_ok_iff.mp hserver
      obtain ⟨hpassword, hdatabase⟩ := make_database hc
      split at h
      · cases h
      · rename_i tls htls
        cases h
        exact ⟨target, htarget, rfl, rfl, hpassword, hdatabase,
          congrArg Value.bool (asksForTls_eq_ok htls)⟩

end Standalone

end RedisLink
