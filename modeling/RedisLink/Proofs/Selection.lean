/-
RedisLink.Proofs.Selection — the deployment that the environment selects.

Four variables select: nodes of a cluster come before the name of a master, and
that comes before a URL. For these three a variable that is set to an empty text
is as good as one that is not set. The TLS flag is the exception: `REDIS_SSL`
decides as soon as it is set, even to an empty text, and only where it is not
set does the scheme of the URL have a say (`Environment.AsksForTls`).

Of a URL only what it says counts: each setting of a single server that it is
silent about is left to its own variable or default (`Environment.Gives`). What
a URL says is `Url.Target`; that one beginning with `rediss://` asks for TLS,
and no other does, is `Target.transport_secure_iff`.

`Selection` puts this together for every world, with what does not matter: the
URL, when another topology is selected. Each setting reads a variable of its
own, so no attribute of a deployment reads that of the URL (`read_sameButUrl`).
-/
import Mathlib.Data.List.Forall2
import RedisLink.Proofs.Ports
import RedisLink.Proofs.Timeouts
import RedisLink.Session.Construct

namespace RedisLink

open RedisLink.Text

/-! ## 1. Words that switch a flag on -/

namespace Text

theorem toNat_toLower (c : Char) :
    c.toLower.toNat = if 65 ≤ c.toNat ∧ c.toNat ≤ 90 then c.toNat + 32 else c.toNat := by
  by_cases h : 65 ≤ c.toNat ∧ c.toNat ≤ 90
  · have hlower : c.toLower = ⟨c.val + ('a'.val - 'A'.val), _⟩ := dif_pos h
    have hshift : ('a'.val - 'A'.val).toNat = 32 := rfl
    rw [if_pos h, hlower, Char.toNat, UInt32.toNat_add, hshift]
    show (c.toNat + 32) % 4294967296 = c.toNat + 32
    omega
  · have hsame : c.toLower = c := dif_neg h
    rw [if_neg h, hsame]

theorem toNat_toUpper (c : Char) :
    c.toUpper.toNat = if 97 ≤ c.toNat ∧ c.toNat ≤ 122 then c.toNat - 32 else c.toNat := by
  by_cases h : 97 ≤ c.toNat ∧ c.toNat ≤ 122
  · -- a shift down is a shift up that goes around
    have hupper : c.toUpper = ⟨c.val + ('A'.val - 'a'.val), _⟩ := dif_pos h
    have hshift : ('A'.val - 'a'.val).toNat = 4294967264 := rfl
    rw [if_pos h, hupper, Char.toNat, UInt32.toNat_add, hshift]
    show (c.toNat + 4294967264) % 4294967296 = c.toNat - 32
    omega
  · have hsame : c.toUpper = c := dif_neg h
    rw [if_neg h, hsame]

theorem toLower_eq_iff {c d : Char} (hd : d.toLower = d) :
    c.toLower = d ↔ c = d ∨ c = d.toUpper := by
  simp only [← Char.toNat_inj, toNat_toLower, toNat_toUpper] at *
  grind

/-- A text is one of the words that switch a flag on, with each letter in upper or lower case. -/
def YesInAnyCase (text : String) : Prop :=
  ∃ word ∈ yesWords, List.Forall₂ (fun c d => c = d ∨ c = d.toUpper) text.toList word.toList

theorem map_toLower_eq_iff : ∀ {cs word : List Char}, (∀ d ∈ word, d.toLower = d) →
    (cs.map Char.toLower = word ↔ List.Forall₂ (fun c d => c = d ∨ c = d.toUpper) cs word)
  | [], [], _ => by simp
  | [], _ :: _, _ => by simp
  | _ :: _, [], _ => by simp
  | c :: cs, d :: word, h => by
    obtain ⟨hd, hword⟩ := List.forall_mem_cons.mp h
    rw [List.map_cons, List.cons.injEq, List.forall₂_cons, toLower_eq_iff hd,
      map_toLower_eq_iff hword]

theorem isYes_iff {text : String} : isYes text = true ↔ YesInAnyCase text := by
  have lowerCase : ∀ word ∈ yesWords, ∀ d ∈ word.toList, d.toLower = d := by simp [yesWords]
  unfold isYes YesInAnyCase
  rw [List.contains_iff_mem]
  constructor
  · intro h
    refine ⟨_, h, (map_toLower_eq_iff (lowerCase _ h)).mp ?_⟩
    exact String.toList_ofList.symm
  · rintro ⟨word, hword, hcases⟩
    rw [(map_toLower_eq_iff (lowerCase word hword)).mpr hcases, String.ofList_toList]
    exact hword

end Text

/-! ## 2. What an environment selects -/

/-- What says nothing about a server. -/
def Url.Target.silent : Url.Target := ⟨none, .null, none, none, .plain⟩

namespace Environment

/-- A variable is set to a text that is not empty. -/
def Filled (env : Environment) (key : String) : Prop :=
  ∃ text, env.get? key = some text ∧ text ≠ ""

/-- The topology is a cluster. -/
def SelectsCluster (env : Environment) : Prop := env.Filled "REDIS_CLUSTER_NODES"

/-- The topology is a master under sentinels. -/
def SelectsSentinels (env : Environment) : Prop :=
  ¬ env.SelectsCluster ∧ env.Filled "REDIS_SENTINEL_MASTER"

/-- The topology is a single server. -/
def SelectsServer (env : Environment) : Prop :=
  ¬ env.SelectsCluster ∧ ¬ env.Filled "REDIS_SENTINEL_MASTER"

/-- The variable for a URL is set to a text that is not empty. -/
def NamesUrl (env : Environment) (url : String) : Prop :=
  env.get? "REDIS_URL" = some url ∧ url ≠ ""

/-- What the URL of the environment says; nothing at all if there is none. -/
inductive UrlSays (env : Environment) : Url.Target → Prop
  | nothing (absent : ∀ url, ¬ env.NamesUrl url) : UrlSays env .silent
  | target {url : String} {t : Url.Target} (names : env.NamesUrl url)
      (reads : Url.Target.ofUrl url = .ok t) : UrlSays env t

/-- TLS is on: by its own variable, and where that is not set, by the URL of a single server. -/
def AsksForTls (env : Environment) : Prop :=
  (∃ text, env.get? "REDIS_SSL" = some text ∧ YesInAnyCase text) ∨
    env.get? "REDIS_SSL" = none ∧ env.SelectsServer ∧
      ∃ url, env.get? "REDIS_URL" = some url ∧ "rediss://".toList <+: url.toList

theorem holds_iff {env : Environment} {key : String} :
    env.holds key = true ↔ env.Filled key := by
  unfold holds Filled
  cases env.get? key <;> simp

end Environment

/-- A setting of a single server. -/
inductive ServerSetting
  | host | port | password | database

namespace ServerSetting

/-- The attribute of a deployment that a setting is read as. -/
def name : ServerSetting → String
  | .host => "host_name"
  | .port => "port"
  | .password => "password"
  | .database => "database"

/-- What a URL says of a setting; `null` if it is silent about it. -/
def saidBy (t : Url.Target) : ServerSetting → Value
  | .host => Standalone.optionalText t.host
  | .port => t.port
  | .password => Standalone.optionalText t.password
  | .database =>
    match t.database with
    | some n => .int n
    | none => .null

end ServerSetting

namespace Environment

/-- What the variable of a setting gives for it, or the default where the variable gives nothing. -/
inductive FallsBack (env : Environment) : ServerSetting → Value → Prop
  | hostSet {text : String} (set : env.get? "REDIS_HOST" = some text) :
      FallsBack env .host (.text text)
  | hostUnset (unset : env.get? "REDIS_HOST" = none) : FallsBack env .host (.text "localhost")
  | portSet {n : Int} (writes : env.Writes "REDIS_PORT" n) (nonzero : n ≠ 0) :
      FallsBack env .port (.int n)
  | portUnusable (unusable : ∀ n, env.Writes "REDIS_PORT" n → n = 0) :
      FallsBack env .port (.int 6379)
  | passwordSet {text : String} (set : env.get? "REDIS_PASSWORD" = some text) :
      FallsBack env .password (.text text)
  | passwordUnset (unset : env.get? "REDIS_PASSWORD" = none) : FallsBack env .password .null
  | databaseSet {n : Int} (writes : env.Writes "REDIS_DB" n) (nonneg : 0 ≤ n) :
      FallsBack env .database (.int n)
  | databaseUnusable (unusable : ∀ n, env.Writes "REDIS_DB" n → n < 0) :
      FallsBack env .database (.int 0)

/-- What a setting is: what the URL says, or if it is silent about it, what is left. -/
inductive Gives (env : Environment) (t : Url.Target) (s : ServerSetting) : Value → Prop
  | byUrl (told : s.saidBy t ≠ .null) : Gives env t s (s.saidBy t)
  | fallsBack {x : Value} (silent : s.saidBy t = .null) (left : env.FallsBack s x) : Gives env t s x

/-- Two environments differ in the variable for a URL at most. -/
def SameButUrl (env other : Environment) : Prop :=
  ∀ key, key ≠ "REDIS_URL" → other.get? key = env.get? key

end Environment

/-! ## 3. What is made from it -/

namespace Deployment

/-- Make the deployment that the environment describes. -/
def fromEnvironment : Act Item := Construct.static .deployment "from_env" ⟨[], []⟩

/-- The deployment of a number reads as an environment selects. -/
structure Selected (env : Environment) (n : Nat) (v : World) : Prop where
  cluster : ∃ b, Attribute.read v (.deployment n) "is_cluster_aware" = .ok (.ofBool b) ∧
    (b = true ↔ env.SelectsCluster)
  sentinels : ∃ b, Attribute.read v (.deployment n) "is_sentinel_aware" = .ok (.ofBool b) ∧
    (b = true ↔ env.SelectsSentinels)
  server : env.SelectsServer → ∃ t, env.UrlSays t ∧ ∀ s : ServerSetting,
    ∃ x, env.Gives t s x ∧ Attribute.read v (.deployment n) s.name = .ok (.value x)
  tls : ∃ b, Attribute.read v (.deployment n) "use_ssl" = .ok (.ofBool b) ∧
    (b = true ↔ env.AsksForTls)

/-- What making a deployment from the environment does in a world. -/
structure Selection (w : World) : Prop where
  fails : ∀ e, (fromEnvironment w).1 = .error e ↔
    w.env.SelectsServer ∧ ∃ url, w.env.NamesUrl url ∧ Standalone.ofUrl url = .error e
  kept : ∀ e, (fromEnvironment w).1 = .error e → (fromEnvironment w).2 = w
  makes : ∀ x, (fromEnvironment w).1 = .ok x → x = .deployment w.deployments.size ∧
    (fromEnvironment w).2.env = w.env ∧
    Selected w.env w.deployments.size (fromEnvironment w).2
  /-- A URL has no part in a topology that is no single server. -/
  url : ¬ w.env.SelectsServer → ∀ env, w.env.SameButUrl env →
    (fromEnvironment { w with env := env }).1 = (fromEnvironment w).1 ∧
      ∀ name, Attribute.read (fromEnvironment { w with env := env }).2
        (.deployment w.deployments.size) name =
          Attribute.read (fromEnvironment w).2 (.deployment w.deployments.size) name

end Deployment

/-! ## 4. The topology -/

namespace Environment

variable {env other : Environment}

theorem topology_cluster (h : env.SelectsCluster) :
    Topology.ofEnvironment env = .ok (.cluster .unset) := by
  unfold Topology.ofEnvironment
  rw [if_pos (holds_iff.mpr h)]

theorem topology_sentinels (h : env.SelectsSentinels) :
    Topology.ofEnvironment env = .ok (.sentinels .unset) := by
  unfold Topology.ofEnvironment
  rw [if_neg (mt holds_iff.mp h.1), if_pos (holds_iff.mpr h.2)]

theorem topology_url {url : String} (h : env.SelectsServer) (names : env.NamesUrl url) :
    Topology.ofEnvironment env = (Standalone.ofUrl url).map .standalone := by
  unfold Topology.ofEnvironment
  rw [if_neg (mt holds_iff.mp h.1), if_neg (mt holds_iff.mp h.2), names.1]
  simp only [if_neg names.2]
  cases Standalone.ofUrl url <;> rfl

theorem topology_noUrl (h : env.SelectsServer) (absent : ∀ url, ¬ env.NamesUrl url) :
    Topology.ofEnvironment env = .ok (.standalone .unset) := by
  unfold Topology.ofEnvironment
  rw [if_neg (mt holds_iff.mp h.1), if_neg (mt holds_iff.mp h.2)]
  cases hurl : env.get? "REDIS_URL" with
  | none => rfl
  | some url =>
    have hempty : url = "" := Decidable.byContradiction fun hne => absent url ⟨hurl, hne⟩
    simp [hempty]

/-- What an environment makes of its topology. -/
inductive Selects (env : Environment) : Except Failure Topology → Prop
  | cluster (selects : env.SelectsCluster) : Selects env (.ok (.cluster .unset))
  | sentinels (selects : env.SelectsSentinels) : Selects env (.ok (.sentinels .unset))
  | server {t : Url.Target} {s : Standalone} (selects : env.SelectsServer) (told : env.UrlSays t)
      (holds : s.Holds t) : Selects env (.ok (.standalone s))
  | refused {url : String} {e : Failure} (selects : env.SelectsServer) (names : env.NamesUrl url)
      (refuses : Standalone.ofUrl url = .error e) : Selects env (.error e)

theorem selects_topology (env : Environment) : env.Selects (Topology.ofEnvironment env) := by
  by_cases hcluster : env.SelectsCluster
  · rw [topology_cluster hcluster]
    exact .cluster hcluster
  by_cases hmaster : env.Filled "REDIS_SENTINEL_MASTER"
  · rw [topology_sentinels ⟨hcluster, hmaster⟩]
    exact .sentinels ⟨hcluster, hmaster⟩
  have hserver : env.SelectsServer := ⟨hcluster, hmaster⟩
  by_cases hurl : ∃ url, env.NamesUrl url
  · obtain ⟨url, names⟩ := hurl
    rw [topology_url hserver names]
    cases hs : Standalone.ofUrl url with
    | error e => exact .refused hserver names hs
    | ok s =>
      obtain ⟨t, ht, hholds⟩ := Standalone.holds_of_ofUrl hs
      exact .server hserver (.target names ht) hholds
  · rw [not_exists] at hurl
    rw [topology_noUrl hserver hurl]
    exact .server hserver (.nothing hurl) ⟨rfl, rfl, rfl, rfl, rfl⟩

/-- Only the URL of a single server can be refused. -/
theorem topology_error_iff {e : Failure} : Topology.ofEnvironment env = .error e ↔
    env.SelectsServer ∧ ∃ url, env.NamesUrl url ∧ Standalone.ofUrl url = .error e := by
  constructor
  · intro h
    have hselects := env.selects_topology
    rw [h] at hselects
    cases hselects with
    | refused selects names refuses => exact ⟨selects, _, names, refuses⟩
  · rintro ⟨selects, url, names, refuses⟩
    rw [topology_url selects names, refuses]
    rfl

theorem filled_sameButUrl (h : env.SameButUrl other) {key : String} (hkey : key ≠ "REDIS_URL") :
    other.Filled key ↔ env.Filled key := by
  unfold Filled
  rw [h key hkey]

/-- Without a single server the URL has no part in the topology. -/
theorem topology_sameButUrl (hserver : ¬ env.SelectsServer) (h : env.SameButUrl other) :
    Topology.ofEnvironment other = Topology.ofEnvironment env := by
  have hcluster : other.SelectsCluster ↔ env.SelectsCluster := filled_sameButUrl h (by decide)
  have hmaster : other.Filled "REDIS_SENTINEL_MASTER" ↔ env.Filled "REDIS_SENTINEL_MASTER" :=
    filled_sameButUrl h (by decide)
  by_cases hc : env.SelectsCluster
  · rw [topology_cluster hc, topology_cluster (hcluster.mpr hc)]
  · have hm : env.Filled "REDIS_SENTINEL_MASTER" :=
      Classical.byContradiction fun hm => hserver ⟨hc, hm⟩
    rw [topology_sentinels ⟨hc, hm⟩, topology_sentinels ⟨mt hcluster.mp hc, hmaster.mpr hm⟩]

/-! ## 5. TLS -/

/-- The URL asks for TLS by what it begins with. -/
theorem UrlSays.secure_iff {t : Url.Target} (h : env.UrlSays t) :
    t.transport = .secure ↔
      ∃ url, env.get? "REDIS_URL" = some url ∧ "rediss://".toList <+: url.toList := by
  cases h with
  | nothing absent =>
    constructor
    · intro h
      cases h
    · rintro ⟨url, hset, hlead⟩
      have hne : url ≠ "" := by
        rintro rfl
        simp at hlead
      exact absurd ⟨hset, hne⟩ (absent url)
  | target names reads =>
    rw [Url.Target.transport_secure_iff reads, names.1]
    simp [Url.Scheme.lead]

end Environment

namespace Deployment

variable {env : Environment}

/-- The TLS flag that a deployment from the environment starts with. -/
def tlsFlag (env : Environment) (t : Topology) : Value :=
  if asksForTls env t then .bool true else .null

/-- A topology asks for TLS where its variable is not set and a URL asks for it. -/
theorem asksForTls_iff {t : Topology} (h : Topology.ofEnvironment env = .ok t) :
    asksForTls env t = true ↔ env.get? "REDIS_SSL" = none ∧ env.SelectsServer ∧
      ∃ url, env.get? "REDIS_URL" = some url ∧ "rediss://".toList <+: url.toList := by
  have hselects := env.selects_topology
  rw [h] at hselects
  cases hselects with
  | cluster selects => simp [asksForTls, Environment.SelectsServer, selects]
  | sentinels selects => simp [asksForTls, Environment.SelectsServer, selects.2]
  | server selects told holds =>
    rw [← told.secure_iff]
    simp [asksForTls, holds.tls, Value.truthy, selects, and_comm]

/-- Live settings that start with this flag read as the environment asks. -/
theorem useSslIn_iff {t : Topology} {s : LiveSettings} (h : Topology.ofEnvironment env = .ok t)
    (flag : s.useSsl = tlsFlag env t) :
    ∃ b, s.useSslIn env = .bool b ∧ (b = true ↔ env.AsksForTls) := by
  have hasks := asksForTls_iff h
  unfold LiveSettings.useSslIn Environment.flag
  rw [flag, tlsFlag]
  cases hset : env.get? "REDIS_SSL" with
  | some text =>
    -- the variable decides, and the URL has no say
    have hno : ¬ asksForTls env t = true := by simp [hasks, hset]
    refine ⟨isYes text, by rw [if_neg hno]; rfl, ?_⟩
    simp [Environment.AsksForTls, hset, isYes_iff]
  | none =>
    refine ⟨asksForTls env t, by cases asksForTls env t <;> rfl, ?_⟩
    simp [Environment.AsksForTls, hset, hasks]

end Deployment

/-! ## 6. The settings of a server -/

namespace Environment

variable {env : Environment} {t : Url.Target} {s : Standalone}

theorem gives_orElse {setting : ServerSetting} {x : Value} (left : env.FallsBack setting x) :
    env.Gives t setting ((setting.saidBy t).orElse x) := by
  by_cases hnull : setting.saidBy t = .null
  · rw [hnull]
    exact .fallsBack hnull left
  · rw [Value.orElse_of_ne_null hnull]
    exact .byUrl hnull

theorem fallsBack_host (env : Environment) :
    env.FallsBack .host (.text ((env.get? "REDIS_HOST").getD Standalone.defaultHost)) := by
  cases hset : env.get? "REDIS_HOST" with
  | some text => exact .hostSet hset
  | none => exact .hostUnset hset

theorem fallsBack_port (env : Environment) :
    env.FallsBack .port (.int (Standalone.environmentPort env)) := by
  unfold Standalone.environmentPort
  cases hn : env.integer? "REDIS_PORT" with
  | none =>
    exact .portUnusable fun n hwrites => absurd hwrites (integer?_eq_none_iff.mp hn n)
  | some n =>
    have hwrites := integer?_eq_some_iff.mp hn
    by_cases hzero : n = 0
    · simp only [if_pos hzero]
      exact .portUnusable fun m hm => (hm.unique hwrites).trans hzero
    · simp only [if_neg hzero]
      exact .portSet hwrites hzero

theorem fallsBack_database (env : Environment) :
    env.FallsBack .database (.int ((env.integer? "REDIS_DB").getD 0).toNat) := by
  cases hn : env.integer? "REDIS_DB" with
  | none =>
    exact .databaseUnusable fun n hwrites => absurd hwrites (integer?_eq_none_iff.mp hn n)
  | some n =>
    have hwrites := integer?_eq_some_iff.mp hn
    by_cases hneg : n < 0
    · have hzero : n.toNat = 0 := by omega
      rw [Option.getD_some, hzero]
      exact .databaseUnusable fun m hm => hm.unique hwrites ▸ hneg
    · have hnat : (n.toNat : Int) = n := by omega
      rw [Option.getD_some, hnat]
      exact .databaseSet hwrites (by omega)

theorem gives_host (h : s.Holds t) : env.Gives t .host (s.hostIn env) := by
  rw [Standalone.hostIn, h.host]
  exact gives_orElse (fallsBack_host env)

theorem gives_port (h : s.Holds t) : env.Gives t .port (s.portIn env) := by
  rw [Standalone.portIn, h.port]
  exact gives_orElse (fallsBack_port env)

theorem gives_password (h : s.Holds t) : env.Gives t .password (s.credentials.passwordIn env) := by
  rw [Credentials.passwordIn, h.password]
  refine gives_orElse ?_
  cases hset : env.get? "REDIS_PASSWORD" with
  | some text => exact .passwordSet hset
  | none => exact .passwordUnset hset

theorem gives_database (h : s.Holds t) :
    env.Gives t .database (.int (s.credentials.databaseIn env)) := by
  have hread : Value.int (s.credentials.databaseIn env) =
      (ServerSetting.database.saidBy t).orElse
        (.int ((env.integer? "REDIS_DB").getD 0).toNat) := by
    rw [ServerSetting.saidBy, Credentials.databaseIn, ← h.database]
    cases s.credentials.database <;> rfl
  rw [hread]
  exact gives_orElse (fallsBack_database env)

end Environment

/-! ## 7. Each setting reads a variable of its own -/

section

variable {env other : Environment}

theorem Environment.integer?_congr {key : String} (h : other.get? key = env.get? key) :
    other.integer? key = env.integer? key := by
  rw [integer?, integer?, h]

theorem Standalone.hostIn_congr (h : other.get? "REDIS_HOST" = env.get? "REDIS_HOST")
    (s : Standalone) : s.hostIn other = s.hostIn env := by
  rw [hostIn, hostIn, h]

theorem Standalone.environmentPort_congr (h : other.get? "REDIS_PORT" = env.get? "REDIS_PORT") :
    environmentPort other = environmentPort env := by
  rw [environmentPort, environmentPort, Environment.integer?_congr h]

theorem Standalone.portIn_congr (h : other.get? "REDIS_PORT" = env.get? "REDIS_PORT")
    (s : Standalone) : s.portIn other = s.portIn env := by
  rw [portIn, portIn, environmentPort_congr h]

theorem Credentials.passwordIn_congr (h : other.get? "REDIS_PASSWORD" = env.get? "REDIS_PASSWORD")
    (c : Credentials) : c.passwordIn other = c.passwordIn env := by
  rw [passwordIn, passwordIn, h]

theorem Credentials.databaseIn_congr (h : other.get? "REDIS_DB" = env.get? "REDIS_DB")
    (c : Credentials) : c.databaseIn other = c.databaseIn env := by
  rw [databaseIn, databaseIn, Environment.integer?_congr h]

theorem LiveSettings.useSslIn_congr (h : other.get? "REDIS_SSL" = env.get? "REDIS_SSL")
    (s : LiveSettings) : s.useSslIn other = s.useSslIn env := by
  rw [useSslIn, useSslIn, Environment.flag, Environment.flag, h]

theorem LiveSettings.verifyPeerIn_congr
    (h : other.get? "REDIS_VERIFY_PEER" = env.get? "REDIS_VERIFY_PEER") (s : LiveSettings) :
    s.verifyPeerIn other = s.verifyPeerIn env := by
  rw [verifyPeerIn, verifyPeerIn, Environment.flag, Environment.flag, h]

theorem LiveSettings.startTlsIn_congr
    (h : other.get? "REDIS_START_TLS" = env.get? "REDIS_START_TLS") (s : LiveSettings) :
    s.startTlsIn other = s.startTlsIn env := by
  rw [startTlsIn, startTlsIn, Environment.flag, Environment.flag, h]

theorem LiveSettings.timeoutIn_congr (h : other.get? "REDIS_TIMEOUT" = env.get? "REDIS_TIMEOUT")
    (s : LiveSettings) : s.timeoutIn other = s.timeoutIn env := by
  rw [timeoutIn, timeoutIn, environmentTimeout, environmentTimeout, Environment.integer?_congr h]

theorem LiveSettings.shutdownTimeoutIn_congr
    (h : other.get? "REDIS_SHUTDOWN_TIMEOUT" = env.get? "REDIS_SHUTDOWN_TIMEOUT")
    (s : LiveSettings) : s.shutdownTimeoutIn other = s.shutdownTimeoutIn env := by
  rw [shutdownTimeoutIn, shutdownTimeoutIn, environmentTimeout, environmentTimeout,
    Environment.integer?_congr h]

variable {v : World}

/-- None of the settings of a client is the one for a URL. -/
theorem SettingsRef.alike_sameButUrl (h : v.env.SameButUrl env) (ref : SettingsRef) :
    ref.Alike ref v { v with env := env } := by
  cases ref with
  | fixed s => exact SettingsRef.alike_fixed s _ _
  | live n =>
    constructor
    case useSsl => exact (v.live.get n).useSslIn_congr (h _ (by decide))
    case verifyPeer => exact (v.live.get n).verifyPeerIn_congr (h _ (by decide))
    case startTls => exact (v.live.get n).startTlsIn_congr (h _ (by decide))
    case options => rfl
    case resources => rfl
    case timeout =>
      intro name
      cases name with
      | command => exact (v.live.get n).timeoutIn_congr (h _ (by decide))
      | shutdown => exact (v.live.get n).shutdownTimeoutIn_congr (h _ (by decide))

namespace Deployment

/-- No attribute of a deployment reads the variable for a URL. -/
theorem read_sameButUrl (h : v.env.SameButUrl env) (n : Nat) (name : String) :
    Attribute.read { v with env := env } (.deployment n) name =
      Attribute.read v (.deployment n) name := by
  have host (d : Deployment) : d.host { v with env := env } = d.host v :=
    Standalone.hostIn_congr (h _ (by decide)) _
  have port (d : Deployment) : d.port { v with env := env } = d.port v :=
    Standalone.portIn_congr (h _ (by decide)) _
  have password (ref : TopologyRef) : ref.password { v with env := env } = ref.password v := by
    cases ref <;> exact Credentials.passwordIn_congr (h _ (by decide)) _
  have database (ref : TopologyRef) : ref.database { v with env := env } = ref.database v := by
    cases ref <;> exact Credentials.databaseIn_congr (h _ (by decide)) _
  have settings := SettingsRef.alike_sameButUrl h
  have resources (ref : SettingsRef) :
      ref.resources { v with env := env } = ref.resources v := rfl
  unfold Attribute.read Attribute.find Attribute.ofDeployment
  simp only [host, port, password, database, (settings _).useSsl, (settings _).verifyPeer,
    (settings _).startTls, timeoutMillis, (settings _).timeout, resources, Item.lacks, Item.kind]

/-! ## 8. The deployment that is made -/

/-- Make a deployment with a topology and live settings in which only the TLS flag may be set. -/
def build (t : Topology) (useSsl : Value) : Act Nat := do
  let ref ← addTopology t
  let live ← addLive useSsl
  make (some ref) (.live live)

/-- A deployment has been built. -/
structure Builds (t : Topology) (useSsl : Value) (w v : World) : Prop where
  env : v.env = w.env
  topology : (v.deployments.get w.deployments.size).topologyIn v = t
  settings : (v.deployments.get w.deployments.size).settings = .live w.live.size
  flag : (v.live.get w.live.size).useSsl = useSsl

theorem build_answer (t : Topology) (useSsl : Value) (w : World) :
    (build t useSsl w).1 = .ok w.deployments.size := by
  cases t <;> rfl

theorem build_builds (t : Topology) (useSsl : Value) (w : World) :
    Builds t useSsl w (build t useSsl w).2 := by
  cases t <;> refine ⟨rfl, ?_, ?_, ?_⟩ <;>
    simp [build, make, addTopology, addLive, Act.share, bind, Act.andThen, topologyIn, fresh,
      Store.add]

/-- The environment is not looked at. -/
theorem build_env (t : Topology) (useSsl : Value) (w : World) (env : Environment) :
    build t useSsl { w with env := env } =
      ((build t useSsl w).1, { (build t useSsl w).2 with env := env }) := by
  cases t <;> rfl

theorem ofEnvironment_eq (w : World) : ofEnvironment w =
    match Topology.ofEnvironment w.env with
    | .error e => (.error e, w)
    | .ok t => build t (tlsFlag w.env t) w := by
  simp only [ofEnvironment, bind, Act.andThen, Act.world, Act.ofExcept]
  cases Topology.ofEnvironment w.env <;> rfl

/-- A session gives the deployment as an item. -/
theorem fromEnvironment_eq (w : World) : fromEnvironment w =
    ((ofEnvironment w).1.map Item.deployment, (ofEnvironment w).2) := by
  have hwrap : fromEnvironment w =
      Act.andThen ofEnvironment (fun n => Act.give (.deployment n)) w := rfl
  rw [hwrap, Act.andThen]
  rcases ofEnvironment w with ⟨_ | _, _⟩ <;> rfl

theorem fromEnvironment_of_error {w : World} {e : Failure}
    (h : Topology.ofEnvironment w.env = .error e) : fromEnvironment w = (.error e, w) := by
  rw [fromEnvironment_eq, ofEnvironment_eq, h]
  rfl

theorem fromEnvironment_of_ok {w : World} {t : Topology}
    (h : Topology.ofEnvironment w.env = .ok t) : fromEnvironment w =
      (.ok (.deployment w.deployments.size), (build t (tlsFlag w.env t) w).2) := by
  rw [fromEnvironment_eq, ofEnvironment_eq, h]
  simp only [build_answer]
  rfl

/-- Without a single server the URL has no part in what is made. -/
theorem fromEnvironment_sameButUrl {w : World} (hserver : ¬ w.env.SelectsServer)
    (h : w.env.SameButUrl env) : fromEnvironment { w with env := env } =
      ((fromEnvironment w).1, { (fromEnvironment w).2 with env := env }) := by
  have htopology := Environment.topology_sameButUrl hserver h
  cases ht : Topology.ofEnvironment w.env with
  | error e => exact absurd (Environment.topology_error_iff.mp ht).1 hserver
  | ok t =>
    have hflags : tlsFlag env t = tlsFlag w.env t := by
      unfold tlsFlag asksForTls
      cases t with
      | standalone s => rw [h "REDIS_SSL" (by decide)]
      | _ => rfl
    rw [fromEnvironment_of_ok ht, fromEnvironment_of_ok (htopology.trans ht), hflags, build_env]

/-- With a single server each setting reads as it is given. -/
theorem reads_server {n : Nat} {t : Url.Target} {s : Standalone} (hholds : s.Holds t)
    (htopology : (v.deployments.get n).topologyIn v = .standalone s) (setting : ServerSetting) :
    ∃ x, v.env.Gives t setting x ∧
      Attribute.read v (.deployment n) setting.name = .ok (.value x) := by
  have hserver : v.standalones.get (v.deployments.get n).standalone = s := by
    unfold topologyIn at htopology
    cases hrole : (v.deployments.get n).role <;> rw [hrole] at htopology
    case standalone => exact Topology.standalone.inj htopology
    all_goals cases htopology
  have hcredentials : v.credentialsOf (v.deployments.get n).topology = s.credentials := by
    rw [credentialsOf_topology, htopology, Topology.credentials]
  cases setting with
  | host =>
    refine ⟨_, Environment.gives_host hholds, ?_⟩
    rw [← hserver]
    rfl
  | port =>
    refine ⟨_, Environment.gives_port hholds, ?_⟩
    rw [← hserver]
    rfl
  | password =>
    refine ⟨_, Environment.gives_password hholds, ?_⟩
    rw [← hcredentials]
    rfl
  | database =>
    refine ⟨_, Environment.gives_database hholds, ?_⟩
    rw [← hcredentials]
    rfl

/-- What has been built from the topology of an environment reads as the environment selects. -/
theorem selected_of_builds {w : World} {t : Topology} (h : Topology.ofEnvironment w.env = .ok t)
    (hbuilds : Builds t (tlsFlag w.env t) w v) : Selected w.env w.deployments.size v := by
  have hselects := w.env.selects_topology
  rw [h] at hselects
  constructor
  case cluster =>
    refine ⟨_, rfl, ?_⟩
    rw [isCluster_eq _ v, hbuilds.topology]
    cases hselects with
    | cluster selects => simp [selects]
    | sentinels selects => simp [selects.1]
    | server selects => simp [selects.1]
  case sentinels =>
    refine ⟨_, rfl, ?_⟩
    rw [underSentinels_eq _ v, hbuilds.topology]
    cases hselects with
    | cluster selects => simp [Environment.SelectsSentinels, selects]
    | sentinels selects => simp [selects]
    | server selects => simp [Environment.SelectsSentinels, selects.2]
  case server =>
    intro hserver
    cases hselects with
    | cluster selects => exact absurd selects hserver.1
    | sentinels selects => exact absurd selects.2 hserver.2
    | server selects told holds =>
      refine ⟨_, told, fun setting => ?_⟩
      rw [← hbuilds.env]
      exact reads_server holds hbuilds.topology setting
  case tls =>
    obtain ⟨b, hb, hiff⟩ := useSslIn_iff h hbuilds.flag
    refine ⟨b, ?_, hiff⟩
    have hread : (v.deployments.get w.deployments.size).settings.useSsl v = .bool b := by
      rw [hbuilds.settings, SettingsRef.useSsl, hbuilds.env, hb]
    exact congrArg (fun x => Except.ok (Item.value x)) hread

end Deployment

end

end RedisLink
