/-
RedisLink.Topology — the topology that the environment selects.

A deployment is a single server, a master under sentinels, or a cluster. Nodes
of a cluster in the environment come before the name of a master, and that
comes before a URL; without any of them there is a single server with nothing
set.
-/
import RedisLink.Topology.Cluster
import RedisLink.Topology.Sentinels
import RedisLink.Topology.Standalone

namespace RedisLink

/-- The topology of a deployment. -/
inductive Topology
  | standalone (s : Standalone)
  | sentinels (s : Sentinels)
  | cluster (c : Cluster)

/-- The topology that the environment selects. -/
def Topology.ofEnvironment (env : Environment) : Except Failure Topology :=
  if env.holds "REDIS_CLUSTER_NODES" then .ok (.cluster .unset)
  else if env.holds "REDIS_SENTINEL_MASTER" then .ok (.sentinels .unset)
  else
    match env.get? "REDIS_URL" with
    | some url =>
      if url = "" then .ok (.standalone .unset)
      else
        match Standalone.ofUrl url with
        | .error e => .error e
        | .ok s => .ok (.standalone s)
    | none => .ok (.standalone .unset)

end RedisLink
