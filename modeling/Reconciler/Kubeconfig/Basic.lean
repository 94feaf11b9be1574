/-!
Descriptions of clusters, users and contexts that join them.  Descriptions from several places are
merged, where the first one that says something about a name counts.
-/
namespace Reconciler

/-- Something with a name, which may be empty of content. -/
structure Named (α : Type) where
  name : String
  value : Option α

/-- How a cluster is reached. -/
structure Cluster where
  server : Option String := none
  insecure : Option Bool := none
  /-- The file with the certificates that are trusted. -/
  authority : Option String := none
  /-- The certificates that are trusted. -/
  authorityData : Option String := none
  proxyUrl : Option String := none
  tlsServerName : Option String := none

/-- Who somebody is for a cluster. -/
structure ClusterUser where
  username : Option String := none
  token : Option String := none
  impersonate : Option String := none
  /-- Whether a program that finds out who the user is has to know the cluster. -/
  needsCluster : Bool := false

/-- A user of a cluster, in a namespace. -/
structure ClusterContext where
  cluster : String
  user : Option String := none
  namespaceName : Option String := none

/-- What is known of clusters. -/
structure Kubeconfig where
  clusters : List (Named Cluster) := []
  users : List (Named ClusterUser) := []
  contexts : List (Named ClusterContext) := []
  currentContext : Option String := none
  kind : Option String := none
  apiVersion : Option String := none

/-- Why nothing is known of a cluster. -/
inductive KubeconfigError where
  | currentContextNotSet
  | kindMismatch
  | apiVersionMismatch
  | contextNotFound (name : String)
  | clusterNotFound (name : String)
  /-- There is no home directory. -/
  | noPath
  | read (path : String) (reason : String)
  | parse
  | malformed
  | noServer
  | malformedServer
  | malformedProxy
  | authority
  | certificates
deriving DecidableEq, Repr

/-- The text of an error. -/
def KubeconfigError.message : KubeconfigError → String
  | .currentContextNotSet => "failed to determine current context"
  | .kindMismatch => "kubeconfigs with mismatching kind cannot be merged"
  | .apiVersionMismatch => "kubeconfigs with mismatching api version cannot be merged"
  | .contextNotFound name => "failed to load current context: " ++ name
  | .clusterNotFound name => "failed to load the cluster of context: " ++ name
  | .noPath => "failed to find the path of kubeconfig"
  | .read path reason => "failed to read kubeconfig from '\"" ++ path ++ "\"': " ++ reason
  | .parse => "failed to parse kubeconfig YAML"
  | .malformed => "the structure of the parsed kubeconfig is invalid"
  | .noServer => "cluster url is missing on selected cluster"
  | .malformedServer => "failed to parse cluster url"
  | .malformedProxy => "failed to parse proxy url"
  | .authority => "failed to load certificate authority"
  | .certificates => "failed to parse PEM-encoded certificates"

/-- The text of an error, and that of what caused it. -/
def KubeconfigError.chain (error : KubeconfigError) : List String :=
  error.message ::
    match error with
    | .read _ reason => [reason]
    | _ => []

namespace Named

/-- The content of the first thing with a name. -/
def find? {α : Type} (things : List (Named α)) (name : String) : Option α :=
  (List.find? (fun thing => thing.name = name) things).bind (·.value)

/-- Add things whose names are new. -/
def merge {α : Type} (things others : List (Named α)) : List (Named α) :=
  things ++ others.filter fun other => things.all fun thing => thing.name ≠ other.name

end Named

namespace Kubeconfig

/-- Whether two texts contradict each other. -/
def conflicting (a b : Option String) : Bool :=
  a.isSome && b.isSome && a ≠ b

/-- Add what other descriptions say. -/
def merge (config other : Kubeconfig) : Except KubeconfigError Kubeconfig :=
  if conflicting config.kind other.kind then .error .kindMismatch
  else if conflicting config.apiVersion other.apiVersion then .error .apiVersionMismatch
  else .ok {
    clusters := Named.merge config.clusters other.clusters
    users := Named.merge config.users other.users
    contexts := Named.merge config.contexts other.contexts
    currentContext := config.currentContext <|> other.currentContext
    kind := config.kind <|> other.kind
    apiVersion := config.apiVersion <|> other.apiVersion }

end Kubeconfig

end Reconciler
