import Reconciler.Http.Uri
import Reconciler.Json.Lenient
import Reconciler.Kubeconfig.Reader
import Reconciler.Machine.Path
import Reconciler.Text.Pem
import Reconciler.Text.Utf8
/-!
Connections to clusters.  A file that is asked for always counts; otherwise those that the
surroundings list do, and at last the one in the home directory.
-/
namespace Reconciler

/-- How a cluster is talked to. -/
structure Connection where
  url : Http.Uri
  namespaceName : String
  insecure : Bool
  tlsServerName : Option String
  proxyUrl : Option Http.Uri
  user : ClusterUser

/-- The JSON form of a connection, without what is secret. -/
def Connection.toJson (connection : Connection) : Json :=
  .ofFields [("url", .str connection.url.text), ("namespace", .str connection.namespaceName),
    ("insecure", .bool connection.insecure), ("tlsServerName", .optional connection.tlsServerName),
    ("proxyUrl", .optional (connection.proxyUrl.map (·.text))),
    ("username", .optional connection.user.username),
    ("hasToken", .bool connection.user.token.isSome),
    ("impersonate", .optional connection.user.impersonate)]

/-- Which connection is asked for. -/
structure ConnectionOptions where
  /-- The context to use instead of the current one. -/
  context : Option String := none
  /-- The file to use. -/
  kubeconfig : Option String := none
deriving DecidableEq, Repr

/-- Why there is no connection. -/
inductive ConnectionError where
  /-- The file that was asked for cannot be read. -/
  | reading (path : String) (cause : KubeconfigError)
  /-- The file that was asked for describes no connection. -/
  | invalid (cause : KubeconfigError)
  /-- The other places describe no connection. -/
  | loading (cause : KubeconfigError)
deriving DecidableEq, Repr

namespace ConnectionError

/-- The text of an error. -/
def message : ConnectionError → String
  | .reading path _ => "failed to read kubeconfig " ++ path
  | .invalid _ => "invalid kubeconfig"
  | .loading _ => "failed to load kubeconfig"

/-- What caused an error. -/
def cause : ConnectionError → KubeconfigError
  | .reading _ cause | .invalid cause | .loading cause => cause

end ConnectionError

/-- What a program sees of its surroundings. -/
structure Surroundings (m : Type → Type) where
  /-- The content of the file with a path. -/
  read : String → m (Except SystemError (List UInt8))
  /-- The paths that the surroundings list, with colons between them. -/
  listed : Option String := none
  /-- The home directory. -/
  home : Option String := none

namespace Surroundings

variable {m : Type → Type} [Monad m] (surroundings : Surroundings m)

/-- Read the description in a file. -/
def kubeconfig (path : String) : ExceptT KubeconfigError m Kubeconfig := do
  let octets ← match ← ExceptT.lift (surroundings.read path) with
    | .ok octets => pure octets
    | .error error => throw (.read path error.message)
  let some text := Text.Utf8.decode? octets
    | throw (.read path "invalid utf-8 sequence")
  let config ← ExceptT.mk (pure (Kubeconfig.read text))
  let directory := Path.parent path
  return { config with
    clusters := config.clusters.map fun cluster => { cluster with
      value := cluster.value.map fun content => { content with
        authority := content.authority.map (Path.join directory) } } }

/-- Check the certificates that are trusted for a cluster. -/
def checkAuthority (cluster : Cluster) : ExceptT KubeconfigError m Unit := do
  let octets ← match cluster.authorityData, cluster.authority with
    | some data, _ =>
      match Text.Base64.decode? data.toList with
      | some octets => pure octets
      | none => throw .authority
    | none, some path =>
      match ← ExceptT.lift (surroundings.read path) with
      | .ok octets => pure octets
      | .error _ => throw .authority
    | none, none => pure []
  if (Text.Pem.blocks? (Text.Utf8.decodeLossy octets)).isNone then throw .certificates

/-- The connection that a context describes, or the current one. -/
def connect (config : Kubeconfig) (context : Option String) :
    ExceptT KubeconfigError m Connection := do
  let some name := context <|> config.currentContext | throw .currentContextNotSet
  let some context := Named.find? config.contexts name | throw (.contextNotFound name)
  let some cluster := Named.find? config.clusters context.cluster
    | throw (.clusterNotFound context.cluster)
  let user := (context.user.bind (Named.find? config.users)).getD {}
  if user.needsCluster then surroundings.checkAuthority cluster
  let some server := cluster.server | throw .noServer
  let some url := Http.Uri.parse? server | throw .malformedServer
  surroundings.checkAuthority cluster
  let proxyUrl ← match cluster.proxyUrl.filter (!·.isEmpty) with
    | none => pure none
    | some proxy =>
      match Http.Uri.parse? proxy with
      | some proxy => pure (some proxy)
      | none => throw .malformedProxy
  return {
    url
    namespaceName := context.namespaceName.getD "default"
    insecure := cluster.insecure.getD false
    tlsServerName := cluster.tlsServerName
    proxyUrl
    user }

/-- The description that counts if no file is asked for. -/
def defaultKubeconfig : ExceptT KubeconfigError m Kubeconfig := do
  match ((surroundings.listed.getD "").splitOn ":").filter (!·.isEmpty) with
  | [] =>
    match surroundings.home with
    | none => throw .noPath
    | some home => surroundings.kubeconfig (Path.join home ".kube/config")
  | paths =>
    paths.foldlM (fun config path => do
      ExceptT.mk (pure (config.merge (← surroundings.kubeconfig path)))) {}

/-- Find the connection that is asked for. -/
def connection (options : ConnectionOptions) : ExceptT ConnectionError m Connection := do
  match options.kubeconfig with
  | some path =>
    let config ← (surroundings.kubeconfig path).adapt (.reading path)
    (surroundings.connect config options.context).adapt .invalid
  | none =>
    ExceptT.adapt .loading do
      surroundings.connect (← surroundings.defaultKubeconfig) options.context

end Surroundings

end Reconciler
