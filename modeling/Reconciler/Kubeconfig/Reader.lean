import Reconciler.Kubeconfig.Basic
import Reconciler.Yaml.Value.Fields
import Reconciler.Yaml.Value.Reader
/-!
Reading descriptions of clusters from YAML.  Every document of a text is a description; empty ones
are passed over, and the others are merged.
-/
namespace Reconciler

open Yaml (Value)

namespace Kubeconfig

/-- An extension, of which only the form is checked. -/
def extension? (value : Value) : Option Unit := do
  let fields ← value.asFields? ["name", "extension"]
  discard (Value.required? Value.asText? fields "name")
  guard (← Value.required? some fields "extension").isJsonLike

/-- Extensions, of which only the form is checked. -/
def extensions? (fields : List (String × Value)) : Option Unit := do
  discard (Value.optional? (Value.asList? extension?) fields "extensions")

/-- Fields that may hold texts, of which only the form is checked. -/
def texts? (fields : List (String × Value)) (names : List String) : Option Unit :=
  names.forM fun name => discard (Value.optional? Value.asText? fields name)

/-- The name of something, with its content. -/
def named? {α : Type} (content : String) (decode : Value → Option α) (value : Value) :
    Option (Named α) := do
  let fields ← value.asFields? ["name", content]
  return {
    name := ← Value.required? Value.asText? fields "name"
    value := ← Value.optional? decode fields content }

/-- A cluster. -/
def cluster? (value : Value) : Option Cluster := do
  let fields ← value.asFields? ["server", "insecure-skip-tls-verify", "certificate-authority",
    "certificate-authority-data", "proxy-url", "disable-compression", "tls-server-name",
    "extensions"]
  discard (Value.optional? Value.asBool? fields "disable-compression")
  extensions? fields
  return {
    server := ← Value.optional? Value.asText? fields "server"
    insecure := ← Value.optional? Value.asBool? fields "insecure-skip-tls-verify"
    authority := ← Value.optional? Value.asText? fields "certificate-authority"
    authorityData := ← Value.optional? Value.asText? fields "certificate-authority-data"
    proxyUrl := ← Value.optional? Value.asText? fields "proxy-url"
    tlsServerName := ← Value.optional? Value.asText? fields "tls-server-name" }

/-- A way to find out who a user is, of which only the form is checked. -/
def provider? (value : Value) : Option Unit := do
  let fields ← value.asFields? ["name", "config"]
  discard (Value.required? Value.asText? fields "name")
  if (fields.find? (·.1 = "config")).isSome then
    discard (Value.required? Value.asTextMap? fields "config")

/-- How a program is used: one of three words. -/
def interactiveMode? (value : Value) : Option Unit :=
  let names := ["Never", "IfAvailable", "Always"]
  match value with
  | .str name | .tagged name .null => guard (name ∈ names)
  | _ => none

/-- A program that finds out who a user is: whether it has to know the cluster. -/
def program? (value : Value) : Option Bool := do
  let fields ← value.asFields? ["apiVersion", "command", "args", "env", "interactiveMode",
    "provideClusterInfo"]
  texts? fields ["apiVersion", "command"]
  discard (Value.optional? (Value.asList? Value.asText?) fields "args")
  discard (Value.optional? (Value.asList? Value.asTextMap?) fields "env")
  discard (Value.optional? interactiveMode? fields "interactiveMode")
  if (fields.find? (·.1 = "provideClusterInfo")).isSome then
    Value.required? Value.asBool? fields "provideClusterInfo"
  else return false

/-- A user. -/
def user? (value : Value) : Option ClusterUser := do
  let fields ← value.asFields? ["username", "password", "token", "tokenFile",
    "client-certificate", "client-certificate-data", "client-key", "client-key-data", "as",
    "as-groups", "auth-provider", "exec"]
  texts? fields ["password", "tokenFile", "client-certificate", "client-certificate-data",
    "client-key", "client-key-data"]
  discard (Value.optional? (Value.asList? Value.asText?) fields "as-groups")
  discard (Value.optional? provider? fields "auth-provider")
  return {
    username := ← Value.optional? Value.asText? fields "username"
    token := ← Value.optional? Value.asText? fields "token"
    impersonate := ← Value.optional? Value.asText? fields "as"
    needsCluster := (← Value.optional? program? fields "exec").getD false }

/-- A context. -/
def context? (value : Value) : Option ClusterContext := do
  let fields ← value.asFields? ["cluster", "user", "namespace", "extensions"]
  extensions? fields
  return {
    cluster := ← Value.required? Value.asText? fields "cluster"
    user := ← Value.optional? Value.asText? fields "user"
    namespaceName := ← Value.optional? Value.asText? fields "namespace" }

/-- Preferences, of which only the form is checked. -/
def preferences? (value : Value) : Option Unit := do
  let fields ← value.asFields? ["colors", "extensions"]
  discard (Value.optional? Value.asBool? fields "colors")
  extensions? fields

/-- The description that a document holds. -/
def ofValue? (value : Value) : Option Kubeconfig := do
  let fields ← value.asFields? ["preferences", "clusters", "users", "contexts",
    "current-context", "extensions", "kind", "apiVersion"]
  discard (Value.optional? preferences? fields "preferences")
  extensions? fields
  let list {α : Type} (decode : Value → Option α) (name : String) : Option (List α) := do
    return (← Value.optional? (Value.asList? decode) fields name).getD []
  return {
    clusters := ← list (named? "cluster" cluster?) "clusters"
    users := ← list (named? "user" user?) "users"
    contexts := ← list (named? "context" context?) "contexts"
    currentContext := ← Value.optional? Value.asText? fields "current-context"
    kind := ← Value.optional? Value.asText? fields "kind"
    apiVersion := ← Value.optional? Value.asText? fields "apiVersion" }

/-- Read the documents of a text up to the first malformed one. -/
def ofDocuments :
    List (Except Yaml.Error Value) → Except KubeconfigError (List Kubeconfig)
  | [] => .ok []
  | .error _ :: _ => .error .parse
  | .ok .null :: documents => ofDocuments documents
  | .ok document :: documents =>
    match ofValue? document with
    | none => .error .malformed
    | some config => (ofDocuments documents).map (config :: ·)

/-- Merge descriptions, the first of which counts most. -/
def mergeAll : List Kubeconfig → Except KubeconfigError Kubeconfig
  | [] => .ok {}
  | config :: configs => configs.foldlM merge config

/-- Read a text. -/
def read (text : String) : Except KubeconfigError Kubeconfig := do
  mergeAll (← ofDocuments (Value.documents text))

end Kubeconfig

end Reconciler
