import CdnPublish.LocalFault
import CdnPublish.FileTree
import CdnPublish.Narrated
import CdnPublish.Text.Split

/-!
# Settings

What one run needs to know: where the gateway is, how to prove who is calling, and how to wait. The
values come from the overrides of this run, else from the entry of the chosen environment in the
configuration, else from defaults.
-/

namespace CdnPublish

/-- The entry of one environment. -/
structure Environment where
  gwUrl : Option String
  uploadUrl : Option String
  cert : Option LocalPath
  key : Option LocalPath
  caBundle : Option LocalPath
  deriving DecidableEq, Repr

/-- An entry that says nothing. -/
def Environment.none : Environment :=
  ⟨Option.none, Option.none, Option.none, Option.none, Option.none⟩

/-- What is configured for all runs; an environment is named at most once. -/
structure Config where
  defaultEnv : Option String
  pollIntervalSecs : Option Nat
  fetchRetries : Option Nat
  timeoutSecs : Option Nat
  environments : List (String × Environment)
  deriving DecidableEq, Repr

/-- What is given for this run. -/
structure Overrides where
  env : Option String
  gwUrl : Option String
  uploadUrl : Option String
  cert : Option LocalPath
  key : Option LocalPath
  caBundle : Option LocalPath
  pollIntervalSecs : Option Nat
  deriving DecidableEq, Repr

/-- What a run works with; the times are in seconds. -/
structure Settings where
  env : String
  gwUrl : String
  uploadUrl : String
  cert : Option LocalPath
  key : Option LocalPath
  caBundle : Option LocalPath
  pollInterval : Nat
  fetchRetries : Nat
  timeout : Nat
  deriving DecidableEq, Repr

namespace Config

/-- The configuration of someone who has configured nothing. -/
def empty : Config :=
  ⟨none, none, none, none, []⟩

/-- The environment that is worked on unless another one is named. -/
def defaultEnvironment : String := "live"

/-- The seconds between two looks at a task. -/
def defaultPollInterval : Nat := 5

/-- The transient failures in a row that are put up with. -/
def defaultFetchRetries : Nat := 3

/-- The seconds after which a request has failed. -/
def defaultTimeout : Nat := 120

/-- Where the configuration of a user is. -/
def pathAt (home : LocalPath) : LocalPath :=
  (home.join (.ofString ".exodus")).join (.ofString "config.yaml")

/-- The entry of an environment. -/
def entry (config : Config) (env : String) : Environment :=
  (config.environments.lookup env).getD .none

/-- A URL without slashes at its end. -/
def trimUrl (url : String) : String :=
  String.ofList (Text.trimEnd '/' url.toList)

/-- The certificate and the key that a user has in the usual place, if both are there. -/
def defaultCredentials (tree : FileTree) (home : LocalPath) (user : String) :
    Option (LocalPath × LocalPath) :=
  let directory := home.join (.ofString "certs")
  let cert := directory.join (.ofString (user ++ ".crt"))
  let key := directory.join (.ofString (user ++ ".key"))
  if tree.hasFile cert && tree.hasFile key then some (cert, key) else none

/-- The certificate and the key to use; those in the usual place serve when neither is given. -/
def credentials (tree : FileTree) (home : LocalPath) (user : Option String)
    (cert key : Option LocalPath) :
    Narrated LocalFault (Option LocalPath × Option LocalPath) :=
  match cert, key, user.bind (defaultCredentials tree home) with
  | none, none, some (cert, key) => do
    Narrated.tell ⟨.debug, "using default credentials", [("cert", cert.shown)]⟩
    return (some cert, some key)
  | cert, key, _ => pure (cert, key)

/-- The settings of a run. -/
def resolve (config : Config) (tree : FileTree) (overrides : Overrides) (home : LocalPath)
    (user : Option String) : Narrated LocalFault Settings := do
  let env := (overrides.env.or config.defaultEnv).getD defaultEnvironment
  let entry := config.entry env
  match overrides.gwUrl.or entry.gwUrl with
  | none => Narrated.silent (.error (.missingSetting "gateway URL" env))
  | some given =>
    let gwUrl := trimUrl given
    let givenUpload := overrides.uploadUrl.or entry.uploadUrl
    let uploadUrl := (givenUpload.map trimUrl).getD (gwUrl ++ "/upload")
    let (cert, key) ← credentials tree home user (overrides.cert.or entry.cert)
      (overrides.key.or entry.key)
    if cert.isSome ≠ key.isSome then
      Narrated.silent (.error (.incompleteCredentials env))
    else
      return {
        env, gwUrl, uploadUrl, cert, key
        caBundle := overrides.caBundle.or entry.caBundle
        pollInterval :=
          (overrides.pollIntervalSecs.or config.pollIntervalSecs).getD defaultPollInterval
        fetchRetries := config.fetchRetries.getD defaultFetchRetries
        timeout := config.timeoutSecs.getD defaultTimeout }

end Config

end CdnPublish
