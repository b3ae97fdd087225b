import CdnPublish.Settings
import CdnPublish.Text.Natural
import CdnPublish.Yaml.Node

/-!
# Configuration files

A configuration is a YAML mapping. Fields that are not known are passed over, whatever they hold; a
known field must not be given twice. Texts are taken as they are written, so that a number or a
truth value serves as a text too, but a number must be written as one.
-/

namespace CdnPublish.ConfigFile

open Yaml (Document Node Style)

/-- A full tag of the usual kind. -/
def usualTag (name : String) : List Char :=
  ("tag:yaml.org,2002:" ++ name).toList

/-- The plain scalars that stand for nothing. -/
def nullTexts : List (List Char) :=
  ["~".toList, "null".toList, "Null".toList, "NULL".toList]

/-- The text of a scalar. -/
def text? (document : Document) (node : Node) : Option String :=
  match document.follow? node with
  | some (.scalar text _ _) => some (String.ofList text)
  | _ => none

/-- The entries of a mapping; where nothing is written there are none. -/
def entries? (document : Document) (node : Node) : Option (List (String × Node)) :=
  match document.follow? node with
  | some (.mapping entries) =>
    entries.mapM fun (key, value) => (text? document key).map (·, value)
  | some (.scalar [] .plain _) => some []
  | _ => none

/-- The entries of a mapping with known fields, none of which is given twice. -/
def fields? (document : Document) (known : List String) (node : Node) :
    Option (List (String × Node)) := do
  let entries ← entries? document node
  let given := (entries.map (·.1)).filter known.contains
  if given.Nodup then some entries else none

/-- Whether a scalar stands for nothing. A plain scalar does if it is empty or spelled so; with the
tag of nothing it must be spelled so. -/
def isNull? (text : List Char) (style : Style) (tag : Option (List Char)) : Option Bool :=
  match style, tag with
  | .plain, none => some (text = [] || nullTexts.contains text)
  | .plain, some tag =>
    if tag ≠ usualTag "null" then some false
    else if nullTexts.contains text then some true
    else none
  | _, _ => some false

/-- The value of a field that may be missing or stand for nothing. -/
def optional? {Value : Type} (document : Document) (read? : Node → Option Value)
    (fields : List (String × Node)) (name : String) : Option (Option Value) :=
  match fields.lookup name with
  | none => some none
  | some node =>
    match document.follow? node with
    | some (.scalar text style tag) => do
      if ← isNull? text style tag then return none else (read? node).map some
    | some node => (read? node).map some
    | none => none

/-- The value of a digit in a base. -/
def digit? (base : Nat) (character : Char) : Option Nat :=
  (Yaml.hexValue? character).filter (· < base)

/-- A number without a sign in a base. -/
def digits? (base : Nat) (text : List Char) : Option Nat := do
  let digits ← text.mapM (digit? base)
  if digits = [] then none
  else some (digits.foldl (fun number digit => number * base + digit) 0)

/-- A natural number as it may be written in a plain scalar: in base ten without zeros before it, or
in another base behind its mark. A plus sign may stand before all of it. -/
def natural? (text : List Char) : Option Nat :=
  let unsigned :=
    match text with
    | '+' :: rest => rest
    | _ => text
  match unsigned with
  | '0' :: 'x' :: digits => digits? 16 digits
  | '0' :: 'o' :: digits => digits? 8 digits
  | '0' :: 'b' :: digits => digits? 2 digits
  | '0' :: _ :: _ => none
  | digits => digits? 10 digits

/-- A number below a bound. Only a plain scalar is one, or a literal block that has the tag of an
integer. -/
def number? (document : Document) (bound : Nat) (node : Node) : Option Nat :=
  match document.follow? node with
  | some (.scalar text style tag) =>
    if style = .plain || (style = .literal && tag = some (usualTag "int")) then
      (natural? text).filter (· < bound)
    else none
  | _ => none

/-- Reads the entry of an environment. -/
def environment? (document : Document) (node : Node) : Option Environment := do
  let fields ← fields? document ["gw_url", "upload_url", "cert", "key", "ca_bundle"] node
  let text := optional? document (text? document) fields
  let path := optional? document (fun node => (text? document node).map .ofString) fields
  return {
    gwUrl := ← text "gw_url"
    uploadUrl := ← text "upload_url"
    cert := ← path "cert"
    key := ← path "key"
    caBundle := ← path "ca_bundle" }

/-- The entries with only the last one of each name. -/
def lastOfEach (environments : List (String × Environment)) : List (String × Environment) :=
  environments.foldl
    (fun kept (name, environment) => kept.filter (·.1 ≠ name) ++ [(name, environment)]) []

/-- Reads the entries of all environments. -/
def environments? (document : Document) (fields : List (String × Node)) :
    Option (List (String × Environment)) :=
  match fields.lookup "environments" with
  | none => some []
  | some node => do
    let entries ← entries? document node
    let environments ← entries.mapM fun (name, node) =>
      (environment? document node).map (name, ·)
    return lastOfEach environments

/-- Counts of retries are below this number. -/
def retriesBound : Nat := 0x100000000

/-- Reads a configuration. -/
def config? (document : Document) (root : Node) : Option Config := do
  let fields ← fields? document
    ["default_env", "poll_interval_secs", "fetch_retries", "timeout_secs", "environments"] root
  let number (bound : Nat) := optional? document (number? document bound) fields
  return {
    defaultEnv := ← optional? document (text? document) fields "default_env"
    pollIntervalSecs := ← number Text.naturalBound "poll_interval_secs"
    fetchRetries := ← number retriesBound "fetch_retries"
    timeoutSecs := ← number Text.naturalBound "timeout_secs"
    environments := ← environments? document fields }

/-- Reads the text of a configuration. -/
def ofText? (text : List Char) : Option Config := do
  let document ← Document.ofText? text
  match document.root with
  | none => some .empty
  | some root => config? document root

/-- What is said about a text that is no configuration. -/
def malformed : String := "not a mapping of settings"

/-- Loads the configuration of a user. Who has no file has configured nothing. -/
def load (tree : FileTree) (home : LocalPath) : Narrated LocalFault Config := do
  let path := Config.pathAt home
  if tree.hasPath path then
    match tree.readText path with
    | .error cause => Narrated.silent (.error (.unreadable path cause))
    | .ok text =>
      match ofText? text with
      | some config => return config
      | none => Narrated.silent (.error (.malformedConfig path malformed))
  else
    Narrated.tell ⟨.debug, "no config file; using defaults", [("path", path.shown)]⟩
    return .empty

end CdnPublish.ConfigFile
