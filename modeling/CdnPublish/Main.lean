import CdnPublish.CommandLine.Run

/-!
# The program

The outer layer of the command line: it reads the words of the line, the environment and the files
that these name, and carries out the invocation. It has no network and lists no directories, so a
single file can be planned, and every request counts as lost.
-/

namespace CdnPublish.Host

/-- The files that an invocation may read: the configuration, credentials, and a source. -/
def namedFiles (invocation : CommandLine.Invocation) (home : Option LocalPath)
    (user : Option String) : List LocalPath :=
  let overrides := invocation.overrides
  let source :=
    match invocation.command with
    | .sync source _ _ => [source]
    | _ => []
  let usual := home.toList.flatMap fun home =>
    user.toList.flatMap fun user =>
      let directory := home.join (.ofString "certs")
      [directory.join (.ofString (user ++ ".crt")), directory.join (.ofString (user ++ ".key"))]
  source ++ overrides.cert.toList ++ overrides.key.toList ++ overrides.caBundle.toList
    ++ (home.map Config.pathAt).toList ++ usual

/-- The files that a configuration names. -/
def configuredFiles (config : Config) : List LocalPath :=
  config.environments.flatMap fun (_, entry) =>
    entry.cert.toList ++ entry.key.toList ++ entry.caBundle.toList

/-- Puts those of some files that can be read into a tree. -/
def readFiles (tree : FileTree) (paths : List LocalPath) : IO FileTree :=
  paths.foldlM (fun tree path => do
    match ← (IO.FS.readBinFile path.shown).toBaseIO with
    | .ok content => return tree.create path (.file content.data.toList)
    | .error _ => return tree) tree

/-- The tree of all files that an invocation may need. -/
def gather (invocation : CommandLine.Invocation) (directory : Place) (home : Option LocalPath)
    (user : Option String) : IO FileTree := do
  let tree ← readFiles (.withWorkingDirectory directory) (namedFiles invocation home user)
  match home.map fun home => (ConfigFile.load tree home).result with
  | some (.ok config) => readFiles tree (configuredFiles config)
  | _ => return tree

/-- Answers a question of a run. -/
def respond : (question : Http.Question) → IO question.Answer
  | .exchange _ => return Http.Reply.lost "there is no network"
  | .sleep seconds => IO.sleep (1000 * seconds).toUInt32
  | .currentDate => return ""

/-- Carries out a program of exchanges and shows what it tells. -/
def carryOut {Result : Type} (level : Log.Level) : Http.WebProgram Result → IO (Option Result)
  | .done result => return some result
  | .tell entry next => do
    if entry.level.isShownAt level then IO.eprintln entry.render
    carryOut level next
  | .ask question next => do carryOut level (next (← respond question))
  | .stalled => return none

/-- The rounds after which a task is no longer waited for. -/
def patience : Nat := 0x10000000000000000

/-- Carries out a command line. -/
def start (words : List String) : IO CommandLine.Finish := do
  match CommandLine.Invocation.ofWords words with
  | .error notice => return ⟨notice.message, notice.exit⟩
  | .ok invocation =>
    let home := (← IO.getEnv "HOME").map LocalPath.ofString
    let user ← IO.getEnv "USER"
    let directory := (← IO.getEnv "PWD").getD "/"
    let place := (LocalPath.ofString directory).rawPieces.filter LocalPath.isSignificant
    let tree ← gather invocation place home user
    let ended ← carryOut invocation.level (invocation.run ⟨tree, home, user⟩ patience)
    return ended.getD ⟨"", .failure⟩

end CdnPublish.Host

/-- The program. -/
def main (words : List String) : IO UInt32 := do
  let finish ← CdnPublish.Host.start words
  if finish.exit = .usage then IO.eprintln finish.output else IO.print finish.output
  return finish.exit.status.toUInt32
