import CdnPublish.CommandLine.Run
import CdnPublish.Proofs.Http.Tasks
import CdnPublish.Proofs.Narrated.Sequences
import CdnPublish.Proofs.Sync.Preview

/-!
# What the commands do

Every command that talks to the gateway first sets up its client, which asks nothing, then carries
out one workflow, and reports what has come of it. A command succeeds exactly if all of this does.
-/

namespace CdnPublish.CommandLine

open Program

variable {surroundings : Surroundings} {overrides : Overrides} {patience : Nat} {Result : Type}
  {turns : List Http.WebTurn} {finish : Finish}

/-- The client and the connection of a run, or why it has none. -/
def connected (surroundings : Surroundings) (overrides : Overrides) (patience : Nat) :
    Except Failure Link := do
  let settings ← (settings surroundings overrides).result
  let connection ← (Http.Connection.ofSettings surroundings.tree settings).mapError
    (Failure.ofSync "failed to set up gateway client")
  return ⟨⟨settings.env, settings.pollInterval, settings.fetchRetries, patience⟩, connection⟩

theorem Job.runs_ofNarrated_iff {computation : Narrated Failure Result}
    {ending : Option (Except Failure Result)} :
    Runs (Job.ofNarrated computation).run turns ending ↔
      turns = [] ∧ ending = some computation.result :=
  Program.runs_ofNarrated_iff

theorem runs_connect_iff {ending : Option (Except Failure Link)} :
    Runs (connect surroundings overrides patience).run turns ending ↔
      turns = [] ∧ ending = some (connected surroundings overrides patience) := by
  apply runs_silent_iff Job.runs_ofNarrated_iff
  intro settings asked ended
  exact runs_silent_iff runs_done_iff fun connection => runs_run_pure_iff

/-- A client can be set up where the settings are complete and the credentials can be used. -/
theorem connected_of_settings {home : LocalPath} {config : Config} {settings : Settings}
    {connection : Http.Connection} (isHome : surroundings.home = some home)
    (loaded : (ConfigFile.load surroundings.tree home).result = .ok config)
    (resolved : (config.resolve surroundings.tree overrides home surroundings.user).result =
      .ok settings)
    (usable : Http.Connection.ofSettings surroundings.tree settings = .ok connection) :
    connected surroundings overrides patience =
      .ok ⟨⟨settings.env, settings.pollInterval, settings.fetchRetries, patience⟩, connection⟩ := by
  have known : (CommandLine.settings surroundings overrides).result = .ok settings := by
    unfold CommandLine.settings
    rw [isHome]
    simp only [Narrated.result_bind, Narrated.mapFault, loaded]
    change Except.mapError _ (config.resolve ..).result = _
    rw [resolved]
    rfl
  unfold connected
  rw [known]
  change (Except.mapError _ (Http.Connection.ofSettings ..) >>= _) = _
  rw [usable]
  rfl

theorem result_load_of_absent {tree : FileTree} {home : LocalPath}
    (absent : tree.hasPath (Config.pathAt home) = false) :
    (ConfigFile.load tree home).result = .ok .empty := by
  unfold ConfigFile.load
  rw [if_neg (by simp [absent])]
  rfl

theorem runs_carry_ok_iff {link : Link} {context : String} {workflow : Workflow Result}
    {value : Result} :
    Runs (link.carry context workflow).run turns (some (.ok value)) ↔
      Runs (link.connection.carry workflow.run) turns (some (.ok value)) := by
  constructor
  · intro run
    rcases runs_bind_pure_some_iff.mp run with ⟨result, ran, same⟩
    cases result with
    | ok given =>
        cases same
        exact ran
    | error fault => cases same
  · intro ran
    exact runs_bind_pure_some_iff.mpr ⟨.ok value, ran, rfl⟩

/-- A command with a client succeeds if the client can be set up and its workflow succeeds. -/
theorem runs_linked_ok_iff {context : Link → String} {workflow : Link → Workflow Result}
    {report : Link → Result → Finish} :
    Runs (connect surroundings overrides patience >>= fun link =>
      link.carry (context link) (workflow link) >>= fun value => pure (report link value)).run turns
        (some (.ok finish)) ↔
      ∃ link value, connected surroundings overrides patience = .ok link ∧
        Runs (link.connection.carry (workflow link).run) turns (some (.ok value)) ∧
        finish = report link value := by
  rw [runs_silent_bind_iff runs_connect_iff]
  constructor
  · rintro (⟨link, linked, ran⟩ | ⟨_, -, -, never⟩)
    · rcases runs_run_bind_ok_iff.mp ran with ⟨before, value, after, carried, reported, rfl⟩
      rcases runs_run_pure_iff.mp reported with ⟨rfl, same⟩
      cases same
      rw [List.append_nil]
      exact ⟨link, value, linked, runs_carry_ok_iff.mp carried, rfl⟩
    · cases never
  · rintro ⟨link, value, linked, ran, rfl⟩
    have carried : Runs (link.carry (context link) (workflow link)).run turns (some (.ok value)) :=
      runs_carry_ok_iff.mpr ran
    refine Or.inl ⟨link, linked, runs_run_bind_ok_iff.mpr ?_⟩
    exact ⟨turns, value, [], carried, .done _, (List.append_nil turns).symm⟩

/-- A sync that is no dry run reports what its client has done. -/
theorem runs_sync_ok_of_carried {laterTree : FileTree} {link : Link} {given source : LocalPath}
    {destination : String} {options : Sync.Options} {report : Sync.Report}
    (found : surroundings.tree.canonicalPath given = .ok source) (real : options.dryRun = false)
    (linked : connected surroundings overrides patience = .ok link)
    (synced : Runs (link.connection.carry
      (link.client.sync surroundings.tree source destination options laterTree).run) turns
      (some (.ok report))) :
    Runs (sync surroundings laterTree overrides patience given destination options).run turns
      (some (.ok (reportSync source destination report))) := by
  unfold sync
  refine runs_known_bind_iff.mpr (Or.inl ⟨source, mapError_eq_ok_iff.mpr found, ?_⟩)
  rw [if_neg (by simp [real])]
  exact runs_linked_ok_iff.mpr ⟨link, report, linked, synced, rfl⟩

end CdnPublish.CommandLine
