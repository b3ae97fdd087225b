import CdnPublish.Proofs.CommandLine.ExitStatus
import CdnPublish.Proofs.CommandLine.Values
import CdnPublish.Proofs.Deadline.Timestamp
import CdnPublish.Proofs.Http.Addresses
import CdnPublish.Proofs.Url.Form

/-!
# The deadline of a commit

A deadline is looked at when the command line is read, and what is taken there is sent with the
commit as it stands. The messages ask for the form `YYYY-MM-DDTHH:MM:SSZ`, but what is taken is
every text that is spelled like a deadline.
-/

namespace CdnPublish.CommandLine

open Program

/-- The deadline that comes with a command. -/
def Command.deadline? : Command → Option String
  | .sync _ _ options => options.commitDeadline
  | .flush _ => none
  | .task _ => none
  | .whoami => none

/-- Some command line with this text as the deadline of its commit can be carried out. -/
def IsAcceptedDeadline (text : String) : Prop :=
  ∃ words invocation, Invocation.ofWords words = .ok invocation ∧
    invocation.command.deadline? = some text

/-- In the query of the request the text stands as the last deadline. Only a request that has
nowhere to go may be without it. -/
def CarriesDeadline (text : String) (request : Http.Request) : Prop :=
  request.destination? = none ∨ ∃ there : Url, request.url = there.text ∧
    (there.values "deadline".toList).getLast? = some (Text.encode text.toList)

section Accepted

variable {text : String}

theorem check_commitDeadline_iff :
    Argument.commitDeadline.check text = .ok () ↔ ∃ read, Deadline.parse text = .ok read := by
  unfold Argument.check
  cases read : Deadline.parse text with
  | ok moment => simp
  | error fault => simp

theorem check_of_isAcceptedDeadline (accepted : IsAcceptedDeadline text) :
    Argument.commitDeadline.check text = .ok () := by
  rcases accepted with ⟨words, invocation, read, given⟩
  rcases Invocation.exists_reading read with ⟨verb, behind, checked, same⟩
  rw [same] at given
  cases verb with
  | sync =>
      change behind.given.lookup .commitDeadline = some text at given
      rcases List.lookup_eq_some_iff.mp given with ⟨before, after, split, -⟩
      exact checked .commitDeadline text (by simp [split]) rfl
  | _ => cases given

theorem settle_commitDeadline (fits : Argument.commitDeadline.check text = .ok ()) :
    Reading.settle { Reading.start with pending := some (.commitDeadline, [text]) } =
      .ok ⟨[(.commitDeadline, text)], none, false, 0, false⟩ := by
  change (Except.mapError _ (Argument.commitDeadline.check text) >>= fun _ => .ok ()) >>= _ = _
  rw [fits]
  rfl

/-- A deadline that is attached to its option is taken if it passes its check. -/
theorem word_commitDeadline (fits : Argument.commitDeadline.check text = .ok ()) :
    Reading.word (.behind .sync) (some .sync) .start ("--commit-deadline=" ++ text) =
      .ok ⟨[(.commitDeadline, text)], none, false, 0, false⟩ := by
  have spelled : ("--commit-deadline=" ++ text).toList =
      '-' :: '-' :: 'c' :: Text.attach '=' "ommit-deadline".toList (some text.toList) := by
    rw [String.toList_append]
    rfl
  have whole : '=' ∉ "commit-deadline".toList := by decide
  have cut := Text.cut_attach whole (some text.toList)
  unfold Reading.word
  rw [if_neg (by decide), spelled]
  change Reading.long _ _ _ (Text.attach '=' "commit-deadline".toList (some text.toList)) = _
  unfold Reading.long
  rw [cut]
  simp only [Option.map_some, Option.elim_some, String.ofList_toList]
  change Reading.start.expect .commitDeadline (some text) = _
  exact settle_commitDeadline fits

theorem isAcceptedDeadline_of_check (fits : Argument.commitDeadline.check text = .ok ()) :
    IsAcceptedDeadline text := by
  have front : Reading.readFront .start ["sync", "--commit-deadline=" ++ text, "src", "/d"] =
      .ok (.start, some ("sync", ["--commit-deadline=" ++ text, "src", "/d"])) := rfl
  have behind : Reading.readBehind .sync ["--commit-deadline=" ++ text, "src", "/d"] =
      .ok ⟨[(.commitDeadline, text), (.source, "src")], some (.destination, ["/d"]), false, 2,
        false⟩ := by
    unfold Reading.readBehind
    rw [List.foldlM_cons, word_commitDeadline fits]
    rfl
  refine ⟨["sync", "--commit-deadline=" ++ text, "src", "/d"], ?_⟩
  unfold Invocation.ofWords
  rw [front]
  change ∃ invocation, (Reading.readBehind .sync _ >>= fun read => _) = _ ∧ _
  rw [behind]
  exact ⟨_, rfl, rfl⟩

theorem isAcceptedDeadline_iff_check :
    IsAcceptedDeadline text ↔ Argument.commitDeadline.check text = .ok () :=
  ⟨check_of_isAcceptedDeadline, isAcceptedDeadline_of_check⟩

/-- The command line takes what is spelled like a deadline. -/
theorem isAcceptedDeadline_iff : IsAcceptedDeadline text ↔
    ∃ spelling : Deadline.Spelling, spelling.text = text.toList := by
  rw [isAcceptedDeadline_iff_check, check_commitDeadline_iff]
  simp only [Deadline.parse_eq_ok_iff]
  constructor
  · rintro ⟨read, spelling, same, -⟩
    exact ⟨spelling, same⟩
  · rintro ⟨spelling, same⟩
    exact ⟨spelling.moment, spelling, same, rfl⟩

end Accepted

section Sent

variable {surroundings : Surroundings} {laterTree : FileTree} {overrides : Overrides}
  {patience : Nat} {invocation : Invocation} {turns : List Http.WebTurn} {text : String}

theorem carriesDeadline_withDeadline (url text : String) :
    CarriesDeadline text ⟨.post, Http.withDeadline url (some text), .nothing⟩ := by
  unfold CarriesDeadline Http.withDeadline
  cases parsed : Url.parse url with
  | ok there =>
      refine Or.inr ⟨there.withQueryPair "deadline".toList text.toList, rfl, ?_⟩
      rw [Url.values_withQueryPair, List.getLast?_concat]
  | error fault =>
      apply Or.inl
      simp [Http.Request.destination?, parsed]

/-- What a sync asks the gateway is what its client asks, if it comes to that. -/
theorem exists_runs_sync {given : LocalPath} {destination : String} {options : Sync.Options}
    {ending : Option (Except Failure Finish)}
    (run : Runs (sync surroundings laterTree overrides patience given destination options).run
      turns ending) :
    turns = [] ∨ ∃ (link : Link) (source : LocalPath) (ended : _),
      Runs (link.connection.carry
        (link.client.sync surroundings.tree source destination options laterTree).run)
        turns ended := by
  rcases runs_known_bind_iff.mp run with ⟨source, -, run⟩ | ⟨_, -, silent, -⟩
  · by_cases dry : options.dryRun = true
    · rw [if_pos dry] at run
      rcases (runs_silent_bind_iff Job.runs_ofNarrated_iff).mp run with
        ⟨items, -, reported⟩ | ⟨_, -, silent, -⟩
      · exact Or.inl (runs_run_pure_iff.mp reported).1
      · exact Or.inl silent
    · rw [if_neg dry] at run
      rcases (runs_silent_bind_iff runs_connect_iff).mp run with
        ⟨link, -, run⟩ | ⟨_, -, silent, -⟩
      · rcases runs_run_bind_pure_iff.mp run with ⟨_, carried, -⟩
        rcases runs_bind_pure_iff.mp carried with ⟨ended, asked, -⟩
        exact Or.inr ⟨link, source, ended, asked⟩
      · exact Or.inl silent
  · exact Or.inl silent

/-- Every POST of a run after the one that creates the publish carries the deadline of the
invocation. -/
theorem carriesDeadline_of_runs {ending : Option Finish}
    (given : invocation.command.deadline? = some text)
    (run : Runs (invocation.run surroundings patience laterTree) turns ending) :
    ∀ turn ∈ (turns.filter Http.isPost).tail, ∃ request reply,
      turn = Http.exchangeOf request reply ∧ CarriesDeadline text request := by
  rcases runs_run_iff.mp run with ⟨_, job, -⟩
  unfold Invocation.job at job
  cases command : invocation.command with
  | sync path destination options =>
      rw [command] at given job
      intro turn mem
      rcases exists_runs_sync job with rfl | ⟨link, source, _, carried⟩
      · cases mem
      · rcases (Http.followsLinks_of_runs_sync carried).commits turn mem with
          ⟨_, _, url, reply, -, -, -, rfl⟩
        rw [show options.commitDeadline = some text from given]
        exact ⟨_, reply, rfl, carriesDeadline_withDeadline url text⟩
  | _ =>
      rw [command] at given
      cases given

end Sent

/-- The command line takes exactly those texts as a deadline that are spelled like one. Among them
are all timestamps of the form `YYYY-MM-DDTHH:MM:SSZ`, but also those with blanks, with a sign, with
numbers that are not at their full width, and with a leap second. Whatever has been taken is sent
with the commit as it stands. -/
theorem commit_deadline_exact (text : String) :
    (IsAcceptedDeadline text ↔ ∃ spelling : Deadline.Spelling, spelling.text = text.toList) ∧
    (∀ spelling : Deadline.Spelling, spelling.text = text.toList →
      (Deadline.IsTimestamp text.toList ↔
        spelling.IsPlain ∧ spelling.second.magnitude ≠ 60)) ∧
    (Deadline.IsTimestamp text.toList → IsAcceptedDeadline text) ∧
    (∀ invocation : Invocation, invocation.command.deadline? = some text →
      ∀ surroundings patience laterTree turns ending,
        Runs (invocation.run surroundings patience laterTree) turns ending →
        ∀ turn ∈ (turns.filter Http.isPost).tail, ∃ request reply,
          turn = Http.exchangeOf request reply ∧ CarriesDeadline text request) := by
  refine ⟨isAcceptedDeadline_iff, ?_, ?_, ?_⟩
  · intro spelling same
    rw [← same]
    exact Deadline.isTimestamp_text_iff spelling
  · intro timestamp
    exact isAcceptedDeadline_iff.mpr timestamp.exists_spelling
  · intro invocation given surroundings patience laterTree turns ending run
    exact carriesDeadline_of_runs given run

section July

/-- A time of day in July. -/
def july : Moment := ⟨2022, 7, 25, 15, 47, 47⟩

theorem isCivil_july : july.IsCivil := by
  constructor <;> decide

/-- Its spelling with a month of one digit. -/
def unpaddedJuly : Deadline.Spelling :=
  { Deadline.Spelling.ofMoment july isCivil_july with
    month := .plain 1 7
    isShort_month := ⟨rfl, by decide⟩
    hasDate := by decide }

/-- A sync of one file whose commit has it as its deadline. -/
def unpaddedInvocation : Invocation :=
  ⟨loopbackOverrides, .info,
    .sync (.ofString "/f") "/d" (.byDeadline (some "2022-7-25T15:47:47Z"))⟩

/-- The command line that asks for it. -/
def unpaddedLine : List String :=
  ["sync", "--gw-url=http://[::1]", "--commit-deadline=2022-7-25T15:47:47Z", "/f", "/d"]

theorem ofWords_unpaddedLine : Invocation.ofWords unpaddedLine = .ok unpaddedInvocation := by
  cbv

/-- The request of its commit. -/
def unpaddedCommit : Http.WebTurn :=
  Http.exchangeOf ⟨.post, Http.withDeadline "http://[::1]/c" (some "2022-7-25T15:47:47Z"), .nothing⟩
    Http.commitReply

/-- The exchanges of the sync. -/
def unpaddedTurns : List Http.WebTurn :=
  Http.journalAt loopback Http.creationReply "http://[::1]/p" 200
    (Http.withDeadline "http://[::1]/c" (some "2022-7-25T15:47:47Z"))

theorem runs_unpaddedInvocation : ∃ finish,
    Runs (unpaddedInvocation.run unconfigured 9) unpaddedTurns (some finish) := by
  have itemAddress : loopback.address Http.linkedPublish.links "publish" "p" "self" =
      .ok "http://[::1]/p" := by cbv
  have commitAddress : loopback.address Http.linkedPublish.links "publish" "p" "commit" =
      .ok "http://[::1]/c" := by cbv
  have carried : Carried loopback.answer
      (datedTurns (some "2022-7-25T15:47:47Z") Http.linkedPublish) unpaddedTurns :=
    Http.carried_journalAt Http.recordIn?_creationReply itemAddress commitAddress (by decide)
  have synced := Http.Connection.runs_carry_iff.mpr
    ⟨_, runs_sync_byDeadline 5 3 8 (some "2022-7-25T15:47:47Z") Http.linkedPublish, carried⟩
  have found : unconfigured.tree.canonicalPath (.ofString "/f") = .ok singlePath := by cbv
  have ran : Runs (unpaddedInvocation.job unconfigured 9 unconfigured.tree).run unpaddedTurns
      (some (.ok _)) := runs_sync_ok_of_carried found rfl connected_loopback synced
  exact ⟨_, runs_run_iff.mpr ⟨_, ran, rfl⟩⟩

/-- A timestamp is taken. A month of one digit is taken as well, although it makes no timestamp, and
the sync that is given it sends it with its commit. -/
theorem commit_deadline_exact_july :
    IsAcceptedDeadline "2022-07-25T15:47:47Z" ∧
    IsAcceptedDeadline "2022-7-25T15:47:47Z" ∧
    ¬Deadline.IsTimestamp "2022-7-25T15:47:47Z".toList ∧
    Invocation.ofWords unpaddedLine = .ok unpaddedInvocation ∧
    ∃ finish, Runs (unpaddedInvocation.run unconfigured 9) unpaddedTurns (some finish) ∧
      unpaddedCommit ∈ (unpaddedTurns.filter Http.isPost).tail ∧
      ∃ request reply, unpaddedCommit = Http.exchangeOf request reply ∧
        CarriesDeadline "2022-7-25T15:47:47Z" request := by
  rcases commit_deadline_exact "2022-7-25T15:47:47Z" with ⟨accepted, isTimestamp, -, sends⟩
  have same : unpaddedJuly.text = "2022-7-25T15:47:47Z".toList := by decide
  rcases runs_unpaddedInvocation with ⟨finish, run⟩
  have commits : unpaddedCommit ∈ (unpaddedTurns.filter Http.isPost).tail := .head _
  refine ⟨?_, accepted.mpr ⟨_, same⟩, ?_, ofWords_unpaddedLine, finish, run, commits, ?_⟩
  · apply (commit_deadline_exact "2022-07-25T15:47:47Z").2.2.1
    exact ⟨july, isCivil_july, by decide⟩
  · intro timestamp
    have plain := ((isTimestamp _ same).mp timestamp).1
    exact absurd plain.month.2.2 (by decide)
  · exact sends unpaddedInvocation rfl _ _ _ _ _ run _ commits

end July

/-- A month of one digit is taken as well, and reaches the gateway. -/
theorem exists_deadline_without_padding :
    IsAcceptedDeadline "2022-7-25T15:47:47Z" ∧
      ¬Deadline.IsTimestamp "2022-7-25T15:47:47Z".toList ∧
      Http.withDeadline "http://[::1]/c" (some "2022-7-25T15:47:47Z") =
        "http://[::1]/c?deadline=2022-7-25T15%3A47%3A47Z" := by
  refine ⟨isAcceptedDeadline_of_check ?_, ?_, ?_⟩
  · cbv
  · intro timestamp
    have length := timestamp.length_eq
    revert length
    decide
  · have parsed : Url.parse "http://[::1]/c" = .ok ⟨"http".toList,
        some ⟨[], [], .ipv6 [0, 0, 0, 0, 0, 0, 0, 1], none⟩, .segments ["c".toList], none,
        none⟩ := by cbv
    simp only [Http.withDeadline, parsed, Url.withQueryPair, Url.formEncode_eq_flatMap,
      Text.encode_eq_flatMap]
    decide +kernel

end CdnPublish.CommandLine
