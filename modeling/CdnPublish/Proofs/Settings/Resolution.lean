import CdnPublish.Settings
import CdnPublish.Proofs.Narrated.Sequences

/-!
# Resolution of settings

Every setting of a run comes from one of three layers: the overrides, the entry of the environment
that is worked on, or a default. The two URLs lose the slashes at their ends, and the certificate
and the key are there together or not at all: halves of a pair may come from different layers, and
the pair in the usual place stands in only where neither half is given. A run is refused when no
layer names the gateway, or else when only half of a pair is given.
-/

namespace CdnPublish

namespace Text

section Trimming

variable {Symbol : Type} [DecidableEq Symbol] {symbol : Symbol} {given text : List Symbol}

/-- The text is what is left of the given one when copies of the symbol are taken from its end until
another symbol stands there or none is left. -/
structure Trims (symbol : Symbol) (given text : List Symbol) : Prop where
  only : ∃ count, given = text ++ List.replicate count symbol
  all : text.getLast? ≠ some symbol

theorem trimEnd_append_replicate (count : Nat) :
    trimEnd symbol (text ++ List.replicate count symbol) = trimEnd symbol text := by
  induction count with
  | zero => rw [List.replicate_zero, List.append_nil]
  | succ count induction_hypothesis =>
      rw [List.replicate_succ', ← List.append_assoc, ← induction_hypothesis]
      exact List.rdropWhile_concat_pos _ _ _ (by simp)

theorem trimEnd_of_getLast?_ne (other : text.getLast? ≠ some symbol) :
    trimEnd symbol text = text := by
  apply List.rdropWhile_eq_self_iff.mpr
  intro present same
  rw [List.getLast?_eq_some_getLast present, of_decide_eq_true same] at other
  exact other rfl

theorem exists_trims (symbol : Symbol) (given : List Symbol) :
    ∃ text, Trims symbol given text := by
  induction given using List.reverseRecOn with
  | nil => exact ⟨[], ⟨0, rfl⟩, by simp⟩
  | append_singleton front last induction_hypothesis =>
      by_cases same : last = symbol
      · rcases induction_hypothesis with ⟨text, ⟨count, split⟩, all⟩
        refine ⟨text, ⟨count + 1, ?_⟩, all⟩
        rw [split, same, List.replicate_succ', List.append_assoc]
      · exact ⟨front ++ [last], ⟨0, by simp⟩, by simpa using same⟩

/-- One text only is left. -/
theorem trims_iff : Trims symbol given text ↔ text = trimEnd symbol given := by
  have unique : ∀ text, Trims symbol given text → text = trimEnd symbol given := by
    rintro text ⟨⟨count, rfl⟩, all⟩
    rw [trimEnd_append_replicate, trimEnd_of_getLast?_ne all]
  rcases exists_trims symbol given with ⟨left, trims⟩
  constructor
  · exact unique text
  · rintro rfl
    rw [← unique left trims]
    exact trims

end Trimming

end Text

section Layers

variable {Value : Type} {override configured fallback value : Option Value}

/-- The value of a setting with three layers: the override, else what is configured, else what there
is without either. -/
inductive Layered : Option Value → Option Value → Option Value → Option Value → Prop where
  | overridden (given : Value) (configured fallback : Option Value) :
      Layered (some given) configured fallback (some given)
  | configured (given : Value) (fallback : Option Value) :
      Layered none (some given) fallback (some given)
  | fallback (fallback : Option Value) : Layered none none fallback fallback

/-- Neither the overrides nor the configuration give the setting. -/
def Ungiven (override configured : Option Value) : Prop :=
  override = none ∧ configured = none

theorem layered_iff :
    Layered override configured fallback value ↔
      value = (override.or configured).or fallback := by
  constructor
  · intro layered
    cases layered <;> rfl
  · rintro rfl
    rcases override with _ | given
    · rcases configured with _ | given
      · exact .fallback fallback
      · exact .configured given fallback
    · exact .overridden given configured fallback

theorem layered_none_iff :
    Layered override configured none value ↔ override.or configured = value := by
  rw [layered_iff, Option.or_none]
  exact eq_comm

theorem layered_some_iff {default given : Value} :
    Layered override configured (some default) (some given) ↔
      given = (override.or configured).getD default := by
  rw [layered_iff]
  rcases override.or configured with _ | found <;> simp

theorem ungiven_iff : Ungiven override configured ↔ override.or configured = none :=
  Option.or_eq_none_iff.symm

theorem Layered.not_ungiven {given : Value}
    (layered : Layered override configured none (some given)) : ¬Ungiven override configured := by
  rintro ⟨rfl, rfl⟩
  cases layered

theorem ungiven_or_layered (override configured : Option Value) :
    Ungiven override configured ∨ ∃ given, Layered override configured none (some given) := by
  simp only [ungiven_iff, layered_none_iff]
  exact Option.eq_none_or_eq_some _

end Layers

namespace Config

/-- A file that a user has in the usual place. -/
def usualFile (home : LocalPath) (user ending : String) : LocalPath :=
  (home.join (.ofString "certs")).join (.ofString (user ++ ending))

/-- The certificate and the key that a user, if there is one, has in the usual place. -/
inductive UsualPair (tree : FileTree) (home : LocalPath) :
    Option String → LocalPath → LocalPath → Prop where
  | there (user : String) (hasCert : tree.hasFile (usualFile home user ".crt") = true)
      (hasKey : tree.hasFile (usualFile home user ".key") = true) :
      UsualPair tree home (some user) (usualFile home user ".crt") (usualFile home user ".key")

/-- The certificate and the key of a run: those that are given, else those in the usual place, else
none. -/
inductive Credentialed (tree : FileTree) (home : LocalPath) (user : Option String)
    (overrides : Overrides) (entry : Environment) : Option LocalPath → Option LocalPath → Prop where
  | given {cert key : LocalPath}
      (givenCert : Layered overrides.cert entry.cert none (some cert))
      (givenKey : Layered overrides.key entry.key none (some key)) :
      Credentialed tree home user overrides entry (some cert) (some key)
  | usual {cert key : LocalPath}
      (noCert : Ungiven overrides.cert entry.cert) (noKey : Ungiven overrides.key entry.key)
      (there : UsualPair tree home user cert key) :
      Credentialed tree home user overrides entry (some cert) (some key)
  | absent
      (noCert : Ungiven overrides.cert entry.cert) (noKey : Ungiven overrides.key entry.key)
      (missing : ∀ cert key, ¬UsualPair tree home user cert key) :
      Credentialed tree home user overrides entry none none

/-- Where each setting of a run comes from, given the environment and its entry. -/
structure Settles (config : Config) (tree : FileTree) (overrides : Overrides) (home : LocalPath)
    (user : Option String) (env : String) (entry : Environment) (settings : Settings) : Prop where
  env : settings.env = env
  gwUrl : ∃ given, Layered overrides.gwUrl entry.gwUrl none (some given) ∧
    Text.Trims '/' given.toList settings.gwUrl.toList
  uploadUrl :
    (∃ given, Layered overrides.uploadUrl entry.uploadUrl none (some given) ∧
      Text.Trims '/' given.toList settings.uploadUrl.toList) ∨
    (Ungiven overrides.uploadUrl entry.uploadUrl ∧
      settings.uploadUrl = settings.gwUrl ++ "/upload")
  credentials : Credentialed tree home user overrides entry settings.cert settings.key
  caBundle : Layered overrides.caBundle entry.caBundle none settings.caBundle
  pollInterval :
    Layered overrides.pollIntervalSecs config.pollIntervalSecs (some 5) (some settings.pollInterval)
  fetchRetries : Layered none config.fetchRetries (some 3) (some settings.fetchRetries)
  timeout : Layered none config.timeoutSecs (some 120) (some settings.timeout)

variable {config : Config} {tree : FileTree} {overrides : Overrides} {home : LocalPath}
  {user : Option String} {entry : Environment} {settings : Settings}

theorem trims_iff_eq_trimUrl {given url : String} :
    Text.Trims '/' given.toList url.toList ↔ url = trimUrl given := by
  rw [Text.trims_iff, ← String.toList_inj, trimUrl, String.toList_ofList]

section Credentials

variable {cert key : Option LocalPath}

theorem usualPair_iff {usualCert usualKey : LocalPath} :
    UsualPair tree home user usualCert usualKey ↔
      user.bind (defaultCredentials tree home) = some (usualCert, usualKey) := by
  rcases user with _ | user
  · exact iff_of_false (fun there => nomatch there) (by simp)
  · by_cases both : tree.hasFile (usualFile home user ".crt") = true ∧
        tree.hasFile (usualFile home user ".key") = true
    · have found : defaultCredentials tree home user =
          some (usualFile home user ".crt", usualFile home user ".key") :=
        if_pos (Bool.and_eq_true_iff.mpr both)
      rw [Option.bind_some, found, Option.some_inj, Prod.mk.injEq]
      constructor
      · rintro ⟨⟩
        exact ⟨rfl, rfl⟩
      · rintro ⟨rfl, rfl⟩
        exact .there user both.1 both.2
    · have missing : defaultCredentials tree home user = none :=
        if_neg fun found => both (Bool.and_eq_true_iff.mp found)
      rw [Option.bind_some, missing]
      refine iff_of_false ?_ (by simp)
      rintro ⟨_, hasCert, hasKey⟩
      exact both ⟨hasCert, hasKey⟩

theorem result_credentials_of_given (given : ¬(cert = none ∧ key = none)) :
    (credentials tree home user cert key).result = .ok (cert, key) := by
  rcases cert with _ | cert
  · rcases key with _ | key
    · exact absurd ⟨rfl, rfl⟩ given
    · rfl
  · rfl

theorem result_credentials_of_usual {usualCert usualKey : LocalPath}
    (there : UsualPair tree home user usualCert usualKey) :
    (credentials tree home user none none).result = .ok (some usualCert, some usualKey) := by
  unfold credentials
  rw [usualPair_iff.mp there]
  rfl

theorem result_credentials_of_missing (missing : ∀ cert key, ¬UsualPair tree home user cert key) :
    (credentials tree home user none none).result = .ok (none, none) := by
  have unfound : user.bind (defaultCredentials tree home) = none :=
    Option.eq_none_iff_forall_not_mem.mpr fun pair found =>
      missing pair.1 pair.2 (usualPair_iff.mpr found)
  unfold credentials
  rw [unfound]
  rfl

/-- Half a pair stays half a pair, whatever is in the usual place. -/
theorem exists_half_credentials
    (half : Ungiven overrides.cert entry.cert ↔ ¬Ungiven overrides.key entry.key) :
    ∃ cert key,
      (credentials tree home user (overrides.cert.or entry.cert)
        (overrides.key.or entry.key)).result = .ok (cert, key) ∧
      cert.isSome ≠ key.isSome := by
  simp only [ungiven_iff] at half
  refine ⟨_, _, result_credentials_of_given ?_, ?_⟩
  · rintro ⟨noCert, noKey⟩
    exact half.mp noCert noKey
  · intro even
    simp only [← Option.not_isSome_iff_eq_none, even] at half
    exact iff_not_self half

theorem exists_credentialed_iff :
    (∃ cert key, Credentialed tree home user overrides entry cert key) ↔
      (Ungiven overrides.cert entry.cert ↔ Ungiven overrides.key entry.key) := by
  constructor
  · rintro ⟨cert, key, credentialed⟩
    cases credentialed with
    | given givenCert givenKey => exact iff_of_false givenCert.not_ungiven givenKey.not_ungiven
    | usual noCert noKey there => exact iff_of_true noCert noKey
    | absent noCert noKey missing => exact iff_of_true noCert noKey
  · intro paired
    rcases ungiven_or_layered overrides.cert entry.cert with noCert | ⟨cert, givenCert⟩
    · by_cases there : ∃ cert key, UsualPair tree home user cert key
      · rcases there with ⟨cert, key, there⟩
        exact ⟨_, _, .usual noCert (paired.mp noCert) there⟩
      · exact ⟨_, _, .absent noCert (paired.mp noCert) fun cert key found =>
          there ⟨cert, key, found⟩⟩
    · rcases ungiven_or_layered overrides.key entry.key with noKey | ⟨key, givenKey⟩
      · exact absurd (paired.mpr noKey) givenCert.not_ungiven
      · exact ⟨_, _, .given givenCert givenKey⟩

/-- The layers and the files decide on one certificate and one key. -/
theorem Credentialed.result (credentialed : Credentialed tree home user overrides entry cert key) :
    (credentials tree home user (overrides.cert.or entry.cert)
      (overrides.key.or entry.key)).result = .ok (cert, key) := by
  cases credentialed with
  | given givenCert givenKey =>
      rw [layered_none_iff.mp givenCert, layered_none_iff.mp givenKey]
      exact result_credentials_of_given (by simp)
  | usual noCert noKey there =>
      rw [ungiven_iff.mp noCert, ungiven_iff.mp noKey]
      exact result_credentials_of_usual there
  | absent noCert noKey missing =>
      rw [ungiven_iff.mp noCert, ungiven_iff.mp noKey]
      exact result_credentials_of_missing missing

theorem Credentialed.isSome_eq
    (credentialed : Credentialed tree home user overrides entry cert key) :
    cert.isSome = key.isSome := by
  cases credentialed <;> rfl

end Credentials

/-- The environment that a run works on. -/
def environmentOf (config : Config) (overrides : Overrides) : String :=
  (overrides.env.or config.defaultEnv).getD defaultEnvironment

/-- The entry of the environment that a run works on. -/
def chosenEntry (config : Config) (overrides : Overrides) : Environment :=
  config.entry (config.environmentOf overrides)

/-- The settings that go with a gateway URL and a pair of credentials. -/
def settingsOf (config : Config) (overrides : Overrides) (given : String)
    (cert key : Option LocalPath) : Settings where
  env := config.environmentOf overrides
  gwUrl := trimUrl given
  uploadUrl :=
    ((overrides.uploadUrl.or (config.chosenEntry overrides).uploadUrl).map
      trimUrl).getD (trimUrl given ++ "/upload")
  cert := cert
  key := key
  caBundle := overrides.caBundle.or (config.chosenEntry overrides).caBundle
  pollInterval := (overrides.pollIntervalSecs.or config.pollIntervalSecs).getD defaultPollInterval
  fetchRetries := config.fetchRetries.getD defaultFetchRetries
  timeout := config.timeoutSecs.getD defaultTimeout

theorem result_resolve_of_ungiven
    (ungiven : Ungiven overrides.gwUrl (config.chosenEntry overrides).gwUrl) :
    (config.resolve tree overrides home user).result =
      .error (.missingSetting "gateway URL" (config.environmentOf overrides)) := by
  have absent := ungiven_iff.mp ungiven
  unfold chosenEntry environmentOf at absent
  simp only [resolve, absent]
  rfl

theorem result_resolve_of_given {given : String} {cert key : Option LocalPath}
    (named : Layered overrides.gwUrl (config.chosenEntry overrides).gwUrl none
      (some given))
    (used : (credentials tree home user
      (overrides.cert.or (config.chosenEntry overrides).cert)
      (overrides.key.or (config.chosenEntry overrides).key)).result =
        .ok (cert, key)) :
    (config.resolve tree overrides home user).result =
      if cert.isSome ≠ key.isSome then
        .error (.incompleteCredentials (config.environmentOf overrides))
      else .ok (config.settingsOf overrides given cert key) := by
  have present := layered_none_iff.mp named
  unfold chosenEntry environmentOf at present used
  simp only [resolve, present, Narrated.result_bind, used]
  by_cases half : cert.isSome ≠ key.isSome
  · rw [if_pos half]
    exact congrArg Narrated.result (if_pos half)
  · rw [if_neg half]
    exact congrArg Narrated.result (if_neg half)

/-- An upload URL is the given one without slashes at its end, or else stands below the gateway. -/
theorem eq_uploadUrl_iff {override configured : Option String} {gwUrl uploadUrl : String} :
    uploadUrl = ((override.or configured).map trimUrl).getD (gwUrl ++ "/upload") ↔
      (∃ given, Layered override configured none (some given) ∧
        Text.Trims '/' given.toList uploadUrl.toList) ∨
      (Ungiven override configured ∧ uploadUrl = gwUrl ++ "/upload") := by
  simp only [layered_none_iff, ungiven_iff, trims_iff_eq_trimUrl]
  rcases override.or configured with _ | given <;> simp

theorem settles_iff :
    config.Settles tree overrides home user (config.environmentOf overrides)
        (config.chosenEntry overrides) settings ↔
      ∃ given cert key,
        Layered overrides.gwUrl (config.chosenEntry overrides).gwUrl none
          (some given) ∧
        Credentialed tree home user overrides (config.chosenEntry overrides) cert
          key ∧
        settings = config.settingsOf overrides given cert key := by
  constructor
  · intro settles
    rcases settles.gwUrl with ⟨given, named, trims⟩
    refine ⟨given, _, _, named, settles.credentials, ?_⟩
    have gwUrl := trims_iff_eq_trimUrl.mp trims
    have uploadUrl := eq_uploadUrl_iff.mpr settles.uploadUrl
    rw [gwUrl] at uploadUrl
    rcases settings with ⟨⟩
    rw [settingsOf, Settings.mk.injEq]
    exact ⟨settles.env, gwUrl, uploadUrl, rfl, rfl, (layered_none_iff.mp settles.caBundle).symm,
      layered_some_iff.mp settles.pollInterval, layered_some_iff.mp settles.fetchRetries,
      layered_some_iff.mp settles.timeout⟩
  · rintro ⟨given, cert, key, named, credentials, rfl⟩
    exact ⟨rfl, ⟨given, named, trims_iff_eq_trimUrl.mpr rfl⟩, eq_uploadUrl_iff.mp rfl, credentials,
      layered_none_iff.mpr rfl, layered_some_iff.mpr rfl, layered_some_iff.mpr rfl,
      layered_some_iff.mpr rfl⟩

theorem Settles.slashless {env : String}
    (settles : config.Settles tree overrides home user env entry settings) :
    settings.gwUrl.toList.getLast? ≠ some '/' ∧ settings.uploadUrl.toList.getLast? ≠ some '/' := by
  rcases settles.gwUrl with ⟨given, named, trims⟩
  refine ⟨trims.all, ?_⟩
  rcases settles.uploadUrl with ⟨givenUpload, namedUpload, trimsUpload⟩ | ⟨ungiven, below⟩
  · exact trimsUpload.all
  · rw [below, String.toList_append, List.getLast?_append]
    simp

/-- A run without a gateway is refused for that, and only a run with one for half a pair. -/
inductive Refused (overrides : Overrides) (env : String) (entry : Environment) :
    LocalFault → Prop where
  | gateway (ungiven : Ungiven overrides.gwUrl entry.gwUrl) :
      Refused overrides env entry (.missingSetting "gateway URL" env)
  | credentials (named : ¬Ungiven overrides.gwUrl entry.gwUrl)
      (half : Ungiven overrides.cert entry.cert ↔ ¬Ungiven overrides.key entry.key) :
      Refused overrides env entry (.incompleteCredentials env)

/-- What is refused ends the resolution with that fault. The usual pair cannot make up for a missing
half, as the halves that come out are uneven. -/
theorem Refused.result {fault : LocalFault}
    (refused : Refused overrides (config.environmentOf overrides)
      (config.chosenEntry overrides) fault) :
    (config.resolve tree overrides home user).result = .error fault := by
  cases refused with
  | gateway ungiven => exact result_resolve_of_ungiven ungiven
  | credentials named half =>
      rcases (ungiven_or_layered _ _).resolve_left named with ⟨given, layered⟩
      rcases exists_half_credentials half with ⟨cert, key, used, uneven⟩
      rw [result_resolve_of_given layered used, if_pos uneven]

theorem Settles.result
    (settles : config.Settles tree overrides home user (config.environmentOf overrides)
      (config.chosenEntry overrides) settings) :
    (config.resolve tree overrides home user).result = .ok settings := by
  rcases settles_iff.mp settles with ⟨given, cert, key, named, credentialed, rfl⟩
  rw [result_resolve_of_given named credentialed.result,
    if_neg (not_not_intro credentialed.isSome_eq)]

theorem exists_settles_iff :
    (∃ settings, config.Settles tree overrides home user (config.environmentOf overrides)
      (config.chosenEntry overrides) settings) ↔
      ¬Ungiven overrides.gwUrl (config.chosenEntry overrides).gwUrl ∧
        (Ungiven overrides.cert (config.chosenEntry overrides).cert ↔
          Ungiven overrides.key (config.chosenEntry overrides).key) := by
  constructor
  · rintro ⟨settings, settles⟩
    rcases settles_iff.mp settles with ⟨given, cert, key, named, credentialed, -⟩
    exact ⟨named.not_ungiven, exists_credentialed_iff.mp ⟨cert, key, credentialed⟩⟩
  · rintro ⟨named, paired⟩
    rcases (ungiven_or_layered _ _).resolve_left named with ⟨given, layered⟩
    rcases exists_credentialed_iff.mpr paired with ⟨cert, key, credentialed⟩
    exact ⟨_, settles_iff.mpr ⟨given, cert, key, layered, credentialed, rfl⟩⟩

/-- Either the run is refused or it has its settings. -/
theorem refused_or_settles (config : Config) (tree : FileTree) (overrides : Overrides)
    (home : LocalPath) (user : Option String) :
    (∃ fault, Refused overrides (config.environmentOf overrides) (config.chosenEntry overrides)
      fault) ∨
    (∃ settings, config.Settles tree overrides home user (config.environmentOf overrides)
      (config.chosenEntry overrides) settings) := by
  by_cases ungiven : Ungiven overrides.gwUrl (config.chosenEntry overrides).gwUrl
  · exact Or.inl ⟨_, .gateway ungiven⟩
  · by_cases paired : Ungiven overrides.cert (config.chosenEntry overrides).cert ↔
        Ungiven overrides.key (config.chosenEntry overrides).key
    · exact Or.inr (exists_settles_iff.mpr ⟨ungiven, paired⟩)
    · have half := (not_iff_comm.mp (not_iff.mp paired)).symm
      exact Or.inl ⟨_, .credentials ungiven half⟩

theorem resolve_eq_error_iff {fault : LocalFault} :
    (config.resolve tree overrides home user).result = .error fault ↔
      Refused overrides (config.environmentOf overrides) (config.chosenEntry overrides) fault := by
  refine ⟨fun failed => ?_, Refused.result⟩
  rcases refused_or_settles config tree overrides home user with ⟨other, refused⟩ |
    ⟨settings, settles⟩
  · cases failed.symm.trans refused.result
    exact refused
  · cases failed.symm.trans settles.result

theorem resolve_eq_ok_iff :
    (config.resolve tree overrides home user).result = .ok settings ↔
      config.Settles tree overrides home user (config.environmentOf overrides)
        (config.chosenEntry overrides) settings := by
  refine ⟨fun settled => ?_, Settles.result⟩
  rcases refused_or_settles config tree overrides home user with ⟨fault, refused⟩ |
    ⟨other, settles⟩
  · cases settled.symm.trans refused.result
  · cases settled.symm.trans settles.result
    exact settles

/-- Entries of other environments make no difference. -/
theorem resolve_of_lookup_eq {environments : List (String × Environment)}
    (same : environments.lookup (config.environmentOf overrides) =
      config.environments.lookup (config.environmentOf overrides)) :
    ({ config with environments } : Config).resolve tree overrides home user =
      config.resolve tree overrides home user := by
  have sameEntry : ({ config with environments } : Config).entry (config.environmentOf overrides) =
      config.entry (config.environmentOf overrides) :=
    congrArg (fun found => found.getD Environment.none) same
  unfold environmentOf at sameEntry
  simp only [resolve, sameEntry]

/-- Every setting of a run comes from its layers. The run is refused for its gateway exactly when
nothing names one, and else for its credentials exactly when half a pair is given. Otherwise each
setting has one value: the override, else the configured one, else the default, and neither URL ends
in a slash. Of the entries only that of the environment that is worked on matters. -/
theorem resolve_layered (config : Config) (tree : FileTree) (overrides : Overrides)
    (home : LocalPath) (user : Option String) :
    ∃ env entry,
      Layered overrides.env config.defaultEnv (some "live") (some env) ∧
      entry = (config.environments.lookup env).getD .none ∧
      (∀ fault, (config.resolve tree overrides home user).result = .error fault ↔
        Refused overrides env entry fault) ∧
      (∀ settings, (config.resolve tree overrides home user).result = .ok settings ↔
        config.Settles tree overrides home user env entry settings) ∧
      ((∃ settings, (config.resolve tree overrides home user).result = .ok settings) ↔
        ¬Ungiven overrides.gwUrl entry.gwUrl ∧
          (Ungiven overrides.cert entry.cert ↔ Ungiven overrides.key entry.key)) ∧
      (∀ settings, (config.resolve tree overrides home user).result = .ok settings →
        settings.gwUrl.toList.getLast? ≠ some '/' ∧
        settings.uploadUrl.toList.getLast? ≠ some '/' ∧
        settings.cert.isSome = settings.key.isSome) ∧
      ∀ environments : List (String × Environment),
        environments.lookup env = config.environments.lookup env →
          ({ config with environments } : Config).resolve tree overrides home user =
            config.resolve tree overrides home user := by
  refine ⟨config.environmentOf overrides, config.chosenEntry overrides, layered_some_iff.mpr rfl,
    rfl, fun fault => resolve_eq_error_iff, fun settings => resolve_eq_ok_iff, ?_, ?_,
    fun environments => resolve_of_lookup_eq⟩
  · simp only [resolve_eq_ok_iff]
    exact exists_settles_iff
  · intro settings settled
    have settles := resolve_eq_ok_iff.mp settled
    exact ⟨settles.slashless.1, settles.slashless.2, settles.credentials.isSome_eq⟩

section Mixed

/-- The home of the user. -/
def mixedHome : LocalPath := ⟨[47, 104]⟩

/-- The user `u` has both files in the usual place. -/
def mixedTree : FileTree :=
  ⟨[([[104]], .directory), ([[104], [99, 101, 114, 116, 115]], .directory),
    ([[104], [99, 101, 114, 116, 115], [117, 46, 99, 114, 116]], .file [49]),
    ([[104], [99, 101, 114, 116, 115], [117, 46, 107, 101, 121]], .file [50])], [], []⟩

/-- An entry with a gateway and one half of the credentials. -/
def mixedEntry : Environment :=
  ⟨some "https://gw//", none, none, some (.ofString "/pre.key"), none⟩

/-- A configuration that has two environments and uses the second by default. -/
def mixedConfig : Config :=
  ⟨some "pre", none, none, some 9, [("live", .none), ("pre", mixedEntry)]⟩

/-- The other half of the credentials is given with the command, and more. -/
def mixedOverrides : Overrides :=
  ⟨none, none, some "http://blobs/", some (.ofString "/own.crt"), none, none, some 0⟩

/-- What the layers come to. -/
def mixedSettings : Settings :=
  ⟨"pre", "https://gw", "http://blobs", some (.ofString "/own.crt"), some (.ofString "/pre.key"),
    none, 0, 3, 9⟩

theorem mixedSettings_settles :
    mixedConfig.Settles mixedTree mixedOverrides mixedHome (some "u") "pre" mixedEntry
      mixedSettings where
  env := rfl
  gwUrl := ⟨_, .configured .., ⟨2, rfl⟩, by decide⟩
  uploadUrl := Or.inl ⟨_, .overridden .., ⟨1, rfl⟩, by decide⟩
  credentials := .given (.overridden ..) (.configured ..)
  caBundle := .fallback _
  pollInterval := .overridden ..
  fetchRetries := .fallback _
  timeout := .configured ..

/-- Another environment is named, whose entry says nothing, and a gateway. -/
def bareOverrides : Overrides :=
  ⟨some "live", some "http://gw/", none, none, none, none, none⟩

/-- What is left to the defaults but for the gateway, with the usual credentials. -/
def bareSettings : Settings :=
  ⟨"live", "http://gw", "http://gw/upload", some (.ofString "/h/certs/u.crt"),
    some (.ofString "/h/certs/u.key"), none, 5, 3, 9⟩

theorem usualPair_mixedTree :
    UsualPair mixedTree mixedHome (some "u") (.ofString "/h/certs/u.crt")
      (.ofString "/h/certs/u.key") := by
  have hasCert : mixedTree.hasFile (usualFile mixedHome "u" ".crt") = true := by cbv
  have hasKey : mixedTree.hasFile (usualFile mixedHome "u" ".key") = true := by cbv
  have atCert : usualFile mixedHome "u" ".crt" = .ofString "/h/certs/u.crt" := by cbv
  have atKey : usualFile mixedHome "u" ".key" = .ofString "/h/certs/u.key" := by cbv
  rw [← atCert, ← atKey]
  exact .there "u" hasCert hasKey

theorem bareSettings_settles :
    mixedConfig.Settles mixedTree bareOverrides mixedHome (some "u") "live" .none bareSettings where
  env := rfl
  gwUrl := ⟨_, .overridden .., ⟨1, rfl⟩, by decide⟩
  uploadUrl := Or.inr ⟨⟨rfl, rfl⟩, by decide⟩
  credentials := .usual ⟨rfl, rfl⟩ ⟨rfl, rfl⟩ usualPair_mixedTree
  caBundle := .fallback _
  pollInterval := .fallback _
  fetchRetries := .fallback _
  timeout := .configured ..

/-- A pair may come from two layers, and half a pair is refused although the usual pair is there.
With neither half given the usual pair is used. The entry of an environment that is not worked on
may be left out. -/
theorem resolve_layered_mixed :
    (mixedConfig.resolve mixedTree mixedOverrides mixedHome (some "u")).result =
      .ok mixedSettings ∧
    (mixedConfig.resolve mixedTree { mixedOverrides with cert := none } mixedHome
      (some "u")).result = .error (.incompleteCredentials "pre") ∧
    (mixedConfig.resolve mixedTree bareOverrides mixedHome (some "u")).result = .ok bareSettings ∧
    ({ mixedConfig with environments := [("pre", mixedEntry)] } : Config).resolve mixedTree
        mixedOverrides mixedHome (some "u") =
      mixedConfig.resolve mixedTree mixedOverrides mixedHome (some "u") := by
  refine ⟨?_, ?_, ?_, ?_⟩
  · rcases resolve_layered mixedConfig mixedTree mixedOverrides mixedHome (some "u") with
      ⟨env, entry, chosen, found, -, settled, -⟩
    cases chosen
    cases found
    exact (settled _).mpr mixedSettings_settles
  · rcases resolve_layered mixedConfig mixedTree { mixedOverrides with cert := none } mixedHome
      (some "u") with ⟨env, entry, chosen, found, refused, -⟩
    cases chosen
    cases found
    exact (refused _).mpr (.credentials (fun ungiven => nomatch ungiven.2)
      (iff_of_true ⟨rfl, rfl⟩ fun ungiven => nomatch ungiven.2))
  · rcases resolve_layered mixedConfig mixedTree bareOverrides mixedHome (some "u") with
      ⟨env, entry, chosen, found, -, settled, -⟩
    cases chosen
    cases found
    exact (settled _).mpr bareSettings_settles
  · rcases resolve_layered mixedConfig mixedTree mixedOverrides mixedHome (some "u") with
      ⟨env, entry, chosen, found, -, -, -, -, independent⟩
    cases chosen
    exact independent _ rfl

end Mixed

end Config

end CdnPublish
