import SourceHarvest.Proofs.Configuration.Wording

/-!
# Loading a configuration

The values of the environment are read one after the other, and the first that is not acceptable by
itself is complained about.  Where all are acceptable, every setting is as it is given or else has its
default, and only then the settings are checked against each other.
-/

namespace SourceHarvest

namespace Environment

/-- A setting has the value that stands under its key, or its default where the key is not set. -/
def Gives {α : Type} (environment : Environment) (key : String) (spells : String → α → Prop)
    (fallback value : α) : Prop :=
  match environment key with
  | none => value = fallback
  | some text => spells text value

/-- What is read under a key: which values are acceptable by themselves, and what is said of any
other.  The complaint starts with the key. -/
structure Reading where
  key : String
  accepts : String → Prop
  complaint : String → String
  names : ∀ text, key.toList <+: (complaint text).toList

namespace Reading

/-- A setting that is worded in some way. -/
def setting {α : Type} (spells : String → α → Prop) (key : String) : Reading where
  key
  accepts text := ∃ value, spells text value
  complaint text := s!"{key} has invalid value '{text}'"
  names text := by
    simp only [String.toList_append, List.append_assoc]
    exact List.prefix_append _ _

/-- The service that is asked for. -/
def service : Reading where
  key := "EMBEDDING_PROVIDER"
  accepts text := ∃ backend, IsService text backend
  complaint text :=
    s!"EMBEDDING_PROVIDER must be 'ollama' or 'openai', got '{Text.lowercase (Text.trim text)}'"
  names text := by
    have starts : "EMBEDDING_PROVIDER".toList <+:
        "EMBEDDING_PROVIDER must be 'ollama' or 'openai', got '".toList := by decide
    simp only [String.toList_append, List.append_assoc]
    exact starts.trans (List.prefix_append _ _)

/-- All values that can be unacceptable by themselves, in the order in which they are read. -/
def all : List Reading :=
  [ setting IsWord "INGEST_MAX_DEPTH",
    setting IsWord "INGEST_BATCH_SIZE",
    setting IsWord "INGEST_CONCURRENCY",
    setting IsWord "INGEST_MAX_CHUNK_SIZE",
    setting IsWord "INGEST_CHUNK_OVERLAP",
    setting IsWord "INGEST_HARD_TOKEN_LIMIT",
    setting IsTruth "INGEST_WHOLE_FILE_FALLBACK",
    setting IsTruth "INGEST_EVICT_STALE",
    setting IsTruth "INGEST_FORCE",
    service,
    setting IsWord "EMBEDDING_BATCH_SIZE" ]

/-- The value under the key is acceptable, if there is one. -/
def Fine (reading : Reading) (environment : Environment) : Prop :=
  ∀ text, environment reading.key = some text → reading.accepts text

end Reading

/-- Settings are read up to the first value that is not acceptable, and have some property if there is
none. -/
inductive Reads {α : Type} (environment : Environment) (good : α → Prop) :
    List Reading → Except Failure α → Prop where
  | done {readings : List Reading} {value : α}
      (fine : ∀ reading ∈ readings, reading.Fine environment) (holds : good value) :
      Reads environment good readings (.ok value)
  | refused {earlier later : List Reading} {reading : Reading} {text : String}
      (fine : ∀ other ∈ earlier, other.Fine environment)
      (set : environment reading.key = some text) (unfit : ¬ reading.accepts text) :
      Reads environment good (earlier ++ reading :: later)
        (Configuration.reject (reading.complaint text))

variable {α β : Type} {environment : Environment} {good : α → Prop} {further : β → Prop}
  {readings rest : List Reading} {reading : Reading} {result : Except Failure α}

namespace Reads

/-- Settings are read one after the other. -/
theorem bind {next : α → Except Failure β} (reads : Reads environment good readings result)
    (goesOn : ∀ value, good value → Reads environment further rest (next value)) :
    Reads environment further (readings ++ rest) (result >>= next) := by
  cases reads with
  | @done _ value fine holds =>
      have others := goesOn value holds
      change Reads environment further (readings ++ rest) (next value)
      generalize next value = final at others
      cases others with
      | done others holds => exact .done (List.forall_mem_append.mpr ⟨fine, others⟩) holds
      | refused others set unfit =>
          rw [← List.append_assoc]
          exact .refused (List.forall_mem_append.mpr ⟨fine, others⟩) set unfit
  | refused fine set unfit =>
      rw [List.append_assoc]
      exact .refused fine set unfit

theorem cons {next : α → Except Failure β} (reads : Reads environment good [reading] result)
    (goesOn : ∀ value, good value → Reads environment further rest (next value)) :
    Reads environment further (reading :: rest) (result >>= next) :=
  reads.bind goesOn

theorem map {change : α → β} (reads : Reads environment good readings result)
    (goesOn : ∀ value, good value → further (change value)) :
    Reads environment further readings (result >>= fun value => pure (change value)) := by
  have whole := reads.bind fun value holds =>
    Reads.done (List.forall_mem_nil _) (goesOn value holds)
  rwa [List.append_nil] at whole

/-! A single setting is not there, or it is acceptable, or it is complained about. -/

variable {text : String} {value : α}

theorem unset (unset : environment reading.key = none) (holds : good value) :
    Reads environment good [reading] (.ok value) := by
  refine .done (List.forall_mem_singleton.mpr fun text set => ?_) holds
  cases unset.symm.trans set

theorem accepted (set : environment reading.key = some text) (fit : reading.accepts text)
    (holds : good value) : Reads environment good [reading] (.ok value) := by
  refine .done (List.forall_mem_singleton.mpr fun other given => ?_) holds
  rwa [← Option.some.inj (set.symm.trans given)]

theorem complained (set : environment reading.key = some text) (unfit : ¬ reading.accepts text) :
    Reads environment good [reading] (Configuration.reject (reading.complaint text)) :=
  have none : ∀ other ∈ ([] : List Reading), other.Fine environment := List.forall_mem_nil _
  .refused none set unfit

end Reads

/-! ## Single settings -/

theorem gives_of_unset {spells : String → α → Prop} {key : String} (unset : environment key = none)
    (fallback : α) : environment.Gives key spells fallback fallback := by
  rw [Gives, unset]

theorem gives_of_set {spells : String → α → Prop} {key text : String} {value : α}
    (set : environment key = some text) (spelled : spells text value) (fallback : α) :
    environment.Gives key spells fallback value := by
  rwa [Gives, set]

/-- A value is read exactly if it is worded in the way of its setting. -/
theorem reads_setting {spells : String → α → Prop} {read : String → Option α}
    (found : ∀ {text value}, read (Text.trim text) = some value ↔ spells text value) (key : String)
    (fallback : α) : Reads environment (environment.Gives key spells fallback)
      [.setting spells key] (environment.setting key read fallback) := by
  rw [Environment.setting]
  cases set : environment key with
  | none => exact .unset set (gives_of_unset set fallback)
  | some text =>
      simp only
      cases worded : read (Text.trim text) with
      | none =>
          have unfit : ¬ (Reading.setting spells key).accepts text := fun ⟨value, spelled⟩ => by
            cases worded.symm.trans (found.mpr spelled)
          exact .complained set unfit
      | some value =>
          have spelled := found.mp worded
          exact .accepted set ⟨value, spelled⟩ (gives_of_set set spelled fallback)

theorem isService_iff {text : String} {backend : EmbeddingBackend} :
    IsService text backend ↔ Text.lowercase (Text.trim text) = serviceName backend := by
  simp only [IsService, Text.trimsTo_iff, Text.lowercase, toList_trim, exists_eq_left',
    ← String.toList_inj, String.toList_ofList]

theorem reads_backend :
    Reads environment (environment.Gives "EMBEDDING_PROVIDER" IsService .ollama) [.service]
      environment.backend := by
  rw [backend]
  cases set : environment "EMBEDDING_PROVIDER" with
  | none => exact .unset set (gives_of_unset set _)
  | some text =>
      have known {backend : EmbeddingBackend}
          (named : Text.lowercase (Text.trim text) = serviceName backend) :
          Reads environment (environment.Gives "EMBEDDING_PROVIDER" IsService .ollama) [.service]
            (.ok backend) :=
        have named := isService_iff.mpr named
        .accepted set ⟨backend, named⟩ (gives_of_set set named _)
      simp only
      split
      · rename_i named
        exact known named
      split
      · rename_i named
        exact known named
      · rename_i noOllama noOpenai
        have unfit : ¬ Reading.service.accepts text := by
          rintro ⟨backend, named⟩
          cases backend
          · exact noOllama (isService_iff.mp named)
          · exact noOpenai (isService_iff.mp named)
        exact .complained set unfit

/-- There is one value at most if the text under the key spells one at most. -/
theorem Gives.unique {spells : String → α → Prop} {key : String} {fallback one another : α}
    (functional : Relator.RightUnique spells) (gives : environment.Gives key spells fallback one)
    (other : environment.Gives key spells fallback another) : one = another := by
  rw [Gives] at gives other
  cases set : environment key with
  | none =>
      rw [set] at gives other
      exact gives.trans other.symm
  | some text =>
      rw [set] at gives other
      exact functional gives other

theorem rightUnique_isWord : Relator.RightUnique IsWord := fun _ _ _ one another =>
  Option.some.inj ((wordOfText?_trim_eq_some_iff.mpr one).symm.trans
    (wordOfText?_trim_eq_some_iff.mpr another))

theorem rightUnique_lists : Relator.RightUnique Lists := fun _ _ _ one another =>
  (lists_iff.mp one).symm.trans (lists_iff.mp another)

theorem rightUnique_isService : Relator.RightUnique IsService := fun _ one another named other => by
  have same := (isService_iff.mp named).symm.trans (isService_iff.mp other)
  cases one <;> cases another <;> first | rfl | exact absurd same (by decide)

/-- A setting that takes any value is read without complaint. -/
theorem gives_getD {spells : String → α → Prop} {read : String → α}
    (spelled : ∀ text, spells text (read text)) (key : String) (fallback : α) :
    environment.Gives key spells fallback (((environment key).map read).getD fallback) := by
  rw [Gives]
  cases environment key with
  | none => rfl
  | some text => exact spelled text

theorem gives_plain (key fallback : String) :
    environment.Gives key (fun text value => value = text) fallback
      ((environment key).getD fallback) := by
  rw [Gives]
  cases environment key <;> rfl

theorem gives_path (key : String) (fallback : Path) :
    environment.Gives key (fun text path => path = ⟨text⟩) fallback
      (((environment key).map Path.mk).getD fallback) :=
  gives_getD (fun _ => by rfl) key fallback

/-- How embeddings are computed: as it is given, or else by default.  The default model depends on the
service. -/
structure HoldsEmbedding (environment : Environment) (base settings : EmbeddingSettings) : Prop where
  backend : environment.Gives "EMBEDDING_PROVIDER" IsService .ollama settings.backend
  ollamaHost : environment.Gives "OLLAMA_HOST" (fun text value => value = text) base.ollamaHost
    settings.ollamaHost
  model : environment.Gives "EMBEDDING_MODEL" (fun text value => value = text)
    (match settings.backend with
      | .ollama => base.model
      | .openai => "text-embedding-3-small")
    settings.model
  openaiKey : settings.openaiKey = environment "OPENAI_API_KEY"
  batchSize : environment.Gives "EMBEDDING_BATCH_SIZE" IsWord base.batchSize settings.batchSize

theorem reads_embedding (base : EmbeddingSettings) :
    Reads environment (environment.HoldsEmbedding base)
      [.service, .setting IsWord "EMBEDDING_BATCH_SIZE"] (environment.embedding base) := by
  refine reads_backend.cons fun backend service => ?_
  refine (reads_setting wordOfText?_trim_eq_some_iff _ _).map fun batchSize counted => ?_
  exact
    { backend := service
      ollamaHost := gives_plain _ _
      model := gives_plain _ _
      openaiKey := rfl
      batchSize := counted }

end Environment

namespace Configuration

open Environment

/-- Every setting is as it is given, or else as in another configuration.  A root directory may also be
given apart from the environment. -/
structure Holds (environment : Environment) (given : Option Path) (base configuration : Configuration) :
    Prop where
  root : match given with
    | some path => configuration.root = path
    | none => environment.Gives "INGEST_ROOT" (fun text path => path = ⟨text⟩) base.root
        configuration.root
  extensions : environment.Gives "INGEST_EXTENSIONS" ListsExtensions base.extensions
    configuration.extensions
  excludedNames : environment.Gives "INGEST_EXCLUDE_DIRS" Lists base.excludedNames
    configuration.excludedNames
  greatestDepth : environment.Gives "INGEST_MAX_DEPTH" IsWord base.greatestDepth
    configuration.greatestDepth
  ignoreFile : configuration.ignoreFile = base.ignoreFile
  batchSize : environment.Gives "INGEST_BATCH_SIZE" IsWord base.batchSize configuration.batchSize
  concurrency : environment.Gives "INGEST_CONCURRENCY" IsWord base.concurrency
    configuration.concurrency
  greatest : environment.Gives "INGEST_MAX_CHUNK_SIZE" IsWord base.window.greatest
    configuration.window.greatest
  overlap : environment.Gives "INGEST_CHUNK_OVERLAP" IsWord base.window.overlap
    configuration.window.overlap
  hardTokenLimit : environment.Gives "INGEST_HARD_TOKEN_LIMIT" IsWord base.hardTokenLimit
    configuration.hardTokenLimit
  cachePath : environment.Gives "INGEST_CACHE_PATH" (fun text path => path = ⟨text⟩) base.cachePath
    configuration.cachePath
  wholeFileFallback : environment.Gives "INGEST_WHOLE_FILE_FALLBACK" IsTruth base.wholeFileFallback
    configuration.wholeFileFallback
  evictStale : environment.Gives "INGEST_EVICT_STALE" IsTruth base.evictStale
    configuration.evictStale
  force : environment.Gives "INGEST_FORCE" IsTruth base.force configuration.force
  logFile : environment.Gives "INGEST_LOG_FILE" (fun text path => path = some ⟨text⟩) base.logFile
    configuration.logFile
  /-- The units of a language depend on its own key and on nothing else. -/
  units : ∀ language : Language, ∃ units, configuration.unitsFor? language.tag = some units ∧
    environment.Gives (unitsKey language.tag) Lists language.defaultUnits units
  languages : configuration.units.map Prod.fst = base.units.map Prod.fst
  embedding : environment.HoldsEmbedding base.embedding configuration.embedding
  address : environment.Gives "MILVUS_ADDRESS" (fun text value => value = text) base.store.address
    configuration.store.address
  collection : environment.Gives "MILVUS_COLLECTION" (fun text value => value = text)
    base.store.collection configuration.store.collection

theorem lookup_tags {α : Type} (held : Language → α) (language : Language) :
    (Language.all.map fun other => (other.tag, held other)).lookup language.tag =
      some (held language) := by
  cases language <;> rfl

variable {environment : Environment} {given : Option Path} {base configuration : Configuration}

/-- The settings are read in the order of the table, and are as they are given or else by default. -/
theorem reads_readSettings (environment : Environment) (given : Option Path) (home current : Path) :
    Reads environment (Holds environment given (default current home)) Reading.all
      (readSettings environment (environment.root given current) home) := by
  rw [readSettings]
  refine (reads_setting wordOfText?_trim_eq_some_iff _ _).cons fun greatestDepth deep => ?_
  refine (reads_setting wordOfText?_trim_eq_some_iff _ _).cons fun batchSize batched => ?_
  refine (reads_setting wordOfText?_trim_eq_some_iff _ _).cons fun concurrency concurrent => ?_
  refine (reads_setting wordOfText?_trim_eq_some_iff _ _).cons fun greatest long => ?_
  refine (reads_setting wordOfText?_trim_eq_some_iff _ _).cons fun overlap shared => ?_
  refine (reads_setting wordOfText?_trim_eq_some_iff _ _).cons fun hardTokenLimit limited => ?_
  refine (reads_setting booleanOfText?_trim_eq_some_iff _ _).cons fun wholeFileFallback whole => ?_
  refine (reads_setting booleanOfText?_trim_eq_some_iff _ _).cons fun evictStale evicts => ?_
  refine (reads_setting booleanOfText?_trim_eq_some_iff _ _).cons fun force forced => ?_
  refine (reads_embedding _).map fun embedding embeds => ?_
  exact
    { root := by
        rw [Environment.root.eq_def]
        cases given with
        | none => exact gives_path _ _
        | some path => rfl
      extensions := gives_getD listsExtensions_extensionsOfText _ _
      excludedNames := gives_getD lists_listOfText _ _
      greatestDepth := deep
      ignoreFile := rfl
      batchSize := batched
      concurrency := concurrent
      greatest := long
      overlap := shared
      hardTokenLimit := limited
      cachePath := gives_path _ _
      wholeFileFallback := whole
      evictStale := evicts
      force := forced
      logFile := by
        rw [Gives]
        cases environment "INGEST_LOG_FILE" <;> rfl
      units := fun language => by
        refine ⟨_, ?_, gives_getD lists_listOfText (unitsKey language.tag) language.defaultUnits⟩
        rw [unitsFor?, ← lookup_tags fun other =>
          ((environment (unitsKey other.tag)).map listOfText).getD other.defaultUnits]
        rw [default, defaultUnits, List.map_map]
        rfl
      languages := by
        rw [List.map_map]
        rfl
      embedding := embeds
      address := gives_plain _ _
      collection := gives_plain _ _ }

/-- The settings go together: windows get ahead, something is worked on at a time, and there is a key for
the service that asks for one. -/
structure Coherent (configuration : Configuration) : Prop where
  greatest : 0 < configuration.window.greatest
  overlap : configuration.window.overlap < configuration.window.greatest
  batchSize : 0 < configuration.batchSize
  concurrency : 0 < configuration.concurrency
  openaiKey : configuration.embedding.backend = .openai → configuration.embedding.openaiKey.isSome

/-- Settings are accepted exactly if they go together, and a complaint is about the configuration. -/
theorem validate_cases (configuration : Configuration) :
    (configuration.validate = .ok () ∧ configuration.Coherent) ∨
      ∃ detail, configuration.validate = reject detail ∧ ¬ configuration.Coherent := by
  simp only [validate]
  split
  · rename_i none
    exact .inr ⟨_, rfl, fun coherent => absurd coherent.greatest (by omega)⟩
  split
  · rename_i wide
    exact .inr ⟨_, rfl, fun coherent => absurd coherent.overlap (by omega)⟩
  split
  · rename_i idle
    refine .inr ⟨_, rfl, fun coherent => ?_⟩
    have := coherent.batchSize
    have := coherent.concurrency
    omega
  split
  · rename_i locked
    refine .inr ⟨_, rfl, fun coherent => ?_⟩
    have key := coherent.openaiKey locked.1
    rw [Option.isNone_iff_eq_none.mp locked.2] at key
    cases key
  · rename_i positive narrow busy unlocked
    refine .inl ⟨rfl, ⟨by omega, by omega, by omega, by omega, fun asked => ?_⟩⟩
    by_contra missing
    exact unlocked ⟨asked, by simpa using missing⟩

/-- What is given in an environment, or else the default, goes together. -/
structure GivesCoherent (environment : Environment) (base : Configuration) : Prop where
  window : ∃ greatest overlap,
    environment.Gives "INGEST_MAX_CHUNK_SIZE" IsWord base.window.greatest greatest ∧
    environment.Gives "INGEST_CHUNK_OVERLAP" IsWord base.window.overlap overlap ∧
    0 < greatest ∧ overlap < greatest
  batchSize : ∃ batchSize,
    environment.Gives "INGEST_BATCH_SIZE" IsWord base.batchSize batchSize ∧ 0 < batchSize
  concurrency : ∃ concurrency,
    environment.Gives "INGEST_CONCURRENCY" IsWord base.concurrency concurrency ∧ 0 < concurrency
  openaiKey : ∃ backend, environment.Gives "EMBEDDING_PROVIDER" IsService .ollama backend ∧
    (backend = .openai → (environment "OPENAI_API_KEY").isSome)

namespace Holds

theorem coherent_iff (holds : Holds environment given base configuration) :
    configuration.Coherent ↔ GivesCoherent environment base := by
  constructor
  · rintro ⟨greatest, overlap, batchSize, concurrency, openaiKey⟩
    refine ⟨⟨_, _, holds.greatest, holds.overlap, greatest, overlap⟩, ⟨_, holds.batchSize, batchSize⟩,
      ⟨_, holds.concurrency, concurrency⟩, ⟨_, holds.embedding.backend, ?_⟩⟩
    rwa [← holds.embedding.openaiKey]
  · rintro ⟨⟨greatest, overlap, long, shared, positive, narrow⟩, ⟨batchSize, batched, busy⟩,
      ⟨concurrency, concurrent, working⟩, ⟨backend, service, unlocked⟩⟩
    obtain rfl := holds.greatest.unique rightUnique_isWord long
    obtain rfl := holds.overlap.unique rightUnique_isWord shared
    obtain rfl := holds.batchSize.unique rightUnique_isWord batched
    obtain rfl := holds.concurrency.unique rightUnique_isWord concurrent
    obtain rfl := holds.embedding.backend.unique rightUnique_isService service
    rw [← holds.embedding.openaiKey] at unlocked
    exact ⟨positive, narrow, busy, working, unlocked⟩

/-- The units of a language are the same wherever the same stands under its key. -/
theorem unitsFor?_eq {other : Environment} {givenOther : Option Path}
    {baseOther another : Configuration} (holds : Holds environment given base configuration)
    (holdsOther : Holds other givenOther baseOther another) {language : Language}
    (same : other (unitsKey language.tag) = environment (unitsKey language.tag)) :
    another.unitsFor? language.tag = configuration.unitsFor? language.tag := by
  obtain ⟨units, found, gives⟩ := holds.units language
  obtain ⟨unitsOther, foundOther, givesOther⟩ := holdsOther.units language
  rw [Gives, same] at givesOther
  rw [found, foundOther, gives.unique rightUnique_lists givesOther]

end Holds

/-- The complaint is about the first value that is not acceptable by itself, and names its key. -/
def ComplainsOfFirst (environment : Environment) (detail : String) : Prop :=
  ∃ earlier reading later text, Reading.all = earlier ++ reading :: later ∧
    (∀ other ∈ earlier, other.Fine environment) ∧ environment reading.key = some text ∧
    ¬ reading.accepts text ∧ detail = reading.complaint text ∧ reading.key.toList <+: detail.toList

/-- How loading a configuration ends: it succeeds exactly if every value that is given is acceptable by
itself and all values, given or by default, go together.  Then everything is as it is given.  Otherwise
the complaint is about the first value that is not acceptable, if there is one. -/
structure Loads (environment : Environment) (given : Option Path) (base : Configuration)
    (loaded : Except Failure Configuration) : Prop where
  succeeds : (∃ configuration, loaded = .ok configuration) ↔
    (∀ reading ∈ Reading.all, reading.Fine environment) ∧ GivesCoherent environment base
  holds : ∀ configuration, loaded = .ok configuration →
    configuration.validate = .ok () ∧ Holds environment given base configuration
  complains : ∀ failure, loaded = .error failure → ∃ detail,
    failure = Failure.ofCause (.configuration detail) ∧
    ((∃ reading ∈ Reading.all, ¬ reading.Fine environment) → ComplainsOfFirst environment detail)

namespace Loads

theorem accepted (fine : ∀ reading ∈ Reading.all, reading.Fine environment)
    (valid : configuration.validate = .ok ()) (coherent : configuration.Coherent)
    (holds : Holds environment given base configuration) :
    Loads environment given base (.ok configuration) where
  succeeds := iff_of_true ⟨configuration, rfl⟩ ⟨fine, holds.coherent_iff.mp coherent⟩
  holds other same := by
    obtain rfl := Except.ok.inj same
    exact ⟨valid, holds⟩
  complains failure failed := by cases failed

theorem rejected {detail : String}
    (unfit : ¬ ((∀ reading ∈ Reading.all, reading.Fine environment) ∧ GivesCoherent environment base))
    (first : (∃ reading ∈ Reading.all, ¬ reading.Fine environment) →
      ComplainsOfFirst environment detail) :
    Loads environment given base (reject detail) where
  succeeds := by
    refine iff_of_false ?_ unfit
    rintro ⟨configuration, loaded⟩
    cases loaded
  holds configuration loaded := by cases loaded
  complains failure failed := ⟨detail, (Except.error.inj failed).symm, first⟩

end Loads

/-- Settings that are read one after the other and checked at the end. -/
theorem loads_of_reads {read : Except Failure Configuration}
    (reads : Reads environment (Holds environment given base) Reading.all read) :
    Loads environment given base (read >>= fun configuration => do
      configuration.validate
      pure configuration) := by
  generalize readings : Reading.all = all at reads
  cases reads with
  | @done _ configuration fine holds =>
      rw [← readings] at fine
      change Loads environment given base (do configuration.validate; pure configuration)
      rcases validate_cases configuration with ⟨valid, coherent⟩ | ⟨detail, invalid, incoherent⟩
      · rw [valid]
        exact .accepted fine valid coherent holds
      · rw [invalid]
        refine .rejected (fun ⟨_, together⟩ => incoherent (holds.coherent_iff.mpr together)) ?_
        rintro ⟨reading, member, unfit⟩
        exact absurd (fine reading member) unfit
  | @refused earlier later reading text fine set unfit =>
      have refused : ¬ reading.Fine environment := fun acceptable => unfit (acceptable text set)
      have member : reading ∈ Reading.all := by
        rw [readings]
        exact List.mem_append_right _ List.mem_cons_self
      exact .rejected (fun ⟨acceptable, _⟩ => refused (acceptable reading member)) fun _ =>
        ⟨earlier, reading, later, text, readings, fine, set, unfit, rfl, reading.names text⟩

/-- Different languages have their units under different keys. -/
theorem unitsKey_tag_injective : Function.Injective fun language : Language => unitsKey language.tag := by
  intro one another same
  cases one <;> cases another <;> first | rfl | exact absurd same (by decide +kernel)

/-- A configuration is loaded exactly if every value that is given is acceptable by itself and all
values go together; it passes the checks and is as it is given; and whatever is wrong is a failure of the
configuration that names the first unacceptable value.  The units of each language have a key of their
own and depend on nothing else. -/
theorem loading_is_complete (environment : Environment) (given : Option Path) (home : Option String)
    (current : Path) :
    Loads environment given (default current (homeOr home))
      (ofEnvironment environment given home current) ∧
    (Function.Injective fun language : Language => unitsKey language.tag) ∧
    ∀ (other : Environment) (language : Language) (configuration another : Configuration),
      other (unitsKey language.tag) = environment (unitsKey language.tag) →
      ofEnvironment environment given home current = .ok configuration →
      ofEnvironment other given home current = .ok another →
      another.unitsFor? language.tag = configuration.unitsFor? language.tag := by
  have loads (environment : Environment) : Loads environment given (default current (homeOr home))
      (ofEnvironment environment given home current) :=
    loads_of_reads (reads_readSettings environment given (homeOr home) current)
  refine ⟨loads environment, unitsKey_tag_injective, ?_⟩
  intro other language configuration another same loaded loadedOther
  have holds := ((loads environment).holds configuration loaded).2
  exact holds.unitsFor?_eq ((loads other).holds another loadedOther).2 same

/-- A small window does not go with the default overlap. -/
example : ofEnvironment (fun key => if key = "INGEST_MAX_CHUNK_SIZE" then some " 100 " else none) none
    none ⟨"/work"⟩ =
      reject "chunk overlap (200) must be smaller than max chunk size (100)" := by
  rfl

end Configuration

end SourceHarvest
