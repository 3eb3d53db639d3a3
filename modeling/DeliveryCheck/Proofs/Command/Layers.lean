import Mathlib
import DeliveryCheck.Command.Machine
import DeliveryCheck.Command.Session
import DeliveryCheck.Proofs.Scenario.Timing

namespace DeliveryCheck

def Config.checked (config : Config) : Except Error Config := config.check.map fun _ => config

theorem Config.checked_eq_ok_iff {config loaded : Config} :
    config.checked = .ok loaded ↔ config.check = .ok () ∧ config = loaded := by
  rw [checked]
  cases config.check <;> simp [Except.map]

theorem Config.checked_eq_error_iff {config : Config} {fault : Error} :
    config.checked = .error fault ↔ config.check = .error fault := by
  rw [checked]
  cases config.check <;> simp [Except.map]

namespace Command

variable {options : Options} {environment : Environment} {base config : Config}

/-- How settings come from those of a file, the environment and the options. -/
structure Overlaid (options : Options) (environment : Environment) (base config : Config) : Prop where
  url_of_option : ∀ url, options.databaseUrl = some url → config.database.url = url
  url_of_environment : options.databaseUrl = none →
    ∀ url, environment.get? "DATABASE_URL" = some url → isBlankText url = false →
      config.database.url = url
  url_of_base : options.databaseUrl = none →
    (∀ url, environment.get? "DATABASE_URL" = some url → isBlankText url = true) →
      config.database.url = base.database.url
  table_of_option : ∀ table, options.table = some table → config.database.table = table
  table_of_base : options.table = none → config.database.table = base.database.table
  concurrent_iff : config.run.concurrent = true ↔
    base.run.concurrent = true ∨ options.concurrent = true
  maxConnections : config.database.maxConnections = base.database.maxConnections
  acquireTimeoutSecs : config.database.acquireTimeoutSecs = base.database.acquireTimeoutSecs
  polling : config.polling = base.polling
  graceSecs : config.run.graceSecs = base.run.graceSecs
  logging : config.logging = base.logging

theorem Environment.databaseUrl?_eq_some_iff {url : String} :
    environment.databaseUrl? = some url ↔
      environment.get? "DATABASE_URL" = some url ∧ isBlankText url = false := by
  rw [databaseUrl?, Option.filter_eq_some_iff, Bool.not_eq_true']

theorem Environment.databaseUrl?_eq_none_iff :
    environment.databaseUrl? = none ↔
      ∀ url, environment.get? "DATABASE_URL" = some url → isBlankText url = true := by
  rw [databaseUrl?, Option.filter_eq_none_iff]
  simp

theorem overlay_overlaid (options : Options) (environment : Environment) (base : Config) :
    Overlaid options environment base (options.overlay environment base) where
  url_of_option url given := by rw [Options.overlay, given, Option.some_or, Option.getD_some]
  url_of_environment absent url set filled := by
    have named := Environment.databaseUrl?_eq_some_iff.mpr ⟨set, filled⟩
    rw [Options.overlay, absent, Option.none_or, named, Option.getD_some]
  url_of_base absent blank := by
    have unnamed := Environment.databaseUrl?_eq_none_iff.mpr blank
    rw [Options.overlay, absent, Option.none_or, unnamed, Option.getD_none]
  table_of_option table given := by rw [Options.overlay, given, Option.getD_some]
  table_of_base absent := by rw [Options.overlay, absent, Option.getD_none]
  concurrent_iff := Bool.or_eq_true_iff ..
  maxConnections := rfl
  acquireTimeoutSecs := rfl
  polling := rfl
  graceSecs := rfl
  logging := rfl

theorem check_overlay (options : Options) (environment : Environment) (sound : base.check = .ok ()) :
    (options.overlay environment base).check =
      TableName.check (options.table.getD base.database.table) := by
  obtain ⟨⟨interval, timeout, scheduled⟩, short, connections, -⟩ := Config.check_eq_ok_iff.mp sound
  have waits : checkWaits (options.overlay environment base).waits = .ok () :=
    checkWaits_eq_ok_iff.mpr short
  rw [Config.check, waits]
  simp [Options.overlay, interval, timeout, scheduled, connections]

theorem effective_eq (options : Options) (environment : Environment) (base : Config) :
    options.effective environment base = (options.overlay environment base).checked := by
  rw [Options.effective, Config.checked]
  cases (options.overlay environment base).check <;> rfl

namespace Machine

def parse (text : String) : Except Error Config :=
  match (Toml.read text).bind Config.ofEntries with
  | none => .error Config.malformed
  | some config => .ok config

theorem ofToml_eq_parse (text : String) : Config.ofToml text = (parse text).bind Config.checked := by
  rw [Config.ofToml, parse]
  cases (Toml.read text).bind Config.ofEntries with
  | none => rfl
  | some config =>
    change (config.check >>= fun _ => .ok config) = config.checked
    rw [Config.checked]
    cases config.check <;> rfl

variable (machine : Machine) (environment : Environment) (options : Options)

def readSettings (path : String) : Except Error Config :=
  match machine.tree.read path with
  | .ok text => parse text
  | .error fault => .error (.unreadable path fault.message)

/-- The settings of the file that the options name, or else of the usual file if there is one, whether
they make sense or not. Without a file these are the defaults. -/
def fileSettings : Except Error Config :=
  match options.config with
  | some path => machine.readSettings path
  | none =>
    match environment.configPath? with
    | some path => if machine.tree.contains path then machine.readSettings path else .ok {}
    | none => .ok {}

variable {machine environment options} {dial : DatabaseConfig → Except Sql.Fault Sql.Database}

theorem run_bind {α β : Type} (action : ExceptT Error (StateM Machine) α)
    (next : α → ExceptT Error (StateM Machine) β) (machine : Machine) :
    (action >>= next).run machine =
      match action.run machine with
      | (.ok value, reached) => (next value).run reached
      | (.error fault, reached) => (.error fault, reached) := by
  simp only [ExceptT.run, bind, ExceptT.bind, ExceptT.mk, ExceptT.bindCont, StateT.bind]
  cases action machine with
  | mk result reached => cases result <;> rfl

theorem run_bind_of_still {α β : Type} {action : ExceptT Error (StateM Machine) α}
    {next : α → ExceptT Error (StateM Machine) β} {ended : Except Error α}
    {after : α → Except Error β} (first : action.run machine = (ended, machine))
    (second : ∀ value, (next value).run machine = (after value, machine)) :
    (action >>= next).run machine = (ended.bind after, machine) := by
  rw [run_bind, first]
  cases ended with
  | ok value => exact second value
  | error fault => rfl

theorem text_run (path : String) :
    (Session.text (host environment dial) path).run machine =
      ((machine.tree.read path).mapError fun fault => .unreadable path fault.message, machine) := by
  have read : (liftM ((host environment dial).read path) : ExceptT Error (StateM Machine) _).run machine =
      (.ok (machine.tree.read path), machine) := rfl
  change _ = (Except.bind (.ok (machine.tree.read path)) fun found =>
    found.mapError fun fault => Error.unreadable path fault.message, machine)
  exact run_bind_of_still read fun found => by cases found <;> rfl

theorem fileConfig_run (path : String) :
    (Session.fileConfig (host environment dial) path).run machine =
      ((machine.readSettings path).bind Config.checked, machine) := by
  have made : (Session.fileConfig (host environment dial) path).run machine = _ :=
    run_bind_of_still (text_run path) fun text => (rfl : _ = (Config.ofToml text, machine))
  rw [made, readSettings]
  cases machine.tree.read path with
  | ok text => exact congrArg (·, machine) (ofToml_eq_parse text)
  | error fault => rfl

theorem checked_default : Config.checked {} = .ok {} := by rfl

theorem baseConfig_run :
    (Session.baseConfig (host environment dial) options).run machine =
      ((machine.fileSettings environment options).bind Config.checked, machine) := by
  -- the defaults make sense, so that it does not matter that they are not checked here
  have defaults : (pure {} : ExceptT Error (StateM Machine) Config).run machine =
      (Config.checked {}, machine) := by rw [checked_default]; rfl
  rw [Session.baseConfig, fileSettings]
  cases options.config with
  | some path => exact fileConfig_run path
  | none =>
    have usual : (host environment dial).environment.configPath? = environment.configPath? := rfl
    simp only [usual]
    cases environment.configPath? with
    | none => exact defaults
    | some path =>
      have seen : (liftM ((host environment dial).contains path) :
          ExceptT Error (StateM Machine) _).run machine =
        (.ok (machine.tree.contains path), machine) := rfl
      change _ = (Except.bind (.ok (machine.tree.contains path)) fun found =>
        (if found then machine.readSettings path else .ok {}).bind Config.checked, machine)
      refine run_bind_of_still seen fun found => ?_
      cases found with
      | false => exact defaults
      | true => exact fileConfig_run path

theorem config_run :
    (Session.config (host environment dial) options).run machine =
      (((machine.fileSettings environment options).bind Config.checked).bind fun base =>
        (options.overlay environment base).checked, machine) :=
  run_bind_of_still baseConfig_run fun base =>
    congrArg (·, machine) (effective_eq options environment base)

/-- What a session loads from settings that could be read. These are settings exactly if those of the file
make sense by themselves and the table that takes effect has a sound name. If not, the session says what
is wrong, with the file first. -/
structure Layered (options : Options) (environment : Environment) (base : Config)
    (loaded : Except Error Config) : Prop where
  ok_iff : (∃ config, loaded = .ok config) ↔
    base.check = .ok () ∧ TableName.check (options.table.getD base.database.table) = .ok ()
  sound : ∀ config, loaded = .ok config → config.check = .ok ()
  overlaid : ∀ config, loaded = .ok config → Overlaid options environment base config
  error_of_base : ∀ fault, base.check = .error fault → loaded = .error fault
  error_of_table : base.check = .ok () → ∀ fault,
    TableName.check (options.table.getD base.database.table) = .error fault → loaded = .error fault

theorem layered (options : Options) (environment : Environment) (base : Config) :
    Layered options environment base
      (base.checked.bind fun base => (options.overlay environment base).checked) := by
  cases first : base.check with
  | error fault =>
    rw [Config.checked_eq_error_iff.mpr first, Except.bind]
    exact ⟨by simp [first], by simp, by simp, by simp [first], by simp [first]⟩
  | ok =>
    have last := check_overlay options environment first
    have kept : ∀ config, (options.overlay environment base).checked = .ok config →
        config.check = .ok () ∧ options.overlay environment base = config := by
      rintro config loaded
      obtain ⟨sound, rfl⟩ := Config.checked_eq_ok_iff.mp loaded
      exact ⟨sound, rfl⟩
    rw [Config.checked_eq_ok_iff.mpr ⟨first, rfl⟩, Except.bind]
    exact {
      ok_iff := by simp [Config.checked_eq_ok_iff, first, last]
      sound := fun config loaded => (kept config loaded).1
      overlaid := fun config loaded =>
        (kept config loaded).2 ▸ overlay_overlaid options environment base
      error_of_base := by simp [first]
      error_of_table := by simp [Config.checked_eq_error_iff, last] }

theorem read_of_file {tree : Files.Tree} {path text : String} {place : Files.Place}
    (found : tree.find path = .ok place) (entry : tree.entry? place = some (.file text.toUTF8)) :
    tree.read path = .ok text := by
  have decoded : String.fromUTF8? text.toUTF8 = some text := dif_pos text.isValidUTF8
  change (tree.find path).bind _ = _
  rw [found, Except.bind, entry]
  dsimp only
  rw [decoded]
  rfl

/-- Loading settings leaves the machine as it is. What cannot be read is never replaced, and what can be
read, or any settings at all, is overlaid by the environment and the options. -/
theorem config_layered (options : Options) (environment : Environment)
    (dial : DatabaseConfig → Except Sql.Fault Sql.Database) (machine : Machine) :
    (∀ base : Config,
      Layered options environment base (base.checked.bind (options.effective environment))) ∧
    ∃ loaded, (Session.config (host environment dial) options).run machine = (loaded, machine) ∧
      (∀ fault, machine.fileSettings environment options = .error fault → loaded = .error fault) ∧
      ∀ file, machine.fileSettings environment options = .ok file →
        Layered options environment file loaded := by
  refine ⟨fun base => ?_, _, config_run, fun fault unread => ?_, fun file read => ?_⟩
  · rw [funext (effective_eq options environment)]
    exact layered options environment base
  · rw [unread]; rfl
  · rw [read]
    exact layered options environment file

namespace Sample

def shortText : String :=
  "[database]\nurl = \"postgres://db\"\ntable = \"outbox\"\n[polling]\ntimeout_secs = 3\n"

def shortConfig : Config :=
  { database := { url := "postgres://db", table := "outbox" }, polling := { timeoutSecs := 3 } }

def shortMachine : Machine where
  tree := { entries := [(["short.toml"], .file shortText.toUTF8)] }

def elsewhere : Environment := { settings := [("DATABASE_URL", "postgres://other")] }

theorem read_shortMachine : shortMachine.tree.read "/short.toml" = .ok shortText := by
  have found : shortMachine.tree.find "/short.toml" = .ok ["short.toml"] := by rfl
  exact read_of_file found rfl

end Sample

open Sample in
theorem config_layered_short_poll :
    ∃ config, (Session.config (host elsewhere fun _ => .error .poolTimedOut)
        { config := some "/short.toml", concurrent := true }).run shortMachine =
          (.ok config, shortMachine) ∧
      config.database.url = "postgres://other" ∧ config.database.table = "outbox" ∧
      config.polling.timeoutSecs = 3 ∧ config.run.concurrent = true := by
  have parsed : parse shortText = .ok shortConfig := by cbv
  have file : shortMachine.fileSettings elsewhere { config := some "/short.toml", concurrent := true } =
      .ok shortConfig := by
    change shortMachine.readSettings "/short.toml" = _
    rw [readSettings, read_shortMachine]
    exact parsed
  obtain ⟨_, loaded, ran, _, layered⟩ := config_layered
    { config := some "/short.toml", concurrent := true } elsewhere (fun _ => .error .poolTimedOut)
    shortMachine
  have layers := layered shortConfig file
  obtain ⟨config, rfl⟩ := layers.ok_iff.mpr ⟨by rfl, by rfl⟩
  have overlaid := layers.overlaid config rfl
  refine ⟨config, ran, overlaid.url_of_environment rfl _ (by decide +kernel) (by decide +kernel),
    overlaid.table_of_base rfl, ?_, overlaid.concurrent_iff.mpr (.inr rfl)⟩
  rw [overlaid.polling]
  rfl

end Machine

end Command

end DeliveryCheck
