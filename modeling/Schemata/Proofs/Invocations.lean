import Schemata.Proofs.SceneActions

/-! # Invocations

What an invocation comes to in a scene: it reads its settings, opens the log and runs its command. A
command reads all that it needs before it writes anything that is asked for, and it fails exactly if
something is amiss with what it reads or with its output. -/

namespace Schemata.Cli

/-! ## Settings and the log -/

namespace Invocation

/-- The settings of an invocation: those in its configuration file, if it has one. -/
def settings (i : Invocation) (f : Folder) : Except Error Config :=
  match i.config with
  | none => .ok default
  | some path =>
      match f.read path with
      | .ok bytes => configOfBytes path bytes
      | .error e => .error (.unreadableConfig path e)

/-- The place of the log that the settings of an invocation ask for. -/
def logPlace? (i : Invocation) (f : Folder) : Option Place :=
  match i.settings f with
  | .ok config => (config.logging.bind (·.file)).bind Folder.place?
  | .error _ => none

end Invocation

/-- Verbose or not, the log has the file that the settings name. -/
theorem file_logging (config : Config) (verbose : Bool) :
    (logging config verbose).file = config.logging.bind (·.file) := by
  cases verbose <;> cases h : config.logging <;> simp [logging, h] <;> rfl

/-- What an invocation does with its settings: it opens the log and runs the command. -/
def runLogged {m : Type → Type} [Monad m] [Host m] (config : Config) (verbose : Bool)
    (command : Command) : ExceptT Failure m Bool := do
  if let some path := (logging config verbose).file then
    if let .error e := ← Host.openLog path then throw (.ofError (.io e))
  runCommand config command

namespace Scene

/-- The scene behind the opening of the log that settings ask for, and how that went. -/
def logged (s : Scene) (config : Config) : Except SystemError Unit × Scene :=
  match config.logging.bind (·.file) with
  | none => (.ok (), s)
  | some path =>
      ((s.folder.createEmpty path).2, { s with folder := (s.folder.createEmpty path).1 })

/-- Whether or not the log can be opened, nothing else changes. -/
theorem untouched_logged {s : Scene} {i : Invocation} {config : Config}
    (h : i.settings s.folder = .ok config) :
    Untouched (i.logPlace? s.folder) s (s.logged config).2 := by
  have hplace : i.logPlace? s.folder = (config.logging.bind (·.file)).bind Folder.place? := by
    rw [Invocation.logPlace?, h]
  rw [hplace, logged]
  cases config.logging.bind (·.file) with
  | none => exact .refl _ s
  | some path => exact ⟨rfl, s.folder.sameBut_createEmpty path⟩

/-- Opening the log leaves the standard input. -/
theorem input_logged (s : Scene) (config : Config) : (s.logged config).2.input = s.input := by
  rw [logged]
  split <;> rfl

/-- With its settings, an invocation opens the log and runs the command. -/
theorem act_runLogged (s : Scene) (config : Config) (verbose : Bool) (command : Command) :
    s.act (runLogged config verbose command)
      = match s.logged config with
        | (.ok (), t) => t.act (runCommand config command)
        | (.error e, t) => (.error (.ofError (.io e)), t) := by
  rw [runLogged, file_logging, logged]
  cases config.logging.bind (·.file) with
  | none => rfl
  | some path =>
      simp only [act_bind, act_openLog]
      cases (s.folder.createEmpty path).2 <;> rfl

/-- An invocation reads its settings before it does anything else. -/
theorem act_runInvocation (s : Scene) (i : Invocation) :
    s.act (runInvocation i)
      = match i.settings s.folder with
        | .ok config => s.act (runLogged config i.verbose i.command)
        | .error e =>
            (.error (.during ("failed to load config " ++ i.config.getD "") e), s) := by
  obtain ⟨path?, verbose, command⟩ := i
  cases path? with
  | none => rfl
  | some path =>
      have hread : s.act (readConfig path)
          = (.ok (Invocation.settings ⟨some path, verbose, command⟩ s.folder), s) := by
        simp only [readConfig, act_bind, act_readFile, Invocation.settings]
        cases s.folder.read path <;> rfl
      simp only [runInvocation, act_bind, hread]
      cases Invocation.settings ⟨some path, verbose, command⟩ s.folder <;> rfl

end Scene

/-! ## Commands -/

/-- The client of a conversion. It has the settings of the configuration, but for those that the
options of the conversion give. -/
def converter (config : Config) (source : Source) (style : Option CaseStyle)
    (createDatabase : Bool) : Client where
  config :=
    { database :=
        { name := source.database.getD config.database.name
          schema := source.schema.getD config.database.schema
          defaultSchema := config.database.defaultSchema }
      output :=
        { style := style.getD config.output.style
          createDatabase := config.output.createDatabase || createDatabase }
      logging := config.logging }

/-- Whether all goes well with a command in a scene: what it reads provides databases, the output of
a conversion takes a text, and a database that is validated is valid. -/
def Command.Succeeds (config : Config) (s : Scene) : Command → Prop
  | .convert source output style createDatabase _ =>
      s.Provides (converter config source style createDatabase) source.input ∧ s.Takes output
  | .validate source =>
      ∃ bytes db, s.bytes? source.input = some bytes
        ∧ (Client.mk (withNames config source)).reader.bytes bytes = .ok db
        ∧ db.validate.isValid = true
  | .diff first second names style _ _ _ =>
      s.Provides ⟨withStyle (withNames config names) style⟩ (some first)
        ∧ (s.drained (some first)).Provides ⟨withStyle (withNames config names) style⟩ (some second)

/-- Whether all goes well with an invocation in a scene: its settings can be read, the log can be
opened, and then all goes well with the command. -/
def Invocation.Succeeds (i : Invocation) (s : Scene) : Prop :=
  ∃ config t, i.settings s.folder = .ok config ∧ s.logged config = (.ok (), t)
    ∧ i.command.Succeeds config t

namespace Scene

/-- A conversion reads a database and writes its script. Whether it reports issues too shows in the
standard error stream alone. -/
theorem act_convert (s : Scene) (config : Config) (source : Source) (output : Option String)
    (style : Option CaseStyle) (createDatabase validate : Bool) {client : Client}
    (hclient : client = converter config source style createDatabase) :
    ∃ errors, s.act (runCommand config (.convert source output style createDatabase validate))
      = match s.act (readDatabase client source.input) with
        | (.ok db, t) =>
            ((t.act (writeOutput output (client.script db))).1.map fun _ => true,
              { (t.act (writeOutput output (client.script db))).2 with errors })
        | (.error failure, t) => (.error failure, t) := by
  have hcommand : runCommand config (.convert source output style createDatabase validate)
      = (readDatabase client source.input >>= fun db => do
          if validate then Host.printError (issueLines db.validate)
          writeOutput output (client.script db)
          return true : ExceptT Failure (StateM Scene) Bool) := by
    rw [hclient]
    rfl
  rw [hcommand, act_bind]
  obtain ⟨_ | db, t⟩ := s.act (readDatabase client source.input)
  · exact ⟨"", rfl⟩
  · -- The issues are reported before the script is written, so the output is written in a scene
    -- with other errors.
    have hwrite (u : Scene) (errors : String) (hu : u = { t with errors }) :
        u.act (writeOutput output (client.script db) >>= fun _ => pure true)
          = ((t.act (writeOutput output (client.script db))).1.map fun _ => true,
            { (t.act (writeOutput output (client.script db))).2 with errors }) := by
      rw [hu, act_bind, act_writeOutput_errors]
      cases (t.act (writeOutput output (client.script db))).1 <;> rfl
    cases validate with
    | false => exact ⟨t.errors, hwrite t t.errors rfl⟩
    | true =>
        refine ⟨t.errors ++ issueLines db.validate, ?_⟩
        show t.act (Host.printError (issueLines db.validate) >>= fun _ =>
          writeOutput output (client.script db) >>= fun _ => pure true) = _
        rw [act_bind, act_printError]
        exact hwrite _ _ rfl

/-- Whether a conversion reports issues shows in the standard error stream alone. -/
theorem act_convert_congr (s : Scene) (config : Config) (source : Source) (output : Option String)
    (style : Option CaseStyle) (createDatabase validate validate' : Bool)
    {result : Except Failure Bool} {t : Scene}
    (h : s.act (runCommand config (.convert source output style createDatabase validate))
      = (result, t)) :
    ∃ errors, s.act (runCommand config (.convert source output style createDatabase validate'))
      = (result, { t with errors }) := by
  obtain ⟨errors, hconvert⟩ :=
    s.act_convert config source output style createDatabase validate rfl
  obtain ⟨errors', hconvert'⟩ :=
    s.act_convert config source output style createDatabase validate' rfl
  rw [h] at hconvert
  rw [hconvert']
  generalize s.act (readDatabase _ source.input) = read at hconvert ⊢
  obtain ⟨_ | db, u⟩ := read
  · cases hconvert
    exact ⟨_, rfl⟩
  · cases hconvert
    exact ⟨errors', rfl⟩

/-- A conversion that fails writes nothing that was asked for, and one that goes through delivers
the script of the database that it reads. -/
theorem convert_cases {s t : Scene} {config : Config} {source : Source} {output : Option String}
    {style : Option CaseStyle} {createDatabase validate : Bool} {client : Client}
    (hclient : client = converter config source style createDatabase)
    {result : Except Failure Bool}
    (h : s.act (runCommand config (.convert source output style createDatabase validate))
      = (result, t)) :
    ((∃ failure, result = .error failure) ∧ ¬ (s.Provides client source.input ∧ s.Takes output)
        ∧ Untouched none s t)
      ∨ result = .ok true ∧ (s.Provides client source.input ∧ s.Takes output)
        ∧ ∃ bytes db, s.bytes? source.input = some bytes ∧ client.reader.bytes bytes = .ok db
          ∧ Delivered none output (client.script db) s t := by
  have hdrained := s.untouched_drained source.input
  have htakes : (s.drained source.input).Takes output ↔ s.Takes output := by
    rw [Takes, Takes, folder_drained]
  obtain ⟨errors, hconvert⟩ :=
    s.act_convert config source output style createDatabase validate hclient
  rw [h] at hconvert
  obtain ⟨⟨failure, hread⟩, hnot⟩ | ⟨hprovides, bytes, db, hbytes, hreader, hread⟩ :=
    s.readDatabase_cases client source.input
  · rw [hread] at hconvert
    cases hconvert
    exact .inl ⟨⟨failure, rfl⟩, fun hboth => hnot hboth.1, hdrained⟩
  · rw [hread] at hconvert
    obtain ⟨⟨failure, hwrite⟩, hnot⟩ | ⟨htaken, u, hwrite, hdelivered⟩ :=
      (s.drained source.input).writeOutput_cases output (client.script db)
    · simp only [hwrite] at hconvert
      cases hconvert
      exact .inl ⟨⟨failure, rfl⟩, fun hboth => hnot (htakes.2 hboth.2), hdrained.output,
        hdrained.files⟩
    · simp only [hwrite] at hconvert
      cases hconvert
      exact .inr ⟨rfl, ⟨hprovides, htakes.1 htaken⟩, bytes, db, hbytes, hreader,
        hdrained.delivered hdelivered⟩

/-- A comparison that fails writes nothing that was asked for. -/
theorem diff_cases {s t : Scene} {config : Config} {first second : String} {names : Source}
    {style : Option CaseStyle} {alterFirst alterSecond : Bool} {format : Format} {client : Client}
    (hclient : client = ⟨withStyle (withNames config names) style⟩)
    {result : Except Failure Bool}
    (h : s.act (runCommand config
      (.diff first second names style alterFirst alterSecond format)) = (result, t)) :
    ((∃ failure, result = .error failure)
        ∧ ¬ (s.Provides client (some first)
          ∧ (s.drained (some first)).Provides client (some second))
        ∧ Untouched none s t)
      ∨ result = .ok true ∧ s.Provides client (some first)
        ∧ (s.drained (some first)).Provides client (some second) := by
  subst hclient
  have hfirst := s.untouched_drained (some first)
  have hsecond := (s.drained (some first)).untouched_drained (some second)
  rw [runCommand, act_bind] at h
  obtain ⟨⟨failure, hread⟩, hnot⟩ | ⟨hprovides, bytes, db, -, -, hread⟩ :=
    s.readDatabase_cases ⟨withStyle (withNames config names) style⟩ (some first)
  · rw [hread] at h
    cases h
    exact .inl ⟨⟨failure, rfl⟩, fun hboth => hnot hboth.1, hfirst⟩
  · rw [hread] at h
    simp only [act_bind] at h
    obtain ⟨⟨failure, hread'⟩, hnot⟩ | ⟨hprovides', bytes', db', -, -, hread'⟩ :=
      (s.drained (some first)).readDatabase_cases ⟨withStyle (withNames config names) style⟩
        (some second)
    · rw [hread'] at h
      cases h
      exact .inl ⟨⟨failure, rfl⟩, fun hboth => hnot hboth.2, hfirst.trans hsecond⟩
    · rw [hread'] at h
      -- All that is left to do is to print, which does not fail.
      refine .inr ⟨?_, hprovides, hprovides'⟩
      cases alterFirst <;> cases alterSecond <;> cases format <;>
        exact (congrArg Prod.fst h).symm

/-- A validation goes through exactly if the database that it reads is valid. -/
theorem validate_eq_true_iff {s t : Scene} {config : Config} {source : Source}
    {result : Except Failure Bool}
    (h : s.act (runCommand config (.validate source)) = (result, t)) :
    result = .ok true ↔ (Command.validate source).Succeeds config s := by
  rw [runCommand, act_bind] at h
  obtain ⟨⟨failure, hread⟩, hnot⟩ | ⟨-, bytes, db, hbytes, hreader, hread⟩ :=
    s.readDatabase_cases ⟨withNames config source⟩ source.input
  · rw [hread] at h
    cases h
    refine iff_of_false (by simp) ?_
    rintro ⟨bytes, db, hbytes, hreader, -⟩
    have hgood := (Ddl.Reader.exists_bytes_eq_ok_iff _ bytes).1 ⟨db, hreader⟩
    exact hnot ⟨bytes, hbytes, hgood⟩
  · rw [hread] at h
    have hsucceeds : (Command.validate source).Succeeds config s ↔ db.validate.isValid = true := by
      simp [Command.Succeeds, hbytes, hreader]
    rw [hsucceeds]
    cases hvalid : db.validate.isValid with
    | true =>
        simp only [hvalid, if_true] at h
        exact iff_of_true (congrArg Prod.fst h).symm rfl
    | false =>
        simp only [hvalid, Bool.false_eq_true, if_false] at h
        have hresult : Except.ok false = result := congrArg Prod.fst h
        simp [← hresult]

/-- A command goes through exactly if all goes well with it, and one that does not, other than a
validation, writes nothing that was asked for. -/
theorem runCommand_cases {s t : Scene} {config : Config} {command : Command}
    {result : Except Failure Bool} (h : s.act (runCommand config command) = (result, t)) :
    (result = .ok true ↔ command.Succeeds config s)
      ∧ (result = .ok true ∨ Untouched none s t ∨ ∃ source, command = .validate source) := by
  cases command with
  | validate source => exact ⟨validate_eq_true_iff h, .inr (.inr ⟨source, rfl⟩)⟩
  | convert source output style createDatabase validate =>
      obtain ⟨⟨failure, rfl⟩, hnot, huntouched⟩ | ⟨rfl, hboth, -⟩ := convert_cases rfl h
      · exact ⟨iff_of_false (by simp) hnot, .inr (.inl huntouched)⟩
      · exact ⟨iff_of_true rfl hboth, .inl rfl⟩
  | diff first second names style alterFirst alterSecond format =>
      obtain ⟨⟨failure, rfl⟩, hnot, huntouched⟩ | ⟨rfl, hboth⟩ := diff_cases rfl h
      · exact ⟨iff_of_false (by simp) hnot, .inr (.inl huntouched)⟩
      · exact ⟨iff_of_true rfl hboth, .inl rfl⟩

/-! ## Invocations -/

/-- An invocation fails before its command, and then nothing but the log changes, or it comes to its
command with its settings and with the log opened. -/
theorem runInvocation_cases (s : Scene) (i : Invocation) :
    (∃ failure t, s.act (runInvocation i) = (.error failure, t) ∧ ¬ i.Succeeds s
        ∧ Untouched (i.logPlace? s.folder) s t)
      ∨ ∃ config t, i.settings s.folder = .ok config ∧ Untouched (i.logPlace? s.folder) s t
        ∧ t.input = s.input ∧ s.act (runInvocation i) = t.act (runCommand config i.command)
        ∧ (i.Succeeds s ↔ i.command.Succeeds config t) := by
  rw [act_runInvocation, Invocation.Succeeds]
  cases hsettings : i.settings s.folder with
  | error e => exact .inl ⟨_, s, rfl, by simp, .refl _ s⟩
  | ok config =>
      have hlogged := untouched_logged hsettings
      have hinput := s.input_logged config
      simp only [act_runLogged]
      generalize hlog : s.logged config = logged at hlogged hinput
      obtain ⟨_ | _, t⟩ := logged
      · exact .inl ⟨_, t, rfl, by simp [hlog], hlogged⟩
      · exact .inr ⟨config, t, rfl, hlogged, hinput, rfl, by simp [hlog]⟩

/-- An invocation goes through exactly if all goes well with it, and one that does not, other than
of a validation, changes nothing but the log. -/
theorem runInvocation_result {s t : Scene} {i : Invocation} {result : Except Failure Bool}
    (h : s.act (runInvocation i) = (result, t)) :
    (result = .ok true ↔ i.Succeeds s)
      ∧ (result = .ok true ∨ Untouched (i.logPlace? s.folder) s t
        ∨ ∃ source, i.command = .validate source) := by
  obtain ⟨failure, u, hfailed, hnot, hlogged⟩ | ⟨config, u, -, hlogged, -, hact, hsucceeds⟩ :=
    s.runInvocation_cases i
  · rw [h] at hfailed
    cases hfailed
    exact ⟨iff_of_false (by simp) hnot, .inr (.inl hlogged)⟩
  · rw [h] at hact
    obtain ⟨hresult, hkept⟩ := runCommand_cases hact.symm
    exact ⟨hresult.trans hsucceeds.symm, hkept.imp_right (Or.imp_left hlogged.trans)⟩

/-- How verbose an invocation of a conversion is, and whether it reports issues, shows in the
standard error stream alone. -/
theorem act_runInvocation_congr {s t : Scene} {i i' : Invocation} {source : Source}
    {output : Option String} {style : Option CaseStyle} {createDatabase validate validate' : Bool}
    {result : Except Failure Bool} (hconfig : i'.config = i.config)
    (hcommand : i.command = .convert source output style createDatabase validate)
    (hcommand' : i'.command = .convert source output style createDatabase validate')
    (h : s.act (runInvocation i) = (result, t)) :
    ∃ errors, s.act (runInvocation i') = (result, { t with errors }) := by
  have hsettings : i'.settings s.folder = i.settings s.folder := by
    rw [Invocation.settings, Invocation.settings, hconfig]
  rw [act_runInvocation] at h ⊢
  rw [hsettings, hconfig]
  cases hread : i.settings s.folder with
  | error e =>
      rw [hread] at h
      cases h
      exact ⟨s.errors, rfl⟩
  | ok config =>
      rw [hread] at h
      simp only [act_runLogged, hcommand, hcommand'] at h ⊢
      generalize s.logged config = logged at h ⊢
      obtain ⟨_ | _, u⟩ := logged
      · cases h
        exact ⟨_, rfl⟩
      · exact u.act_convert_congr config source output style createDatabase validate validate' h

end Scene

end Schemata.Cli
