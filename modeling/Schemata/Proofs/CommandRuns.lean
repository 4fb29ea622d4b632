import Schemata.Proofs.Invocations

/-! # All or nothing

A run that fails leaves the standard output and the files as they were, and a conversion that goes
through writes one text to one place. Only the log, which is opened before anything else is done, is
exempt. -/

namespace Schemata.Cli

/-! ## Runs -/

/-- The exit code for the result of an invocation. -/
def exitCode : Except Failure Bool → Nat
  | .ok true => 0
  | _ => 1

/-- The exit code is 0 exactly for an invocation that ends well. -/
theorem exitCode_eq_zero_iff (result : Except Failure Bool) :
    exitCode result = 0 ↔ result = .ok true := by
  obtain _ | _ | _ := result <;> simp [exitCode]

/-- A run with arguments that make an invocation ends as the invocation does. What a failure has to
say goes to the standard error stream. -/
theorem run_of_parse {args : List String} {i : Invocation} {s t : Scene}
    {result : Except Failure Bool} (h : parse args = .ok i)
    (hact : s.act (runInvocation i) = (result, t)) :
    ∃ errors, (run args : StateM Scene Nat).run s = (exitCode result, { t with errors }) := by
  have hresult : (runInvocation (m := StateM Scene) i).run.run s = (result, t) := hact
  simp only [run, h, StateT.run_bind, hresult]
  obtain failure | _ | _ := result
  · exact ⟨t.errors ++ failure.text, rfl⟩
  · exact ⟨t.errors, rfl⟩
  · exact ⟨t.errors, rfl⟩

/-- The place of the log that a run with these arguments opens, if it opens one. -/
def logPlace? (args : List String) (f : Folder) : Option Place :=
  match parse args with
  | .ok i => i.logPlace? f
  | .error _ => none

/-- The place of the file that an option names, if it names one. A dash names none. -/
def filePlace? (path? : Option String) : Option Place :=
  (path?.filter fun path => !Path.isDash path).bind Folder.place?

/-- The bytes that an input has in a scene: the content of its file or, when it has none, what is
left of the standard input. -/
def Scene.source? (s : Scene) (input : Option String) : Option ByteArray :=
  match input.filter fun path => !Path.isDash path with
  | some path => (Folder.place? path).bind s.folder.content?
  | none => some s.input

/-- What a command gets from an input behind the opening of a log in another place is what the input
has. -/
theorem source?_of_bytes? {s t : Scene} {log : Option Place} {input : Option String}
    {bytes : ByteArray} (hst : s.Untouched log t) (hinput : t.input = s.input)
    (hlog : ∀ p, log = some p → filePlace? input ≠ some p) (h : t.bytes? input = some bytes) :
    s.source? input = some bytes := by
  rw [Scene.bytes?] at h
  rw [filePlace?] at hlog
  rw [Scene.source?]
  cases hpath : input.filter fun path => !Path.isDash path with
  | none =>
      rw [hpath] at h
      exact hinput ▸ h
  | some path =>
      rw [hpath] at h hlog
      cases hread : t.folder.read path with
      | error e => simp [hread, Except.toOption] at h
      | ok content =>
          obtain rfl : content = bytes := by simpa [hread, Except.toOption] using h
          -- The path may lead through directories that were made for the log, so it cannot be
          -- followed in the scene before. Its place is the same.
          obtain ⟨p, hplace, hcontent⟩ := Folder.content?_of_read hread
          have hne : some p ≠ log := fun h => hlog p h.symm hplace
          show (Folder.place? path).bind s.folder.content? = some content
          rw [hplace, Option.bind_some, ← hst.files p hne, hcontent]

/-- A run fails exactly if its arguments are no use of the program or not all goes well with the
invocation that they make. -/
theorem run_ne_zero_iff (args : List String) (scene : Scene) :
    ((run args : StateM Scene Nat).run scene).1 ≠ 0
      ↔ parse args = .error .usage ∨ ∃ i, parse args = .ok i ∧ ¬ i.Succeeds scene := by
  cases hparse : parse args with
  | error stop =>
      rw [run, hparse]
      cases stop with
      | help => exact iff_of_false (fun h => h rfl) (by simp)
      | version => exact iff_of_false (fun h => h rfl) (by simp)
      | usage => exact iff_of_true (by decide : 2 ≠ 0) (.inl rfl)
  | ok i =>
      cases hact : scene.act (runInvocation i) with
      | mk result t =>
          obtain ⟨errors, hrun⟩ := run_of_parse hparse hact
          have hmade : ((.ok i : Except Stop Invocation) = .error .usage
                ∨ ∃ j, (.ok i : Except Stop Invocation) = .ok j ∧ ¬ j.Succeeds scene)
              ↔ ¬ i.Succeeds scene := by simp
          rw [hrun, hmade, ← (Scene.runInvocation_result hact).1]
          exact not_congr (exitCode_eq_zero_iff result)

/-- A run that fails, other than a validation, writes nothing that was asked for. -/
theorem untouched_of_run {args : List String} {scene : Scene}
    (hvalidate : ∀ i source, parse args = .ok i → i.command ≠ .validate source)
    (hcode : ((run args : StateM Scene Nat).run scene).1 ≠ 0) :
    scene.Untouched (logPlace? args scene.folder) ((run args : StateM Scene Nat).run scene).2 := by
  cases hparse : parse args with
  | error stop =>
      rw [run, hparse] at hcode ⊢
      -- Only a wrong use fails here, and what it has to say is no output.
      cases stop with
      | help => exact absurd rfl hcode
      | version => exact absurd rfl hcode
      | usage => exact ⟨rfl, .refl _ scene.folder⟩
  | ok i =>
      have hplace : logPlace? args scene.folder = i.logPlace? scene.folder := by
        rw [logPlace?, hparse]
      cases hact : scene.act (runInvocation i) with
      | mk result t =>
          obtain ⟨errors, hrun⟩ := run_of_parse hparse hact
          rw [hrun] at hcode ⊢
          obtain rfl | huntouched | ⟨source, hsource⟩ := (Scene.runInvocation_result hact).2
          · exact absurd rfl hcode
          · exact hplace ▸ ⟨huntouched.output, huntouched.files⟩
          · exact absurd hsource (hvalidate i source hparse)

/-- A conversion that goes through delivers the script of the database that is read from its input
with its settings. -/
theorem delivered_of_run {args : List String} {scene : Scene} {i : Invocation} {source : Source}
    {output : Option String} {style : Option CaseStyle} {createDatabase validate : Bool}
    (hparse : parse args = .ok i)
    (hcommand : i.command = .convert source output style createDatabase validate)
    (hlog : ∀ p, i.logPlace? scene.folder = some p → filePlace? source.input ≠ some p)
    (hcode : ((run args : StateM Scene Nat).run scene).1 = 0) :
    ∃ config bytes db,
      i.settings scene.folder = .ok config
        ∧ scene.source? source.input = some bytes
        ∧ (converter config source style createDatabase).reader.bytes bytes = .ok db
        ∧ scene.Delivered (i.logPlace? scene.folder) output
          ((converter config source style createDatabase).script db)
          ((run args : StateM Scene Nat).run scene).2 := by
  cases hact : scene.act (runInvocation i) with
  | mk result t =>
      obtain ⟨errors, hrun⟩ := run_of_parse hparse hact
      rw [hrun] at hcode ⊢
      obtain ⟨failure, u, hfailed, -⟩ | ⟨config, u, hsettings, hlogged, hinput, hconvert, -⟩ :=
        scene.runInvocation_cases i
      · rw [hact] at hfailed
        cases hfailed
        exact absurd hcode Nat.one_ne_zero
      · rw [hact, hcommand] at hconvert
        obtain ⟨⟨failure, rfl⟩, -⟩ | ⟨-, -, bytes, db, hbytes, hreader, hdelivered⟩ :=
          Scene.convert_cases rfl hconvert.symm
        · exact absurd hcode Nat.one_ne_zero
        · exact ⟨config, bytes, db, hsettings, source?_of_bytes? hlogged hinput hlog hbytes,
            hreader, hlogged.delivered hdelivered⟩

/-- Conversions that differ only in how verbose they are and in whether they report issues end alike
and write the same. -/
theorem run_congr {args args' : List String} {scene : Scene} {i i' : Invocation} {source : Source}
    {output : Option String} {style : Option CaseStyle} {createDatabase validate validate' : Bool}
    (hparse : parse args = .ok i) (hparse' : parse args' = .ok i') (hconfig : i'.config = i.config)
    (hcommand : i.command = .convert source output style createDatabase validate)
    (hcommand' : i'.command = .convert source output style createDatabase validate') :
    let ran := (run args : StateM Scene Nat).run scene
    let ran' := (run args' : StateM Scene Nat).run scene
    ran'.1 = ran.1 ∧ ran'.2.output = ran.2.output ∧ ran'.2.folder = ran.2.folder := by
  intro ran ran'
  cases hact : scene.act (runInvocation i) with
  | mk result t =>
      obtain ⟨errors, hact'⟩ := Scene.act_runInvocation_congr hconfig hcommand hcommand' hact
      obtain ⟨_, hrun⟩ := run_of_parse hparse hact
      obtain ⟨_, hrun'⟩ := run_of_parse hparse' hact'
      have hran : ran = _ := hrun
      have hran' : ran' = _ := hrun'
      rw [hran, hran']
      exact ⟨rfl, rfl, rfl⟩

/-- **A run of the program does all that it is asked for, or nothing.** A run fails exactly if its
arguments are no use of the program, its settings cannot be read, the log cannot be opened, an input
provides no database, the output takes no text or what is validated is not valid. One that fails,
other than a validation, leaves the standard output and all files but that of the log as they were.
A conversion that goes through has written the script of the database that is read from its input,
with the settings of the configuration and of its options, to its output and nothing else, provided
that the log is in neither's place. How verbose it is and whether it reports issues makes no
difference to its end and to what it writes. -/
theorem run_allOrNothing (args : List String) (scene : Scene) :
    let ran := (run args : StateM Scene Nat).run scene
    (ran.1 ≠ 0 ↔ parse args = .error .usage ∨ ∃ i, parse args = .ok i ∧ ¬ i.Succeeds scene)
      ∧ ((∀ i source, parse args = .ok i → i.command ≠ .validate source) → ran.1 ≠ 0 →
        scene.Untouched (logPlace? args scene.folder) ran.2)
      ∧ ∀ i source output style createDatabase validate, parse args = .ok i →
        i.command = .convert source output style createDatabase validate →
        ((∀ p, i.logPlace? scene.folder = some p →
            filePlace? source.input ≠ some p ∧ filePlace? output ≠ some p) →
          ran.1 = 0 →
          ∃ config bytes db, i.settings scene.folder = .ok config
            ∧ scene.source? source.input = some bytes
            ∧ (converter config source style createDatabase).reader.bytes bytes = .ok db
            ∧ scene.Delivered (i.logPlace? scene.folder) output
              ((converter config source style createDatabase).script db) ran.2)
        ∧ ∀ args' i' validate', parse args' = .ok i' → i'.config = i.config →
          i'.command = .convert source output style createDatabase validate' →
          let ran' := (run args' : StateM Scene Nat).run scene
          ran'.1 = ran.1 ∧ ran'.2.output = ran.2.output ∧ ran'.2.folder = ran.2.folder := by
  intro ran
  refine ⟨run_ne_zero_iff args scene, untouched_of_run,
    fun i source output style createDatabase validate hparse hcommand =>
      ⟨fun hlog => ?_, fun args' i' validate' hparse' hconfig hcommand' => ?_⟩⟩
  · exact delivered_of_run hparse hcommand fun p hp => (hlog p hp).1
  · exact run_congr hparse hparse' hconfig hcommand hcommand'

/-- A comparison with a file that is missing, and a conversion with and without more to say. -/
theorem run_allOrNothing_files :
    let scene : Scene := ⟨.ofFiles [
      ("set.toml", "[logging]\nfile = \"log/run.txt\"\n[output]\ncase = \"upper\"\n".toUTF8),
      ("a.sql", "create table t (a int)".toUTF8)], .empty, "", ""⟩
    let log : Place := ⟨.above 0, ["log", "run.txt"]⟩
    let script := "USE \"MY_DATABASE\";\n\nDROP TABLE \"falcon_default_schema\".\"T\";\n\n"
      ++ "CREATE TABLE \"falcon_default_schema\".\"T\" (\n    \"A\" BIGINT\n);\n"
    let compare := ["-c", "set.toml", "diff", "--ddl1=a.sql", "--ddl2=b.sql"]
    let convert := ["-c", "set.toml", "convert", "-i", "a.sql", "-o", "a.tql"]
    let ran (args : List String) : Nat × Scene := (run args : StateM Scene Nat).run scene
    (ran compare).1 = 1 ∧ scene.Untouched (some log) (ran compare).2
      ∧ (ran convert).1 = 0 ∧ scene.Delivered (some log) (some "a.tql") script (ran convert).2
      ∧ (ran ("-v" :: convert ++ ["--validate"])).2.folder = (ran convert).2.folder := by
  intro scene log script compare convert ran
  let source : Source := ⟨some "a.sql", none, none⟩
  let i : Invocation := ⟨some "set.toml", false, .convert source (some "a.tql") none false false⟩
  let client := converter
    ⟨default, ⟨.upper, false⟩, some { (default : LoggingConfig) with file := some "log/run.txt" }⟩
    source none false
  have hcompare : (ran compare).1 = 1 := by decide +kernel
  have hconvert : (ran convert).1 = 0 := by decide +kernel
  have hdiff : (parse compare).toOption = some ⟨some "set.toml", false,
      .diff "a.sql" "b.sql" ⟨none, none, none⟩ none false false .text⟩ := by decide +kernel
  have hparse : parse convert = .ok i := by rfl
  have hparse' : parse ("-v" :: convert ++ ["--validate"])
      = .ok ⟨i.config, true, .convert source (some "a.tql") none false true⟩ := by rfl
  have hplace : logPlace? compare scene.folder = some log := by decide +kernel
  have hlog : i.logPlace? scene.folder = some log := by decide +kernel
  have hsettings : (i.settings scene.folder).toOption.map (converter · source none false)
      = some client := by decide +kernel
  have hsource : scene.source? source.input = some "create table t (a int)".toUTF8 := by
    decide +kernel
  have hscript : (client.reader.bytes "create table t (a int)".toUTF8).toOption.map client.script
      = some script := by decide +kernel
  have hapart : filePlace? source.input ≠ some log ∧ filePlace? (some "a.tql") ≠ some log := by
    decide +kernel
  clear_value scene script client
  have huntouched := (run_allOrNothing compare scene).2.1
    (fun j other hj hother => by
      rw [hj] at hdiff
      rw [Option.some.inj hdiff] at hother
      cases hother)
    (hcompare ▸ Nat.one_ne_zero)
  obtain ⟨hdelivered, hcongr⟩ := (run_allOrNothing convert scene).2.2 i _ _ _ _ _ hparse rfl
  obtain ⟨config, bytes, db, hconfig, hbytes, hdb, hdelivered⟩ :=
    hdelivered (fun p hp => Option.some.inj (hlog.symm.trans hp) ▸ hapart) hconvert
  have hclient : converter config source none false = client := by
    rw [hconfig] at hsettings
    exact Option.some.inj hsettings
  rw [hclient] at hdb hdelivered
  rw [Option.some.inj (hbytes.symm.trans hsource)] at hdb
  rw [hdb] at hscript
  rw [hlog, Option.some.inj hscript] at hdelivered
  exact ⟨hcompare, hplace ▸ huntouched, hconvert, hdelivered,
    (hcongr _ _ true hparse' rfl rfl).2.2⟩

end Schemata.Cli
