import Schemata.Cli.Run
import Schemata.Proofs.FolderChanges
import Schemata.Proofs.ReaderShape

/-! # Actions in a scene

What the steps of a command come to in a scene. Reading writes nothing, and an output is written as
a whole or not at all: the text comes to one place or behind what is on the standard output. -/

namespace Schemata

/-- A reader makes a database of bytes exactly if they encode a text and the reader has a name for
the database. -/
theorem Ddl.Reader.exists_bytes_eq_ok_iff (r : Ddl.Reader) (bytes : ByteArray) :
    (∃ db, r.bytes bytes = .ok db)
      ↔ (Text.decode? bytes).isSome = true ∧ Text.isBlank r.database = false := by
  rw [Ddl.Reader.bytes]
  cases Text.decode? bytes with
  | none => simp
  | some text =>
      simp only [Ddl.Reader.text, Ddl.Reader.lines_eq]
      cases Text.isBlank r.database <;> simp

namespace Cli

open Folder (SameBut)

/-! ## Actions in a scene -/

namespace Scene

/-- What an action that may fail comes to in a scene, and the scene behind it. -/
def act {α : Type} (s : Scene) (action : ExceptT Failure (StateM Scene) α) :
    Except Failure α × Scene :=
  action.run.run s

section

variable {α β : Type} (s : Scene)

/-- Actions follow one another until one fails. -/
theorem act_bind (action : ExceptT Failure (StateM Scene) α)
    (next : α → ExceptT Failure (StateM Scene) β) :
    s.act (action >>= next)
      = match s.act action with
        | (.ok a, t) => t.act (next a)
        | (.error failure, t) => (.error failure, t) := by
  rw [act, ExceptT.run_bind, StateT.run_bind, act]
  obtain ⟨result, t⟩ := action.run.run s
  cases result <;> rfl

/-- Reading a file leaves the scene as it is. -/
@[simp] theorem act_readFile (path : String) :
    s.act (Host.readFile path) = (.ok (s.folder.read path), s) := rfl

/-- Reading the standard input uses it up. -/
@[simp] theorem act_readInput :
    s.act Host.readInput = (.ok s.input, { s with input := ByteArray.empty }) := rfl

/-- The log is opened in the folder, and what has been made of its path stays if this fails. -/
@[simp] theorem act_openLog (path : String) :
    s.act (Host.openLog path)
      = (.ok (s.folder.createEmpty path).2,
        { s with folder := (s.folder.createEmpty path).1 }) := rfl

/-- What is printed as an error comes after what stands in the standard error stream. -/
@[simp] theorem act_printError (text : String) :
    s.act (Host.printError text) = (.ok (), { s with errors := s.errors ++ text }) := rfl

/-- A file that cannot be written leaves the folder as it is. -/
@[simp] theorem act_writeFile (path text : String) :
    s.act (Host.writeFile path text)
      = match s.folder.write path text.toUTF8 with
        | .ok folder => (.ok (.ok ()), { s with folder })
        | .error e => (.ok (.error e), s) := by
  simp only [act, Host.writeFile, ExceptT.run_lift, StateT.run_map, StateT.run_bind, StateT.run_get,
    pure_bind]
  cases s.folder.write path text.toUTF8 <;> rfl

end

/-! ## What changes in a scene -/

/-- Whether nothing that was asked for has been written: the standard output and every file but the
one at an exempt place are as they were. -/
structure Untouched (exempt : Option Place) (before after : Scene) : Prop where
  /-- Nothing has been written to the standard output. -/
  output : after.output = before.output
  /-- The files are as they were. -/
  files : SameBut exempt before.folder after.folder

/-- Whether a text, and nothing else that was asked for, has been written to an output: to the file
or, when there is none or it is a dash, to the standard output. -/
def Delivered (exempt : Option Place) (output : Option String) (text : String)
    (before after : Scene) : Prop :=
  match output.filter fun path => !Path.isDash path with
  | some path =>
      ∃ p, Folder.place? path = some p
        ∧ after.folder.content? p = some text.toUTF8
        ∧ (∀ q, q ≠ p → some q ≠ exempt → after.folder.content? q = before.folder.content? q)
        ∧ after.output = before.output
  | none =>
      after.output = before.output ++ text ∧ SameBut exempt before.folder after.folder

/-- Doing nothing writes nothing. -/
theorem Untouched.refl (exempt : Option Place) (s : Scene) : Untouched exempt s s :=
  ⟨rfl, .refl exempt s.folder⟩

/-- Where nothing is written in either of two steps, nothing is written in both. -/
theorem Untouched.trans {exempt : Option Place} {s t u : Scene} (hst : Untouched exempt s t)
    (htu : Untouched none t u) : Untouched exempt s u :=
  ⟨htu.output.trans hst.output, hst.files.trans htu.files.mono⟩

/-- What is delivered after nothing has been written is delivered. -/
theorem Untouched.delivered {exempt : Option Place} {output : Option String} {text : String}
    {s t u : Scene} (hst : Untouched exempt s t) (htu : Delivered none output text t u) :
    Delivered exempt output text s u := by
  rw [Delivered] at htu ⊢
  split at htu
  · obtain ⟨p, hplace, hcontent, hfiles, houtput⟩ := htu
    refine ⟨p, hplace, hcontent, fun q hne hexempt => ?_, houtput.trans hst.output⟩
    exact (hfiles q hne (Option.some_ne_none q)).trans (hst.files q hexempt)
  · exact ⟨htu.1.trans (congrArg (· ++ text) hst.output), hst.files.trans htu.2.mono⟩

/-! ## Reading -/

/-- The bytes that a command gets from an input, if there are any: those of the file or, when there
is none or it is a dash, those of the standard input. -/
def bytes? (s : Scene) (input : Option String) : Option ByteArray :=
  match input.filter fun path => !Path.isDash path with
  | some path => (s.folder.read path).toOption
  | none => some s.input

/-- The scene behind the reading of an input. -/
def drained (s : Scene) (input : Option String) : Scene :=
  match input.filter fun path => !Path.isDash path with
  | some _ => s
  | none => { s with input := ByteArray.empty }

/-- Reading an input leaves the folder as it is. -/
theorem folder_drained (s : Scene) (input : Option String) :
    (s.drained input).folder = s.folder := by
  rw [drained]
  split <;> rfl

/-- Reading writes nothing. -/
theorem untouched_drained (s : Scene) (input : Option String) :
    Untouched none s (s.drained input) := by
  rw [drained]
  split <;> exact ⟨rfl, .refl none s.folder⟩

/-- A database is read exactly if there are bytes and the reader makes one of them. -/
theorem act_readDatabase (s : Scene) (client : Client) (input : Option String) :
    ∃ result, s.act (readDatabase client input) = (result, s.drained input)
      ∧ ∀ db, result = .ok db
        ↔ ∃ bytes, s.bytes? input = some bytes ∧ client.reader.bytes bytes = .ok db := by
  rw [readDatabase, drained, bytes?]
  cases input.filter fun path => !Path.isDash path with
  | some path =>
      simp only [readFileDatabase, act_bind, act_readFile]
      cases s.folder.read path with
      | error e => exact ⟨_, rfl, by simp [Except.toOption]⟩
      | ok bytes =>
          cases hbytes : client.reader.bytes bytes with
          | error e => exact ⟨_, by simp [hbytes]; rfl, by simp [Except.toOption, hbytes]⟩
          | ok db => exact ⟨_, by simp [hbytes]; rfl, by simp [Except.toOption, hbytes]⟩
  | none =>
      simp only [act_bind, act_readInput]
      cases hbytes : client.reader.bytes s.input with
      | error e => exact ⟨_, rfl, by simp [hbytes]⟩
      | ok db => exact ⟨_, rfl, by simp [hbytes]⟩

/-- Whether an input provides a database to a client: there are bytes, they encode a text, and the
client has a name for the database. -/
def Provides (s : Scene) (client : Client) (input : Option String) : Prop :=
  ∃ bytes, s.bytes? input = some bytes ∧ (Text.decode? bytes).isSome = true
    ∧ Text.isBlank client.config.database.name = false

/-- Reading goes through exactly if the input provides a database, and then it is the one that the
reader makes of the bytes. -/
theorem readDatabase_cases (s : Scene) (client : Client) (input : Option String) :
    (∃ failure, s.act (readDatabase client input) = (.error failure, s.drained input))
        ∧ ¬ s.Provides client input
      ∨ s.Provides client input ∧ ∃ bytes db, s.bytes? input = some bytes
        ∧ client.reader.bytes bytes = .ok db
        ∧ s.act (readDatabase client input) = (.ok db, s.drained input) := by
  obtain ⟨result, hread, hdb⟩ := s.act_readDatabase client input
  cases result with
  | error failure =>
      refine .inl ⟨⟨failure, hread⟩, ?_⟩
      rintro ⟨bytes, hbytes, hgood⟩
      obtain ⟨db, hmade⟩ := (client.reader.exists_bytes_eq_ok_iff bytes).2 hgood
      cases (hdb db).2 ⟨bytes, hbytes, hmade⟩
  | ok db =>
      obtain ⟨bytes, hbytes, hmade⟩ := (hdb db).1 rfl
      have hgood := (client.reader.exists_bytes_eq_ok_iff bytes).1 ⟨db, hmade⟩
      exact .inr ⟨⟨bytes, hbytes, hgood⟩, bytes, db, hbytes, hmade, hread⟩

/-! ## Writing -/

/-- Whether an output takes a text: if it has a file, the path leads to a place for one. -/
def Takes (s : Scene) (output : Option String) : Prop :=
  ∀ path, output.filter (fun path => !Path.isDash path) = some path → s.folder.LeadsToFile path

/-- An output is written as a whole or, when it does not take a text, not at all. -/
theorem writeOutput_cases (s : Scene) (output : Option String) (text : String) :
    (∃ failure, s.act (writeOutput output text) = (.error failure, s)) ∧ ¬ s.Takes output
      ∨ s.Takes output
        ∧ ∃ t, s.act (writeOutput output text) = (.ok (), t) ∧ Delivered none output text s t := by
  unfold writeOutput Delivered Takes
  cases output.filter fun path => !Path.isDash path with
  | some path =>
      have htakes : (∀ path', some path = some path' → s.folder.LeadsToFile path')
          ↔ ∃ folder, s.folder.write path text.toUTF8 = .ok folder := by
        simp [s.folder.exists_write_iff]
      rw [htakes]
      simp only [act_bind, act_writeFile]
      cases hwrite : s.folder.write path text.toUTF8 with
      | error e => exact .inl ⟨⟨_, rfl⟩, by simp⟩
      | ok folder =>
          obtain ⟨p, hplace, hcontent, hsame⟩ := Folder.content?_of_write hwrite
          exact .inr ⟨⟨folder, rfl⟩, _, rfl, p, hplace, hcontent,
            fun q hne _ => hsame q (fun h => hne (Option.some.inj h)), rfl⟩
  | none => exact .inr ⟨by simp, _, rfl, rfl, .refl none s.folder⟩

/-- What has been written to the standard error stream is nothing to an output. -/
theorem act_writeOutput_errors (s : Scene) (errors : String) (output : Option String)
    (text : String) :
    { s with errors }.act (writeOutput output text)
      = ((s.act (writeOutput output text)).1,
        { (s.act (writeOutput output text)).2 with errors }) := by
  rw [writeOutput]
  cases output.filter fun path => !Path.isDash path with
  | some path =>
      simp only [act_bind, act_writeFile]
      cases s.folder.write path text.toUTF8 <;> rfl
  | none => rfl

end Scene

end Cli

end Schemata
