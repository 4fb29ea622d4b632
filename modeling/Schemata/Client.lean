import Schemata.Comparison
import Schemata.Config
import Schemata.Ddl.Reader
import Schemata.Script
import Schemata.Validation

/-! # Clients

What a configuration makes of a text: the reader of databases and the writer of statements that it
describes. -/

namespace Schemata

/-- A reader and a writer with common settings. -/
structure Client where
  /-- The settings. -/
  config : Config
  deriving DecidableEq, Repr, Inhabited

namespace Client

/-- The reader of databases. -/
def reader (c : Client) : Ddl.Reader := ⟨c.config.database.name, c.config.database.schema⟩

/-- The writer of statements. -/
def writer (c : Client) : Writer := ⟨c.config.output.style, c.config.database.defaultSchema⟩

/-- The script that builds a database. -/
def script (c : Client) (db : Database) : String :=
  c.writer.databaseScript db c.config.output.createDatabase

/-- The text of the statements that make changes. -/
def alterations (c : Client) (changes : List Change) : String := c.writer.changes changes

end Client

end Schemata
