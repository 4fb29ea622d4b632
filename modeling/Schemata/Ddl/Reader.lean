import Schemata.Database
import Schemata.Ddl.Field
import Schemata.Ddl.Scan
import Schemata.Ddl.Translate
import Schemata.Text.Lines

/-! # Reading DDL

A reader makes a database of the `CREATE TABLE` statements of a text. It reads on past whatever it
does not know: key declarations and fields without a name are passed over, and a type without a
counterpart becomes unknown. -/

namespace Schemata.Ddl

/-- The names that what is read goes under. -/
structure Reader where
  /-- The name of the database. -/
  database : String
  /-- The schema of every table. -/
  schema : String
  deriving DecidableEq, Repr, Inhabited

/-- Whether a field declares a key. -/
def isKeyField (field : List Char) : Bool := Text.occurs ['k', 'e', 'y', ' '] (Text.lower field)

/-- The column that a field declares, if it has a name. -/
def column? (field : List Char) : Option Column :=
  let (name, type) := splitColumn field
  (Column.ofType (String.ofList name) (translate type)).toOption

/-- The columns that the text between the outer parentheses of a statement declares. -/
def columns (body : List Char) : List Column :=
  ((fields body).filter fun field => !isKeyField field).filterMap column?

namespace Reader

/-- The table that a statement creates, if it names one. -/
def table? (r : Reader) (statement : List Char) : Option Table := do
  let (words, after) ← Text.cutAt? (· == '(') (quoteBrackets statement)
  let name ← tableName? words
  let t ← (Table.inSchema (String.ofList name) r.schema).toOption
  return t.addColumns (columns ((Text.beforeLast? (· == ')') after).getD []))

/-- The database of the statements among some lines. -/
def lines (r : Reader) (lines : List (List Char)) : Except Error Database := do
  let db ← Database.make r.database
  return ((statements lines).filterMap r.table?).foldl Database.addTable db

/-- The database of the statements in a text. -/
def text (r : Reader) (text : String) : Except Error Database := r.lines (Text.lines text.toList)

/-- The database of the statements in a text given as bytes. -/
def bytes (r : Reader) (bytes : ByteArray) : Except Error Database :=
  match Text.decode? bytes with
  | some text => r.text text
  | none => .error (.io .invalidUtf8)

end Reader

end Schemata.Ddl
