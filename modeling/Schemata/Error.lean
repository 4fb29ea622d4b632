import Schemata.SystemError
import Schemata.Text.Blank

/-! # Errors

Every failure of the library is a cause. Its wording is one function of the cause: the label of its
kind, a colon, and the detail. -/

namespace Schemata

/-- What a text that must not be blank is for. -/
inductive Role where
  /-- The name of a column. -/
  | columnName
  /-- A column of a shard key. -/
  | shardKeyColumn
  /-- The table that a foreign key belongs to. -/
  | foreignKeySource
  /-- The table that a foreign key refers to. -/
  | foreignKeyTarget
  /-- A column that a foreign key constrains. -/
  | foreignKeySourceColumn
  /-- A column that a foreign key refers to. -/
  | foreignKeyTargetColumn
  /-- The name of a foreign key. -/
  | foreignKeyName
  /-- The table that a relationship starts from. -/
  | relationshipSource
  /-- The table that a relationship leads to. -/
  | relationshipTarget
  /-- The condition of a relationship. -/
  | relationshipCondition
  /-- The name of a relationship. -/
  | relationshipName
  /-- The name of a table. -/
  | tableName
  /-- The name of a schema. -/
  | schemaName
  /-- A column of a primary key. -/
  | primaryKeyColumn
  /-- The name of a database. -/
  | databaseName
  deriving DecidableEq, Repr

/-- The wording of a role. -/
def Role.label : Role → String
  | .columnName => "column name"
  | .shardKeyColumn => "shard key column"
  | .foreignKeySource => "foreign key from_table"
  | .foreignKeyTarget => "foreign key to_table"
  | .foreignKeySourceColumn => "foreign key from column"
  | .foreignKeyTargetColumn => "foreign key to column"
  | .foreignKeyName => "foreign key name"
  | .relationshipSource => "relationship from_table"
  | .relationshipTarget => "relationship to_table"
  | .relationshipCondition => "relationship conditions"
  | .relationshipName => "relationship name"
  | .tableName => "table name"
  | .schemaName => "schema name"
  | .primaryKeyColumn => "primary key column"
  | .databaseName => "database name"

/-- The causes of failure. -/
inductive Error where
  /-- A text that must say something is blank. -/
  | blank (role : Role)
  /-- A shard key without columns. -/
  | emptyShardKey
  /-- A shard key over no shards. -/
  | noShards
  /-- A foreign key without columns. -/
  | emptyForeignKey (source target : String)
  /-- A case style that is not known. -/
  | unknownCase (text : String)
  /-- A column type that the target does not know. -/
  | invalidType (type column : String)
  /-- A foreign key whose two column lists differ in length. -/
  | keyMismatch (source target : String) (sourceKeys targetKeys : Nat)
  /-- A configuration file that cannot be read. -/
  | unreadableConfig (path : String) (cause : SystemError)
  /-- A configuration text that cannot be understood. -/
  | malformedConfig (reason : String)
  /-- A file or stream that cannot be read or written. -/
  | io (cause : SystemError)
  deriving DecidableEq, Repr

namespace Error

/-- The wording of the kind of a failure. -/
def label : Error → String
  | .blank _ | .emptyShardKey | .noShards | .emptyForeignKey .. | .unknownCase _ =>
      "Invalid argument"
  | .invalidType .. => "Invalid column type"
  | .keyMismatch .. => "Key mismatch"
  | .unreadableConfig .. | .malformedConfig _ => "Configuration error"
  | .io _ => "IO error"

/-- The wording of the details of a failure. -/
def detail : Error → String
  | .blank role => s!"{role.label} must not be empty"
  | .emptyShardKey => "shard key needs at least one column"
  | .noShards => "number of shards must be positive"
  | .emptyForeignKey source target => s!"foreign key from {source} to {target} has no key columns"
  | .unknownCase text => s!"unknown case mode: {text}"
  | .invalidType type column => s!"{type} is not a valid column type for column {column}"
  | .keyMismatch source target sourceKeys targetKeys =>
      s!"foreign key from {source} to {target} has {sourceKeys} from keys and {targetKeys} to keys"
  | .unreadableConfig path cause => s!"Failed to read config file {path}: {cause.message}"
  | .malformedConfig reason => s!"Failed to parse config file: {reason}"
  | .io cause => cause.message

/-- The wording of a failure. -/
def message (e : Error) : String := s!"{e.label}: {e.detail}"

end Error

/-- A step after a check succeeds exactly when the check and the step on its result do. -/
theorem bind_eq_ok_iff {ε α β : Type} (check : Except ε α) (step : α → Except ε β) (b : β) :
    check >>= step = .ok b ↔ ∃ a, check = .ok a ∧ step a = .ok b := by
  cases check with
  | error e => simp [bind, Except.bind]
  | ok a => simp [bind, Except.bind]

/-- A step behind a refusal is taken exactly when there is no reason to refuse. -/
theorem refuse_eq_ok_iff {ε α : Type} {reason : Prop} [Decidable reason] (e : ε)
    (step : Except ε α) (a : α) :
    (if reason then throw e >>= fun _ : PUnit => step else step) = .ok a
      ↔ ¬ reason ∧ step = .ok a := by
  by_cases h : reason
  · simp [h, throw, throwThe, MonadExceptOf.throw, bind, Except.bind]
  · simp [h]

/-- A text for a role that does not allow a blank one. -/
def requireText (role : Role) (text : String) : Except Error String :=
  if Text.isBlank text then .error (.blank role) else .ok text

/-- A text is accepted, unchanged, exactly when it is not blank. -/
theorem requireText_eq_ok_iff (role : Role) (text result : String) :
    requireText role text = .ok result ↔ Text.isBlank text = false ∧ result = text := by
  unfold requireText
  by_cases h : Text.isBlank text <;> simp [h, eq_comm]

/-- The texts of a list for a role that does not allow a blank one among them. -/
def requireTexts (role : Role) (texts : List String) : Except Error (List String) :=
  if texts.any Text.isBlank then .error (.blank role) else .ok texts

/-- A list of texts is accepted, unchanged, exactly when none of them is blank. -/
theorem requireTexts_eq_ok_iff (role : Role) (texts result : List String) :
    requireTexts role texts = .ok result
      ↔ (∀ text ∈ texts, Text.isBlank text = false) ∧ result = texts := by
  unfold requireTexts
  by_cases h : texts.any Text.isBlank
  · simp only [h, if_true, reduceCtorEq, false_iff, not_and]
    intro hall
    obtain ⟨text, hmem, hblank⟩ := List.any_eq_true.1 h
    simp [hall text hmem] at hblank
  · simp only [h, Bool.false_eq_true, if_false, Except.ok.injEq, eq_comm (a := texts)]
    simp only [List.any_eq_true, not_exists, not_and, Bool.not_eq_true] at h
    exact ⟨fun e => ⟨h, e⟩, fun e => e.2⟩

end Schemata
