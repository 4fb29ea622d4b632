import Schemata.Comparison
import Schemata.Json

/-! # Databases and changes in JSON

The JSON form of the model. Catalogs are objects whose members stand in the order of the catalog. -/

namespace Schemata

/-- A column in JSON. -/
def Column.json (c : Column) : Json :=
  .obj [("name", .str c.name), ("column_type", .str c.type.text)]

/-- A shard key in JSON. -/
def ShardKey.json (k : ShardKey) : Json :=
  .obj [("columns", .strings k.columns), ("number_shards", .num k.shards)]

/-- A foreign key in JSON. -/
def ForeignKey.json (k : ForeignKey) : Json :=
  .obj [("name", .str k.name), ("from_table", .str k.source),
    ("from_keys", .strings k.sourceKeys), ("to_table", .str k.target),
    ("to_keys", .strings k.targetKeys)]

/-- A relationship in JSON. -/
def Relationship.json (r : Relationship) : Json :=
  .obj [("name", .str r.name), ("from_table", .str r.source), ("to_table", .str r.target),
    ("conditions", .str r.condition)]

/-- A catalog in JSON, given the form of its members. -/
def Catalog.json {α : Type} [Named α] (form : α → Json) (c : Catalog α) : Json :=
  .obj (c.toList.map fun x => (Named.name x, form x))

/-- A table in JSON. -/
def Table.json (t : Table) : Json :=
  .obj [("table_name", .str t.name), ("schema_name", .str t.schema),
    ("primary_key", .strings t.primaryKey),
    ("shard_key", (t.shardKey.map ShardKey.json).getD .null),
    ("columns", t.columns.json Column.json), ("foreign_keys", t.foreignKeys.json ForeignKey.json),
    ("relationships", t.relationships.json Relationship.json)]

/-- A tally of schemas in JSON. -/
def SchemaTally.json (t : SchemaTally) : Json :=
  .obj (t.entries.map fun entry => (entry.1, .num entry.2))

/-- A database in JSON. -/
def Database.json (db : Database) : Json :=
  .obj [("database_name", .str db.name), ("tables", db.tables.json Table.json),
    ("schemas", db.schemas.json)]

/-- The place of a table in JSON. -/
def TableRef.json (r : TableRef) : Json :=
  .obj [("database_name", .str r.database), ("schema_name", .str r.schema),
    ("table_name", .str r.table)]

namespace ChangeAction

/-- The word for a change in JSON. -/
def tag : ChangeAction → String
  | .tableCreated _ => "table_created"
  | .tableDropped _ => "table_dropped"
  | .primaryKeyAdded _ => "primary_key_added"
  | .primaryKeyDropped => "primary_key_dropped"
  | .shardKeyAdded _ => "shard_key_added"
  | .shardKeyDropped => "shard_key_dropped"
  | .foreignKeyAdded _ => "foreign_key_added"
  | .foreignKeyDropped _ => "foreign_key_dropped"
  | .relationshipAdded _ => "relationship_added"
  | .relationshipDropped _ => "relationship_dropped"
  | .columnAdded _ => "column_added"
  | .columnDropped _ => "column_dropped"
  | .columnModified _ => "column_modified"

/-- The member of a change in JSON that says what is added, dropped or modified. -/
def payload : ChangeAction → List (String × Json)
  | .tableCreated table | .tableDropped table => [("table", table.json)]
  | .primaryKeyAdded columns => [("primary_key", .strings columns)]
  | .shardKeyAdded key => [("shard_key", key.json)]
  | .foreignKeyAdded key => [("foreign_key", key.json)]
  | .relationshipAdded relationship => [("relationship", relationship.json)]
  | .foreignKeyDropped constraint | .relationshipDropped constraint => [("name", .str constraint)]
  | .columnAdded column | .columnDropped column | .columnModified column =>
      [("column", column.json)]
  | .primaryKeyDropped | .shardKeyDropped => []

end ChangeAction

/-- A change in JSON. -/
def Change.json (c : Change) : Json :=
  .obj ([("kind", .str c.action.tag), ("target", c.target.json)] ++ c.action.payload)

/-- A comparison in JSON. -/
def Comparison.json (c : Comparison) : Json :=
  .obj [("first", .arr (c.first.map Change.json)), ("second", .arr (c.second.map Change.json))]

end Schemata
