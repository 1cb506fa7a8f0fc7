import Tabula.Proofs.Table.Refinement

/-!
# Well-formed tables

A well-formed table has indexes that mirror its rows, sound rows and a counter beyond every id.
Every change of a well-formed table follows the plain table's step, keeps the table well-formed and
leaves its schema alone.
-/

namespace Tabula
namespace Table

structure WellFormed (table : Table) : Prop where
  mirrored : table.Mirrored
  sound : table.plain.Sound
  allocated : table.plain.Allocated

theorem wellFormed_new {schema : Schema} (h : schema.WellFormed) :
    (new schema.derivePrimaryKey).WellFormed where
  mirrored := mirrored_new _
  sound := PlainTable.sound_new h
  allocated := PlainTable.allocated_new _

/-- What a change makes of a table. -/
structure Keeps (table table' : Table) : Prop where
  wellFormed : table'.WellFormed
  schema_eq : table'.schema = table.schema

variable {table : Table}

theorem WellFormed.follows_insert (h : table.WellFormed) (columns : List String)
    (values : List Value) :
    Change.Follows plain table.Keeps table ((insert columns values).run.run table)
      (table.plain.insert columns values) := by
  apply (Table.follows_insert h.mirrored h.allocated columns values).imp
  intro id table' hok hmirrored
  have hsound := h.sound.insert h.allocated hok
  rcases PlainTable.insert_eq_ok_iff.mp hok with ⟨_, _, _, _, hplain⟩
  exact ⟨⟨hmirrored, hsound.1, hsound.2⟩, congrArg PlainTable.schema hplain⟩

theorem WellFormed.follows_update (h : table.WellFormed) (assignments : List (String × Value))
    (keep : Row -> Bool) :
    Change.Follows plain table.Keeps table ((update assignments keep).run.run table)
      (table.plain.update assignments keep) := by
  apply (Table.follows_update h.mirrored assignments keep).imp
  intro count table' hok hmirrored
  have hsound := h.sound.update hok
  have hallocated := h.allocated.update hok
  rcases PlainTable.update_eq_ok_iff.mp hok with ⟨_, _, _, _, _, hplain⟩
  exact ⟨⟨hmirrored, hsound, hallocated⟩, congrArg PlainTable.schema hplain⟩

theorem WellFormed.follows_delete (h : table.WellFormed) (keep : Row -> Bool) :
    Change.Follows plain table.Keeps table ((delete keep).run.run table)
      (table.plain.delete keep) := by
  apply (Table.follows_delete h.mirrored keep).imp
  intro count table' hok hmirrored
  have hsound := h.sound.delete hok
  have hallocated := h.allocated.delete hok
  have hplain := congrArg Prod.snd (Except.ok.inj hok)
  exact ⟨⟨hmirrored, hsound, hallocated⟩, (congrArg PlainTable.schema hplain).symm⟩

/-- A table rebuilt from rows is well-formed. -/
theorem wellFormed_ofRows {schema : Schema} (h : schema.WellFormed) {rows : List NamedRow}
    {nextRowId : Nat} (hok : ofRows schema.derivePrimaryKey rows nextRowId = .ok table) :
    table.WellFormed ∧ table.schema = schema.derivePrimaryKey := by
  rcases plain_of_ofRows hok with ⟨hplain, hmirrored⟩
  have hsound := PlainTable.sound_ofRows h hplain
  exact ⟨⟨hmirrored, hsound.1, hsound.2⟩, PlainTable.schema_ofRows hplain⟩

end Table
end Tabula
