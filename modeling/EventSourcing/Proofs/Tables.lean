import EventSourcing.Proofs.Compensation
import Mathlib.Order.Bounds.Basic

/-!
# The ids that a table remembers

A table remembers the greatest id that was ever stored. As long as nothing is taken out, that is the
greatest one under which something is found.
-/

namespace EventSourcing.SnapshotTable

variable {S : Type} {table table' : SnapshotTable S}

/-- The ids under which something is found, with 0, from which a table starts to count. -/
def ids (table : SnapshotTable S) : Set Int :=
  insert 0 (Int64.toInt '' {id | (table.find id).isSome})

def Tidy (table : SnapshotTable S) : Prop := IsGreatest table.ids table.lastId.toInt

theorem tidy_empty : Tidy ({} : SnapshotTable S) := by
  have hids : ids ({} : SnapshotTable S) = {0} := by
    simp [ids, find]
  rw [Tidy, hids]
  exact isGreatest_singleton

theorem ids_of_persist [Snapshot S] {s : S} {id : Int64} (hid : Snapshot.id? s = some id)
    (hp : table.persist s = (s, table')) : table'.ids = insert id.toInt table.ids := by
  have hthere : {key | (table'.find key).isSome} = insert id {key | (table.find key).isSome} := by
    ext key
    change (table'.find key).isSome ↔ key = id ∨ (table.find key).isSome
    rw [find_of_persist hp, hid]
    by_cases he : id = key
    · simp [he]
    · simp [he, Ne.symm he]
  rw [ids, hthere, Set.image_insert_eq, Set.insert_comm]
  rfl

theorem Tidy.persist [Snapshot S] (h : table.Tidy) {s : S} {id : Int64}
    (hid : Snapshot.id? s = some id) (hp : table.persist s = (s, table')) : table'.Tidy := by
  have hlast : table'.lastId.toInt = max id.toInt table.lastId.toInt := by
    simp only [SnapshotTable.persist, hid] at hp
    cases hp
    dsimp only
    split <;> omega
  rw [Tidy, ids_of_persist hid hp, hlast]
  exact h.insert id.toInt

/-- Of tidy tables in which the same is found under every id there is only one. -/
theorem Tidy.eq_of_find (h : table.Tidy) (h' : table'.Tidy)
    (hf : ∀ id, table.find id = table'.find id) : table = table' := by
  have hids : table.ids = table'.ids := by
    simp only [ids, hf]
  have hlast : table.lastId = table'.lastId := Int64.toInt_inj.1 (h.unique (hids ▸ h'))
  have hentries : table.entries = table'.entries := Std.ExtTreeMap.ext_getElem? hf
  cases table
  cases table'
  exact congr (congrArg mk hentries) hlast

end EventSourcing.SnapshotTable
