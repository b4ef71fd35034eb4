import Garage.Store.Table
import Mathlib.Data.List.Nodup

/-!
# Rows found, replaced and added

One lemma for each operation says what it does to the row that is found for a username. `Bounded` is what
every table keeps, however its rows are written and deleted: the next id is new. `Lawful` adds that ids and
usernames are unique, so an id picks out one row, which alone is replaced. `Numbered` is the shape of a table
into which rows have only been added with the ids that it gives out: they are numbered from one, without a
gap.
-/

namespace Garage.Store.Table

/-! ## Finding a row -/

theorem mem_of_find? {t : Table} {username : String} {row : Row} (h : t.find? username = some row) :
    row ∈ t.rows := List.mem_of_find?_eq_some h

theorem username_of_find? {t : Table} {username : String} {row : Row}
    (h : t.find? username = some row) : row.username = username :=
  beq_iff_eq.mp (List.find?_some (p := fun row : Row => row.username == username) h)

theorem find?_eq_none_iff {t : Table} {username : String} :
    t.find? username = none ↔ username ∉ t.rows.map Row.username := by
  rw [find?, List.find?_eq_none, List.mem_map]
  constructor
  · rintro h ⟨row, hm, hu⟩
    exact h row hm (beq_iff_eq.mpr hu)
  · intro h row hm hu
    exact h ⟨row, hm, beq_iff_eq.mp hu⟩

/-- A username picks out one row at most. -/
theorem length_filter_le_one {t : Table} (h : (t.rows.map Row.username).Nodup) (username : String) :
    (t.rows.filter fun row => row.username == username).length ≤ 1 := by
  have hc := List.nodup_iff_count_le_one.mp h username
  rwa [List.count, List.countP_map, List.countP_eq_length_filter] at hc

/-- Where usernames are unique, a user's row is the one that is found. -/
theorem find?_eq_some_iff {t : Table} (h : (t.rows.map Row.username).Nodup) {username : String}
    {row : Row} : t.find? username = some row ↔ row ∈ t.rows ∧ row.username = username := by
  constructor
  · exact fun hr => ⟨mem_of_find? hr, username_of_find? hr⟩
  · rintro ⟨hm, rfl⟩
    cases hr : t.find? row.username with
    | none => exact absurd (List.mem_map_of_mem hm) (find?_eq_none_iff.mp hr)
    | some found =>
      rw [List.inj_on_of_nodup_map h (mem_of_find? hr) hm (username_of_find? hr)]

/-! ## Replacing make and model -/

theorem find?_replace (t : Table) (id : Int) (make model username : String) :
    (t.replace id make model).find? username =
      (t.find? username).map fun row => if row.id = id then { row with make, model } else row := by
  rw [find?, find?, replace]
  dsimp only
  rw [List.find?_map]
  congr 2
  funext row
  simp only [Function.comp_apply]
  split <;> rfl

/-- Where ids are unique, what is found for any other user stays as it was. -/
theorem find?_replace_of_ne {t : Table} (h : (t.rows.map Row.id).Nodup) {u v : String} {row : Row}
    (hr : t.find? u = some row) (hv : v ≠ u) (make model : String) :
    (t.replace row.id make model).find? v = t.find? v := by
  rw [find?_replace]
  cases hr' : t.find? v with
  | none => rfl
  | some other =>
    have hne : other.id ≠ row.id := by
      intro he
      have hsame := List.inj_on_of_nodup_map h (mem_of_find? hr') (mem_of_find? hr) he
      rw [← username_of_find? hr', ← username_of_find? hr, hsame] at hv
      exact hv rfl
    rw [Option.map_some, if_neg hne]

theorem ids_replace (t : Table) (id : Int) (make model : String) :
    (t.replace id make model).rows.map Row.id = t.rows.map Row.id := by
  simp only [replace, List.map_map]
  refine List.map_congr_left fun row _ => ?_
  simp only [Function.comp_apply]
  split <;> rfl

/-- What holds of all rows, and of each with that make and model, holds of all rows afterwards. -/
theorem forall_rows_replace {P : Row → Prop} {t : Table} {make model : String}
    (h : ∀ row ∈ t.rows, P row) (hnew : ∀ row ∈ t.rows, P { row with make, model }) (id : Int) :
    ∀ row ∈ (t.replace id make model).rows, P row := by
  intro row hm
  obtain ⟨old, hold, rfl⟩ := List.mem_map.mp hm
  split
  · exact hnew old hold
  · exact h old hold

/-! ## Adding a row -/

theorem minId_le_nextId (t : Table) : minId ≤ t.nextId := by
  rw [nextId, minId]
  omega

/-- The table with one more row, which has the next id. -/
def add (t : Table) (username make model : String) : Table :=
  ⟨t.rows ++ [⟨t.nextId, username, make, model, .now⟩], t.lastId + 1⟩

theorem usernames_add (t : Table) (username make model : String) :
    (t.add username make model).rows.map Row.username = t.rows.map Row.username ++ [username] := by
  rw [add]
  dsimp only
  rw [List.map_append, List.map_singleton]

theorem find?_add (t : Table) (username make model v : String) :
    (t.add username make model).find? v =
      (t.find? v).or (if username = v then some ⟨t.nextId, username, make, model, .now⟩ else none) := by
  rw [find?, find?, add]
  dsimp only
  rw [List.find?_append, List.find?_singleton]
  simp only [beq_iff_eq]

theorem forall_rows_add {P : Row → Prop} {t : Table} {username make model : String}
    (h : ∀ row ∈ t.rows, P row) (hnew : P ⟨t.nextId, username, make, model, .now⟩) :
    ∀ row ∈ (t.add username make model).rows, P row := by
  intro row hm
  rcases List.mem_append.mp hm with hm | hm
  · exact h row hm
  · rw [List.mem_singleton.mp hm]
    exact hnew

/-- A row of a new user is written with the next id, unless a row has that id. -/
theorem insert_eq_add {t : Table} {username : String} (hu : t.find? username = none)
    (hid : t.nextId ∉ t.rows.map Row.id) (make model : String) :
    t.insert ⟨none, username, make, model, .now⟩ =
      .ok (⟨t.nextId, username, make, model, .now⟩, t.add username make model) := by
  have hrow : t.rowOf ⟨none, username, make, model, .now⟩ =
      ⟨t.nextId, username, make, model, .now⟩ := rfl
  have hids : t.rows.any (fun row => row.id == t.nextId) = false := by
    rw [List.any_eq_false]
    intro row hm he
    exact hid (List.mem_map.mpr ⟨row, hm, beq_iff_eq.mp he⟩)
  have husers : t.rows.any (fun row => row.username == username) = false := by
    rw [List.any_eq_false]
    intro row hm he
    exact find?_eq_none_iff.mp hu (List.mem_map.mpr ⟨row, hm, beq_iff_eq.mp he⟩)
  have hlast : max t.lastId t.nextId.toNat = t.lastId + 1 := by
    have : t.nextId.toNat = t.lastId + 1 := by rw [nextId]; omega
    omega
  rw [insert, hrow]
  dsimp only
  rw [hids, husers, hlast]
  rfl

/-! ## Writing and deleting any row -/

/-- A row that is written goes behind the others, and its id counts as given out. -/
theorem eq_of_insert {t t' : Table} {r : NewRow} {row : Row} (h : t.insert r = .ok (row, t')) :
    row = t.rowOf r ∧ t' = ⟨t.rows ++ [t.rowOf r], max t.lastId (t.rowOf r).id.toNat⟩ := by
  unfold insert at h
  simp only at h
  split at h
  · cases h
  · split at h
    · cases h
    · cases h
      exact ⟨rfl, rfl⟩

/-- A row that is written for a new user is the one found for that user. -/
theorem find?_of_insert {t t' : Table} {r : NewRow} {row : Row} (hr : t.find? r.username = none)
    (h : t.insert r = .ok (row, t')) : t'.find? r.username = some row := by
  obtain ⟨rfl, rfl⟩ := eq_of_insert h
  rw [find?] at hr ⊢
  have hu : ((t.rowOf r).username == r.username) = true := beq_self_eq_true r.username
  rw [List.find?_append, hr, Option.none_or, List.find?_singleton, if_pos hu]

theorem forall_rows_insert {P : Row → Prop} {t t' : Table} {r : NewRow} {row : Row}
    (h : ∀ row ∈ t.rows, P row) (hi : t.insert r = .ok (row, t')) (hnew : P (t.rowOf r)) :
    ∀ row ∈ t'.rows, P row := by
  obtain ⟨-, rfl⟩ := eq_of_insert hi
  intro row hm
  rcases List.mem_append.mp hm with hm | hm
  · exact h row hm
  · rw [List.mem_singleton.mp hm]
    exact hnew

theorem forall_rows_delete {P : Row → Prop} {t : Table} (h : ∀ row ∈ t.rows, P row)
    (username : String) : ∀ row ∈ (t.delete username).2.rows, P row :=
  fun row hm => h row (List.mem_of_mem_filter hm)

/-! ## Ids that were given out -/

/-- No row has an id above the last one. -/
def Bounded (t : Table) : Prop := ∀ row ∈ t.rows, row.id ≤ t.lastId

theorem bounded_empty : Bounded empty := fun _ hm => absurd hm List.not_mem_nil

/-- The next id is new, whatever rows there have been. -/
theorem Bounded.nextId_not_mem {t : Table} (h : t.Bounded) : t.nextId ∉ t.rows.map Row.id := by
  intro hm
  obtain ⟨row, hm, he⟩ := List.mem_map.mp hm
  have hb := h row hm
  rw [he, nextId] at hb
  omega

theorem Bounded.replace {t : Table} (h : t.Bounded) (id : Int) (make model : String) :
    (t.replace id make model).Bounded :=
  forall_rows_replace h h id

theorem Bounded.insert {t t' : Table} {r : NewRow} {row : Row} (h : t.Bounded)
    (hi : t.insert r = .ok (row, t')) : t'.Bounded := by
  obtain ⟨-, he⟩ := eq_of_insert hi
  have hlast : t'.lastId = max t.lastId (t.rowOf r).id.toNat := by rw [he]
  refine forall_rows_insert (fun old hm => ?_) hi ?_
  · have hb := h old hm
    omega
  · omega

theorem Bounded.delete {t : Table} (h : t.Bounded) (username : String) :
    (t.delete username).2.Bounded :=
  forall_rows_delete h username

/-! ## Lawful tables -/

/-- What the schema asks of a table: ids and usernames are unique, and no id is above the last one. -/
structure Lawful (t : Table) : Prop where
  ids : (t.rows.map Row.id).Nodup
  usernames : (t.rows.map Row.username).Nodup
  bounded : t.Bounded

theorem lawful_empty : Lawful empty := ⟨List.nodup_nil, List.nodup_nil, bounded_empty⟩

/-- An id picks out one row, and the others stay as they are. -/
theorem Lawful.replace_eq {t : Table} (h : t.Lawful) {before after : List Row} {row : Row}
    (hr : t.rows = before ++ row :: after) (make model : String) :
    t.replace row.id make model = ⟨before ++ { row with make, model } :: after, t.lastId⟩ := by
  have hids := h.ids
  rw [hr, List.map_append, List.map_cons, List.nodup_middle, List.nodup_cons, List.mem_append,
    not_or] at hids
  have hkeep : ∀ rows : List Row, row.id ∉ rows.map Row.id →
      (rows.map fun r => if r.id = row.id then { r with make, model } else r) = rows := by
    intro rows hout
    conv_rhs => rw [← List.map_id rows]
    refine List.map_congr_left fun r hm => if_neg fun he => hout ?_
    exact he ▸ List.mem_map_of_mem hm
  rw [replace, hr, List.map_append, List.map_cons, if_pos rfl, hkeep before hids.1.1,
    hkeep after hids.1.2]

/-- To write what a row holds already changes nothing. -/
theorem Lawful.replace_eq_self {t : Table} (h : t.Lawful) {row : Row} (hm : row ∈ t.rows) :
    t.replace row.id row.make row.model = t := by
  obtain ⟨before, after, hr⟩ := List.append_of_mem hm
  rw [h.replace_eq hr, ← hr]

theorem Lawful.replace {t : Table} (h : t.Lawful) (id : Int) (make model : String) :
    (t.replace id make model).Lawful where
  ids := by rw [ids_replace]; exact h.ids
  usernames := by rw [usernames_replace]; exact h.usernames
  bounded := h.bounded.replace id make model

/-- What `insert` accepts clashes with no row. -/
theorem not_mem_of_insert {t t' : Table} {r : NewRow} {row : Row} (hi : t.insert r = .ok (row, t')) :
    (t.rowOf r).id ∉ t.rows.map Row.id ∧ (t.rowOf r).username ∉ t.rows.map Row.username := by
  unfold insert at hi
  simp only at hi
  split at hi
  · cases hi
  · next hid =>
    split at hi
    · cases hi
    · next hu =>
      simp only [List.any_eq_true, beq_iff_eq, not_exists, not_and] at hid hu
      simp only [List.mem_map, not_exists, not_and]
      exact ⟨hid, hu⟩

theorem Lawful.insert {t t' : Table} (h : t.Lawful) {r : NewRow} {row : Row}
    (hi : t.insert r = .ok (row, t')) : t'.Lawful := by
  obtain ⟨hid, hu⟩ := not_mem_of_insert hi
  refine ⟨?_, ?_, h.bounded.insert hi⟩
  · rw [(eq_of_insert hi).2, List.map_append, List.map_singleton, ← List.concat_eq_append]
    exact h.ids.concat hid
  · rw [(eq_of_insert hi).2, List.map_append, List.map_singleton, ← List.concat_eq_append]
    exact h.usernames.concat hu

theorem Lawful.delete {t : Table} (h : t.Lawful) (username : String) :
    (t.delete username).2.Lawful where
  ids := (List.filter_sublist.map Row.id).nodup h.ids
  usernames := (List.filter_sublist.map Row.username).nodup h.usernames
  bounded := h.bounded.delete username

/-! ## Numbered tables -/

/-- The ids are one to the last, in the order of the rows. -/
def Numbered (t : Table) : Prop :=
  t.rows.map Row.id = (List.range t.lastId).map fun n : Nat => (n : Int) + 1

theorem numbered_empty : Numbered empty := rfl

theorem Numbered.length_eq {t : Table} (h : t.Numbered) : t.rows.length = t.lastId := by
  have hl := congrArg List.length h
  rwa [List.length_map, List.length_map, List.length_range] at hl

theorem Numbered.bounds {t : Table} (h : t.Numbered) {row : Row} (hm : row ∈ t.rows) :
    0 < row.id ∧ row.id ≤ t.lastId := by
  have hid : row.id ∈ t.rows.map Row.id := List.mem_map_of_mem hm
  rw [h] at hid
  obtain ⟨n, hn, he⟩ := List.mem_map.mp hid
  have hn := List.mem_range.mp hn
  omega

theorem Numbered.increasing {t : Table} (h : t.Numbered) :
    (t.rows.map Row.id).Pairwise (· < ·) := by
  rw [h, List.pairwise_map]
  refine List.pairwise_lt_range.imp fun {m n} hmn => ?_
  omega

/-- An id is that of one row only. -/
theorem Numbered.nodup {t : Table} (h : t.Numbered) : (t.rows.map Row.id).Nodup :=
  h.increasing.imp fun hlt => Int.ne_of_lt hlt

theorem Numbered.bounded {t : Table} (h : t.Numbered) : t.Bounded :=
  fun _ hm => (h.bounds hm).2

theorem Numbered.replace {t : Table} (h : t.Numbered) (id : Int) (make model : String) :
    (t.replace id make model).Numbered := by
  rw [Numbered, ids_replace, lastId_replace]
  exact h

theorem Numbered.add {t : Table} (h : t.Numbered) (username make model : String) :
    (t.add username make model).Numbered := by
  rw [Numbered, Table.add]
  dsimp only
  rw [List.map_append, h, List.range_succ, List.map_append]
  rfl

end Garage.Store.Table
