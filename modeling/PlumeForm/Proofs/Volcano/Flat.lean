import PlumeForm.Volcano

/-!
# Flat tables

A flat table has its numbers in four blocks of one length. The record at an index takes its numbers
from that place of each block (`getElem?_ofBlocks_eq_some_iff`), so in the flat list they are as far
apart as there are records (`numbers_of_ofFlat`). Blocks of one length are the columns of exactly
one list of volcanoes without locations, so a flat table is read exactly as the table that would be
written that way (`ofFlat_exact`).
-/

namespace PlumeForm.VolcanoTable

/-! ## Four blocks -/

section Blocks

theorem exists_cons_of_getElem? {α : Type} {xs : List α} {i : Nat} {x : α}
    (h : xs[i]? = some x) : ∃ y ys, xs = y :: ys :=
  List.exists_cons_of_ne_nil (List.ne_nil_of_mem (List.mem_of_getElem? h))

variable {names : List String} {lats lons plumeMins areas : List Float}

theorem getElem?_ofBlocks_eq_some_iff {i : Nat} {v : Volcano} :
    (ofBlocks names lats lons plumeMins areas)[i]? = some v ↔
      names[i]? = some v.name ∧ v.location = none ∧ lats[i]? = some v.lat ∧
        lons[i]? = some v.lon ∧ plumeMins[i]? = some v.plumeMin ∧ areas[i]? = some v.area := by
  induction names, lats, lons, plumeMins, areas using ofBlocks.induct generalizing i with
  | case1 name names lat lats lon lons plumeMin plumeMins area areas ih =>
    rw [ofBlocks]
    cases i with
    | zero =>
      cases v
      simp [eq_comm]
    | succ i => exact ih
  | case2 names lats lons plumeMins areas hshort =>
    rw [ofBlocks.eq_2 _ _ _ _ _ hshort]
    constructor
    · intro h
      cases h
    · rintro ⟨hname, -, hlat, hlon, hplume, harea⟩
      obtain ⟨_, _, rfl⟩ := exists_cons_of_getElem? hname
      obtain ⟨_, _, rfl⟩ := exists_cons_of_getElem? hlat
      obtain ⟨_, _, rfl⟩ := exists_cons_of_getElem? hlon
      obtain ⟨_, _, rfl⟩ := exists_cons_of_getElem? hplume
      obtain ⟨_, _, rfl⟩ := exists_cons_of_getElem? harea
      exact (hshort _ _ _ _ _ _ _ _ _ _ rfl rfl rfl rfl rfl).elim

/-- Volcanoes without locations are read back from their columns. -/
theorem ofBlocks_columns {entries : List Volcano} (h : ∀ v ∈ entries, v.location = none) :
    ofBlocks (entries.map (·.name)) (entries.map (·.lat)) (entries.map (·.lon))
      (entries.map (·.plumeMin)) (entries.map (·.area)) = entries := by
  induction entries with
  | nil => rfl
  | cons v entries ih =>
    obtain ⟨hv, hentries⟩ := List.forall_mem_cons.1 h
    simp only [List.map_cons, ofBlocks]
    rw [ih hentries, ← hv]

/-- Columns of one length belong to volcanoes without locations. -/
theorem exists_columns (hlats : lats.length = names.length) (hlons : lons.length = names.length)
    (hplumes : plumeMins.length = names.length) (hareas : areas.length = names.length) :
    ∃ entries : List Volcano, (∀ v ∈ entries, v.location = none) ∧
      entries.map (·.name) = names ∧ entries.map (·.lat) = lats ∧ entries.map (·.lon) = lons ∧
        entries.map (·.plumeMin) = plumeMins ∧ entries.map (·.area) = areas := by
  induction names generalizing lats lons plumeMins areas with
  | nil =>
    rw [List.length_nil, List.length_eq_zero_iff] at hlats hlons hplumes hareas
    exact ⟨[], by simp, rfl, hlats.symm, hlons.symm, hplumes.symm, hareas.symm⟩
  | cons name names ih =>
    obtain ⟨lat, lats, rfl⟩ := List.exists_cons_of_length_eq_add_one hlats
    obtain ⟨lon, lons, rfl⟩ := List.exists_cons_of_length_eq_add_one hlons
    obtain ⟨plumeMin, plumeMins, rfl⟩ := List.exists_cons_of_length_eq_add_one hplumes
    obtain ⟨area, areas, rfl⟩ := List.exists_cons_of_length_eq_add_one hareas
    simp only [List.length_cons, Nat.add_right_cancel_iff] at hlats hlons hplumes hareas
    obtain ⟨entries, hlocation, rfl, rfl, rfl, rfl, rfl⟩ := ih hlats hlons hplumes hareas
    exact ⟨⟨name, none, lat, lon, plumeMin, area⟩ :: entries,
      List.forall_mem_cons.2 ⟨rfl, hlocation⟩, rfl, rfl, rfl, rfl, rfl⟩

theorem length_ofBlocks (hlats : lats.length = names.length) (hlons : lons.length = names.length)
    (hplumes : plumeMins.length = names.length) (hareas : areas.length = names.length) :
    (ofBlocks names lats lons plumeMins areas).length = names.length := by
  obtain ⟨entries, hlocation, rfl, rfl, rfl, rfl, rfl⟩ :=
    exists_columns hlats hlons hplumes hareas
  rw [ofBlocks_columns hlocation, List.length_map]

end Blocks

/-! ## One list of numbers -/

section Flat

variable {names : List String} {values : List Float} {table : VolcanoTable}

theorem ofFlat_eq_ok_iff :
    ofFlat names values = .ok table ↔
      values.length = 4 * names.length ∧
        table = ⟨ofBlocks names (values.take names.length)
          ((values.drop names.length).take names.length)
          ((values.drop (2 * names.length)).take names.length)
          ((values.drop (3 * names.length)).take names.length)⟩ := by
  unfold ofFlat
  constructor
  · intro h
    split at h
    · cases h
    · next hfour =>
      dsimp only at h
      split at h
      · cases h
      · next hnames =>
        have hcount : values.length / 4 = names.length := (Decidable.not_not.1 hnames).symm
        rw [hcount] at h
        cases h
        exact ⟨by omega, rfl⟩
  · rintro ⟨hlength, rfl⟩
    have hfour : ¬ values.length % 4 ≠ 0 := by omega
    have hcount : values.length / 4 = names.length := by omega
    simp only [if_neg hfour, hcount, ne_eq, not_true_eq_false, if_false]

theorem length_blocks {n : Nat} (h : values.length = 4 * n) :
    (values.take n).length = n ∧ ((values.drop n).take n).length = n ∧
      ((values.drop (2 * n)).take n).length = n ∧ ((values.drop (3 * n)).take n).length = n := by
  simp only [List.length_take, List.length_drop]
  omega

theorem length_of_ofFlat (h : ofFlat names values = .ok table) :
    table.length = names.length ∧ values.length = 4 * names.length := by
  obtain ⟨hlength, rfl⟩ := ofFlat_eq_ok_iff.1 h
  obtain ⟨hfirst, hsecond, hthird, hfourth⟩ := length_blocks hlength
  exact ⟨length_ofBlocks hfirst hsecond hthird hfourth, hlength⟩

/-- The numbers of a record of a flat table. -/
theorem numbers_of_ofFlat (h : ofFlat names values = .ok table) {i : Nat} {v : Volcano}
    (hv : table.entries[i]? = some v) :
    values[i]? = some v.lat ∧ values[i + table.length]? = some v.lon ∧
      values[i + 2 * table.length]? = some v.plumeMin ∧
        values[i + 3 * table.length]? = some v.area := by
  have hi : i < table.length := (List.getElem?_eq_some_iff.1 hv).1
  obtain ⟨htable, -⟩ := length_of_ofFlat h
  obtain ⟨-, rfl⟩ := ofFlat_eq_ok_iff.1 h
  rw [htable] at hi ⊢
  obtain ⟨-, -, hlat, hlon, hplume, harea⟩ := getElem?_ofBlocks_eq_some_iff.1 hv
  simp only [List.getElem?_take_of_lt hi, List.getElem?_drop, Nat.add_comm _ i]
    at hlat hlon hplume harea
  exact ⟨hlat, hlon, hplume, harea⟩

end Flat

/-! ## Writing and reading -/

section Writing

variable {names : List String} {values : List Float} {table : VolcanoTable} {e : FormError}

/-- Four blocks of one length, one after the other, are the list that they were cut from. -/
theorem append_blocks {n : Nat} (h : values.length = 4 * n) :
    values.take n ++ (values.drop n).take n ++ (values.drop (2 * n)).take n ++
      (values.drop (3 * n)).take n = values := by
  calc values.take n ++ (values.drop n).take n ++ (values.drop (2 * n)).take n ++
        (values.drop (3 * n)).take n
      = values.take (n + n) ++ (values.drop (2 * n)).take n ++ (values.drop (3 * n)).take n := by
        rw [List.take_add]
    _ = values.take (2 * n + n) ++ (values.drop (3 * n)).take n := by
        rw [← Nat.two_mul, List.take_add]
    _ = values.take (3 * n + n) := by
        rw [show 2 * n + n = 3 * n by omega, List.take_add]
    _ = values := List.take_of_length_le (by omega)

theorem length_flatValues (table : VolcanoTable) :
    table.flatValues.length = 4 * table.names.length := by
  simp only [flatValues, names, List.length_append, List.length_map]
  omega

/-- The blocks of four lists of one length, put one after the other, are these lists. -/
theorem blocks_append {lats lons plumeMins areas : List Float} {n : Nat} (hlats : lats.length = n)
    (hlons : lons.length = n) (hplumes : plumeMins.length = n) (hareas : areas.length = n)
    (h : values = lats ++ lons ++ plumeMins ++ areas) :
    values.take n = lats ∧ (values.drop n).take n = lons ∧
      (values.drop (2 * n)).take n = plumeMins ∧ (values.drop (3 * n)).take n = areas := by
  have hlength : values.length = 4 * n := by
    simp only [h, List.length_append]
    omega
  obtain ⟨-, hsecond, hthird, hfourth⟩ := length_blocks hlength
  have hblocks := (append_blocks hlength).trans h
  obtain ⟨hblocks, hlast⟩ := List.append_inj' hblocks (hfourth.trans hareas.symm)
  obtain ⟨hblocks, hplumes⟩ := List.append_inj' hblocks (hthird.trans hplumes.symm)
  obtain ⟨hlats, hlons⟩ := List.append_inj' hblocks (hsecond.trans hlons.symm)
  exact ⟨hlats, hlons, hplumes, hlast⟩

/-- A table without locations is read back from its flat form. -/
theorem ofFlat_flatValues (h : ∀ v ∈ table.entries, v.location = none) :
    ofFlat table.names table.flatValues = .ok table := by
  refine ofFlat_eq_ok_iff.2 ⟨table.length_flatValues, ?_⟩
  obtain ⟨hlats, hlons, hplumes, hareas⟩ := blocks_append (n := table.names.length)
    (by simp [VolcanoTable.names]) (by simp [VolcanoTable.names]) (by simp [VolcanoTable.names])
    (by simp [VolcanoTable.names]) (rfl : table.flatValues = _)
  rw [hlats, hlons, hplumes, hareas, VolcanoTable.names, ofBlocks_columns h]

/-- A flat table is read exactly from the names and the flat form of a table without locations. -/
theorem ofFlat_eq_ok_iff_written :
    ofFlat names values = .ok table ↔
      table.flatValues = values ∧ table.names = names ∧ ∀ v ∈ table.entries, v.location = none := by
  constructor
  · intro h
    obtain ⟨hlength, rfl⟩ := ofFlat_eq_ok_iff.1 h
    obtain ⟨hfirst, hsecond, hthird, hfourth⟩ := length_blocks hlength
    obtain ⟨entries, hlocation, hnames, hlats, hlons, hplumes, hareas⟩ :=
      exists_columns hfirst hsecond hthird hfourth
    have hentries := ofBlocks_columns hlocation
    rw [hnames, hlats, hlons, hplumes, hareas] at hentries
    rw [hentries]
    refine ⟨?_, hnames, hlocation⟩
    rw [flatValues, hlats, hlons, hplumes, hareas]
    exact append_blocks hlength
  · rintro ⟨rfl, rfl, h⟩
    exact ofFlat_flatValues h

theorem ofFlat_eq_error_iff :
    ofFlat names values = .error e ↔
      values.length % 4 ≠ 0 ∧ e = .raggedVolcanoTable values.length ∨
        values.length % 4 = 0 ∧ names.length ≠ values.length / 4 ∧
          e = .volcanoNameCount names.length (values.length / 4) := by
  unfold ofFlat
  by_cases hfour : values.length % 4 = 0
  · by_cases hnames : names.length = values.length / 4
    · simp [hfour, hnames]
    · simp [hfour, hnames, eq_comm]
  · simp [hfour, eq_comm]

/-- A flat table is read exactly if its numbers fall into four blocks and there is one name for each
of their places. Otherwise the numbers are at fault if they do not fall into four blocks, whatever
the names, and else the count of the names. What is read is the one table without locations that has
these names and these numbers, written block by block. -/
theorem ofFlat_exact (names : List String) (values : List Float) :
    ((∃ table, ofFlat names values = .ok table) ↔
      values.length % 4 = 0 ∧ names.length = values.length / 4) ∧
    (∀ e, ofFlat names values = .error e ↔
      values.length % 4 ≠ 0 ∧ e = .raggedVolcanoTable values.length ∨
        values.length % 4 = 0 ∧ names.length ≠ values.length / 4 ∧
          e = .volcanoNameCount names.length (values.length / 4)) ∧
    ∀ table, ofFlat names values = .ok table ↔
      table.entries.map (·.lat) ++ table.entries.map (·.lon) ++ table.entries.map (·.plumeMin) ++
          table.entries.map (·.area) = values ∧
        table.entries.map (·.name) = names ∧ ∀ v ∈ table.entries, v.location = none := by
  refine ⟨?_, fun e => ofFlat_eq_error_iff, fun table => ofFlat_eq_ok_iff_written⟩
  simp only [ofFlat_eq_ok_iff, exists_and_left, exists_eq, and_true]
  omega

end Writing

end PlumeForm.VolcanoTable
