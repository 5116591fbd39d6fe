import SheetIntake.Proofs.Table.Naming
import SheetIntake.Table.Basic

/-! # Well-formed tables

    Whatever the records of a file are, the table that they make has named, distinct columns
    and a row at least, and every row has exactly the columns of the table
    (`Table.wellFormed_of_ofRecords?`). -/

namespace SheetIntake

/-! ## Maps made of pairs -/

namespace TextMap

/-- A new key comes behind those that are there. -/
theorem entries_put {m : TextMap} {key : String} (h : key ∉ m.keys) (value : String) :
    (m.put key value).entries = m.entries ++ [(key, value)] := by
  obtain ⟨entries⟩ := m
  simp only [put, keys] at h ⊢
  induction entries with
  | nil => rfl
  | cons e es ih =>
    simp only [List.map_cons, List.mem_cons, not_or] at h
    rw [putEntry, if_neg (Ne.symm h.1), ih h.2, List.cons_append]

theorem entries_foldl_put {m : TextMap} {pairs : List (String × String)}
    (h : (m.keys ++ pairs.map Prod.fst).Nodup) :
    (pairs.foldl (fun m p => m.put p.1 p.2) m).entries = m.entries ++ pairs := by
  induction pairs generalizing m with
  | nil => simp
  | cons p ps ih =>
    have hnew : p.1 ∉ m.keys := by
      intro hmem
      exact List.disjoint_of_nodup_append h hmem (by simp)
    have hentries := entries_put hnew p.2
    have hkeys : (m.put p.1 p.2).keys = m.keys ++ [p.1] := by
      rw [keys, hentries, List.map_append]
      rfl
    rw [List.foldl_cons, ih (by simpa [hkeys] using h), hentries]
    simp

/-- Pairs with distinct keys make a map of these pairs. -/
theorem ofPairs_eq {pairs : List (String × String)} (h : (pairs.map Prod.fst).Nodup) :
    ofPairs pairs = ⟨pairs⟩ := by
  have hentries : (ofPairs pairs).entries = pairs :=
    entries_foldl_put (m := empty) (by simpa [keys, empty] using h)
  exact congrArg TextMap.mk hentries

end TextMap

/-! ## Rows -/

@[simp] theorem length_fitted (width : Nat) (cells : List String) :
    (fitted width cells).length = width := by
  simp only [fitted, List.length_append, List.length_take, List.length_replicate]
  omega

theorem fitted_of_length {width : Nat} {cells : List String} (h : cells.length = width) :
    fitted width cells = cells := by
  subst h
  simp [fitted]

theorem getElem?_fitted {width i : Nat} (h : i < width) (cells : List String) :
    (fitted width cells)[i]? = some (cells[i]?.getD "") := by
  by_cases hi : i < cells.length
  · rw [fitted, List.getElem?_append_left (by simp [h, hi]), List.getElem?_take_of_lt h]
    simp [hi]
  · rw [fitted, List.getElem?_append_right (by simp; omega), List.getElem?_replicate]
    simp only [List.length_take, List.getElem?_eq_none (Nat.le_of_not_lt hi)]
    rw [if_pos (by omega)]
    rfl

theorem map_fst_zip_fitted (headers cells : List String) :
    (headers.zip (fitted headers.length cells)).map Prod.fst = headers :=
  List.map_fst_zip (by simp)

/-- Under distinct columns no cell replaces another. -/
theorem Row.ofCells_eq {headers : List String} (h : headers.Nodup) (cells : List String) :
    Row.ofCells headers cells = ⟨headers.zip (fitted headers.length cells)⟩ :=
  TextMap.ofPairs_eq (by rwa [map_fst_zip_fitted])

/-- A row has the columns of its table, whatever the width of its record. -/
theorem Row.keys_ofCells {headers : List String} (h : headers.Nodup) (cells : List String) :
    (Row.ofCells headers cells).keys = headers := by
  rw [Row.ofCells_eq h, TextMap.keys, map_fst_zip_fitted]

/-! ## Tables -/

namespace Table

/-- What every table of a file has. -/
structure WellFormed (t : Table) : Prop where
  headers_ne_nil : t.headers ≠ []
  named : ∀ header ∈ t.headers, header ≠ ""
  distinct : t.headers.Nodup
  rows_ne_nil : t.rows ≠ []
  keyed : ∀ row ∈ t.rows, row.keys = t.headers

/-- The header record has something in it. -/
theorem first_full {records rest : List (List String)} {first : List String}
    (h : records.dropWhile isBlankRecord = first :: rest) : isBlankRecord first = false := by
  have hne : records.dropWhile isBlankRecord ≠ [] := by simp [h]
  simpa [h] using List.head_dropWhile_not isBlankRecord hne

theorem first_ne_nil {records rest : List (List String)} {first : List String}
    (h : records.dropWhile isBlankRecord = first :: rest) : first ≠ [] := by
  rintro rfl
  simpa [isBlankRecord] using first_full h

theorem wellFormed_of_ofRecords? {records : List (List String)} {t : Table}
    (h : ofRecords? records = some t) : t.WellFormed := by
  unfold ofRecords? at h
  split at h
  · cases h
  · rename_i first rest hfirst
    simp only at h
    split at h
    · cases h
    · rename_i hrows
      obtain rfl := Option.some.inj h
      refine ⟨?_, fun _ hname => (Naming.clean_of_mem_nameFrom hname).ne_empty,
        Naming.nodup_name first, hrows, ?_⟩
      · -- There is a column for every cell of the first record.
        rw [← List.length_pos_iff, Naming.name, Naming.length_nameFrom, List.length_pos_iff]
        exact first_ne_nil hfirst
      · intro row hrow
        obtain ⟨cells, -, rfl⟩ := List.mem_map.1 hrow
        exact Row.keys_ofCells (Naming.nodup_name first) cells

end Table

end SheetIntake
