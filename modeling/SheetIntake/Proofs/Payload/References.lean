import SheetIntake.Payload.Build

/-! # References link to the right record or to none

    A cell refers to a record by name, by code or by id, and the table of records is gone through
    once for each of them (`LookupEntry.resolve?`).  Hence a record that stands early in the table
    can lose to a later one that is referred to in a stronger way: `Refers` says which one it is,
    and it decides what is found (`resolve?_eq_some_iff`).  The id that a unit or a lease has for
    its cell is the one of this record (`linked_ofCell`), and a lease has the parent of the same
    record (`references_link_to_records`). -/

namespace SheetIntake

namespace LookupEntry

variable {cell : String} {table : List LookupEntry} {e : LookupEntry}

/-! ## Ways to refer to a record -/

/-- Equal without regard to case and to white space at the ends. -/
def SameText (s t : String) : Prop := Text.lower (Text.trim s) = Text.lower (Text.trim t)

def Named (cell : String) (e : LookupEntry) : Prop := SameText e.name cell

def Coded (cell : String) (e : LookupEntry) : Prop :=
  ∃ code, e.code = some code ∧ SameText code cell

/-- Ids are compared as they stand. -/
def Identified (cell : String) (e : LookupEntry) : Prop := e.id = Text.trim cell

theorem hasName_iff : e.hasName cell = true ↔ Named cell e := by
  rw [hasName, beq_iff_eq, Named, SameText, folded, folded]

theorem hasCode_iff : e.hasCode cell = true ↔ Coded cell e := by
  rw [hasCode, beq_iff_eq, Option.map_eq_some_iff]
  rfl

theorem hasId_iff : e.hasId cell = true ↔ Identified cell e := by
  rw [hasId, beq_iff_eq, Identified]

/-! ## The first record of its kind -/

/-- A record with the property, and none with it in front. -/
def IsFirst (P : LookupEntry → Prop) (table : List LookupEntry) (e : LookupEntry) : Prop :=
  ∃ before after, table = before ++ e :: after ∧ P e ∧ ∀ b ∈ before, ¬P b

theorem find?_eq_some_iff {p : LookupEntry → Bool} {P : LookupEntry → Prop}
    (hp : ∀ {e}, p e = true ↔ P e) : table.find? p = some e ↔ IsFirst P table e := by
  rw [List.find?_eq_some_iff_append]
  simp only [Bool.not_eq_true', ← Bool.not_eq_true, hp]
  constructor
  · rintro ⟨he, before, after, htable, hbefore⟩
    exact ⟨before, after, htable, he, hbefore⟩
  · rintro ⟨before, after, htable, he, hbefore⟩
    exact ⟨he, before, after, htable, hbefore⟩

theorem find?_eq_none_iff {p : LookupEntry → Bool} {P : LookupEntry → Prop}
    (hp : ∀ {e}, p e = true ↔ P e) : table.find? p = none ↔ ∀ e ∈ table, ¬P e := by
  simp only [List.find?_eq_none, hp]

/-! ## The record that a cell refers to -/

/-- The first record of the name; if there is none, the first one of the code; and if there is
none either, the first one of the id. -/
inductive Refers (cell : String) (table : List LookupEntry) (e : LookupEntry) : Prop where
  | byName (first : IsFirst (Named cell) table e)
  | byCode (noName : ∀ b ∈ table, ¬Named cell b) (first : IsFirst (Coded cell) table e)
  | byId (noName : ∀ b ∈ table, ¬Named cell b) (noCode : ∀ b ∈ table, ¬Coded cell b)
      (first : IsFirst (Identified cell) table e)

/-- No record has the text of the cell for its name, its code or its id. -/
def RefersToNone (cell : String) (table : List LookupEntry) : Prop :=
  ∀ e ∈ table, ¬Named cell e ∧ ¬Coded cell e ∧ ¬Identified cell e

theorem resolve?_eq_some_iff (hfull : Text.isBlank cell = false) :
    resolve? cell table = some e ↔ Refers cell table e := by
  rw [resolve?, hfull, if_neg Bool.false_ne_true]
  simp only [Option.or_eq_some_iff, find?_eq_some_iff hasName_iff, find?_eq_some_iff hasCode_iff,
    find?_eq_some_iff hasId_iff, find?_eq_none_iff hasName_iff, find?_eq_none_iff hasCode_iff]
  constructor
  · rintro (hname | ⟨hnoName, hcode | ⟨hnoCode, hid⟩⟩)
    · exact .byName hname
    · exact .byCode hnoName hcode
    · exact .byId hnoName hnoCode hid
  · intro hrefers
    cases hrefers with
    | byName hname => exact .inl hname
    | byCode hnoName hcode => exact .inr ⟨hnoName, .inl hcode⟩
    | byId hnoName hnoCode hid => exact .inr ⟨hnoName, .inr ⟨hnoCode, hid⟩⟩

theorem resolve?_eq_none_iff (hfull : Text.isBlank cell = false) :
    resolve? cell table = none ↔ RefersToNone cell table := by
  rw [resolve?, hfull, if_neg Bool.false_ne_true, Option.or_eq_none_iff, Option.or_eq_none_iff,
    find?_eq_none_iff hasName_iff, find?_eq_none_iff hasCode_iff, find?_eq_none_iff hasId_iff]
  simp only [RefersToNone, forall_and]

/-- Records that come later make no difference to a name. -/
theorem resolve?_append (hnamed : ∃ e ∈ table, Named cell e) (more : List LookupEntry) :
    resolve? cell (table ++ more) = resolve? cell table := by
  by_cases hblank : Text.isBlank cell = true
  · rw [resolve?, resolve?, if_pos hblank, if_pos hblank]
  · obtain ⟨e, he, hname⟩ := hnamed
    obtain ⟨first, hfirst⟩ : ∃ first, table.find? (hasName cell) = some first := by
      refine Option.ne_none_iff_exists'.1 fun hnone => ?_
      exact (find?_eq_none_iff hasName_iff).1 hnone e he hname
    rw [resolve?, resolve?, if_neg hblank, if_neg hblank, List.find?_append, hfirst,
      Option.some_or, Option.some_or, Option.some_or]

end LookupEntry

/-! ## What is sent for a cell -/

section
open LookupEntry

variable {table : List LookupEntry} {cells : MappedCells} {key : String}

/-- The id and the parent that are sent for the cell of a reference, if there is one. -/
inductive Linked (table : List LookupEntry) :
    Option String → Option String → Option String → Prop where
  | unmapped : Linked table none none none
  | blank {cell : String} (h : Text.isBlank cell = true) : Linked table (some cell) none none
  | found {cell : String} {e : LookupEntry} (full : Text.isBlank cell = false)
      (refers : Refers cell table e) : Linked table (some cell) (some e.id) e.parent
  /-- The empty id is refused by the backend. -/
  | unknown {cell : String} (full : Text.isBlank cell = false)
      (refers : RefersToNone cell table) : Linked table (some cell) (some "") none

/-- There is an id unless the cell is blank or there is none. -/
theorem Linked.id_eq_none_iff {cell? id? parent? : Option String}
    (h : Linked table cell? id? parent?) :
    id? = none ↔ ∀ cell, cell? = some cell → Text.isBlank cell = true := by
  cases h with
  | unmapped => simp
  | blank hblank => simp [hblank]
  | found hfull => simp [hfull]
  | unknown hfull => simp [hfull]

theorem Reference.linked_ofCell (table : List LookupEntry) (cells : MappedCells) (key : String) :
    Linked table (cells.get? key) (ofCell cells table key).id?
      (ofCell cells table key).parent? := by
  unfold ofCell
  cases cells.get? key with
  | none => exact .unmapped
  | some cell =>
    show Linked table (some cell) (ofText table cell).id? (ofText table cell).parent?
    unfold ofText
    cases hblank : Text.isBlank cell with
    | true => exact .blank hblank
    | false =>
      cases hresolve : resolve? cell table with
      | none => exact .unknown hblank ((resolve?_eq_none_iff hblank).1 hresolve)
      | some e => exact .found hblank ((resolve?_eq_some_iff hblank).1 hresolve)

/-- The cell of a reference is the name of a record. -/
def RefersByName (table : List LookupEntry) (cells : MappedCells) (key : String) : Prop :=
  ∃ cell, cells.get? key = some cell ∧ ∃ e ∈ table, Named cell e

theorem Reference.ofCell_append (h : RefersByName table cells key) (more : List LookupEntry) :
    ofCell cells (table ++ more) key = ofCell cells table key := by
  obtain ⟨cell, hcell, hnamed⟩ := h
  simp only [ofCell, hcell, ofText, resolve?_append hnamed more]

end

namespace Payload

/-- The references of units and leases are those that their cells make. -/
structure LinksReferences (table : List LookupEntry) (cells : MappedCells) : Prop where
  unit : ∃ u parent, build .units cells table = .unit u ∧
    Linked table (cells.get? "property_name") u.propertyId parent ∧
    (u.propertyId = none ↔
      ∀ cell, cells.get? "property_name" = some cell → Text.isBlank cell = true)
  /-- The property of a lease is the one that its unit belongs to. -/
  lease : ∃ l, build .leases cells table = .lease l ∧
    Linked table (cells.get? "unit_name") l.unitId l.propertyId ∧
    (l.unitId = none ↔ ∀ cell, cells.get? "unit_name" = some cell → Text.isBlank cell = true)
  /-- Records at the end of the table make no difference to a cell with a name. -/
  appended : ∀ more,
    (RefersByName table cells "property_name" →
      build .units cells (table ++ more) = build .units cells table) ∧
    (RefersByName table cells "unit_name" →
      build .leases cells (table ++ more) = build .leases cells table)

/-- Whatever stands in the table and in the cells, a reference links to the record that its cell
refers to, or to none. -/
theorem references_link_to_records (table : List LookupEntry) (cells : MappedCells) :
    LinksReferences table cells := by
  constructor
  case unit =>
    have hlinked := Reference.linked_ofCell table cells "property_name"
    exact ⟨_, _, rfl, hlinked, hlinked.id_eq_none_iff⟩
  case lease =>
    have hlinked := Reference.linked_ofCell table cells "unit_name"
    exact ⟨_, rfl, hlinked, hlinked.id_eq_none_iff⟩
  case appended =>
    intro more
    constructor
    · intro hnamed
      rw [build, ofUnit, Reference.ofCell_append hnamed more]
      rfl
    · intro hnamed
      rw [build, ofLease, Reference.ofCell_append hnamed more]
      rfl

/-- A name later in the table beats a code in front of it, and the case of an id counts. -/
example :
    let table : List LookupEntry :=
      [⟨"u-1", "Shop", some "Loft", none⟩, ⟨"u-2", " LOFT ", none, some "p-1"⟩]
    let ids (cell : String) := (ofLease ⟨[("unit_name", cell)]⟩ table).unitId
    ids "loft" = some "u-2" ∧ ids "u-1" = some "u-1" ∧ ids "U-1" = some "" ∧ ids " " = none := by
  decide +kernel

end Payload

end SheetIntake
