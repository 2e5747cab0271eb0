import PhotoGrouping.Proofs.Toml.Lines

namespace PhotoGrouping.Toml

variable {key text : String} {v : Value} {d : Draft} {base : Entries}
  {fields : List (String × Value)} {elements : List Entries}

/-- The entries of a table without subtables. -/
def plain (fields : List (String × Value)) : Entries :=
  fields.map fun f => (f.1, .value f.2)

/-- The entry of an array of tables, which is there from its first element on. -/
def arrayOf (key : String) (elements : List Entries) : Entries :=
  if elements.isEmpty then [] else [(key, .tables elements)]

theorem lookup_plain (key : String) : (plain fields).lookup key = (fields.lookup key).map .value := by
  induction fields with
  | nil => rfl
  | cons f fields ih =>
    rw [plain, List.map_cons, ← plain, List.lookup_cons, ih, List.lookup_cons]
    cases key == f.1 <;> rfl

theorem lookup_arrayOf (key key' : String) :
    (arrayOf key elements).lookup key' =
      if key' = key ∧ elements ≠ [] then some (.tables elements) else none := by
  cases elements with
  | nil => simp [arrayOf]
  | cons e elements =>
    rw [arrayOf, if_neg (by simp), List.lookup_cons]
    by_cases h : key' = key
    · simp [h]
    · simp [h, beq_eq_false_iff_ne.mpr h]

theorem entriesValues_append (es es' : Entries) :
    entriesValues (es ++ es') = entriesValues es ++ entriesValues es' := by
  induction es with
  | nil => rfl
  | cons e es ih => rw [List.cons_append, entriesValues, entriesValues, ih, List.cons_append]

theorem entriesValues_plain (fields : List (String × Value)) : entriesValues (plain fields) = fields := by
  induction fields with
  | nil => rfl
  | cons f fields ih =>
    rw [plain, List.map_cons, ← plain, entriesValues, ih, Item.toValue]

theorem elementsValues_map (rows : List (List (String × Value))) :
    elementsValues (rows.map plain) = rows.map .table := by
  induction rows with
  | nil => rfl
  | cons row rows ih =>
    rw [List.map_cons, elementsValues, ih, entriesValues_plain, List.map_cons]

theorem entriesValues_arrayOf (key : String) (rows : List (List (String × Value))) :
    entriesValues (arrayOf key (rows.map plain)) =
      if rows.isEmpty then [] else [(key, .array (rows.map .table))] := by
  cases rows with
  | nil => rfl
  | cons row rows =>
    rw [arrayOf, if_neg (by simp), if_neg (by simp), entriesValues, entriesValues, Item.toValue,
      elementsValues_map]

theorem replace_of_lookup (h : base.lookup key = none) (i : Item) : base.replace key i = base := by
  unfold Entries.replace
  rw [List.map_congr_left (g := id), List.map_id]
  intro e he
  have hne := List.lookup_eq_none_iff.mp h e he
  have hkey : ¬(e.1 == key) = true := fun heq => bne_iff_ne.mp hne (beq_iff_eq.mp heq).symm
  exact if_neg hkey

/-- A draft with another table in the making, which has no subtables. -/
def Draft.within (d : Draft) (fields : List (String × Value)) : Draft :=
  { d with current := plain fields }

/-- A draft at the start of an element of an array of tables. -/
def Draft.element (root : Entries) (key : String) : Draft :=
  { root := root, path := [key], isElement := true }

theorem Draft.put_within (h : fields.lookup key = none) :
    (d.within fields).put [key] v = some (d.within (fields ++ [(key, v)])) := by
  have hlookup : (plain fields).lookup key = none := by rw [lookup_plain, h, Option.map_none]
  have hput : (plain fields).put [] key v = some (plain (fields ++ [(key, v)])) := by
    rw [Entries.put, Entries.update]
    simp only [hlookup]
    simp [plain]
  simp only [Draft.put, splitKey, within, List.dropLast_singleton, List.getLast?_singleton,
    Option.getD_some, hput]
  rfl

theorem Draft.beginElement_of_settled (h : base.lookup key = none)
    (hd : d.settled = some (base ++ arrayOf key elements)) :
    d.beginElement [key] = some (element (base ++ arrayOf key elements) key) := by
  have hlookup : (base ++ arrayOf key elements).lookup key =
      if elements = [] then none else some (.tables elements) := by
    rw [List.lookup_append, h, lookup_arrayOf]
    simp
  simp only [beginElement, hd, splitKey, List.dropLast_singleton, List.getLast?_singleton,
    Option.getD_some, Option.bind_eq_bind, Option.bind_some, Entries.update, hlookup]
  split_ifs <;> rfl

/-- A finished element is the last one of its array of tables. -/
theorem Draft.settled_element (h : base.lookup key = none) (fields : List (String × Value)) :
    ((element (base ++ arrayOf key elements) key).within fields).settled =
      some (base ++ arrayOf key (elements ++ [plain fields])) := by
  have hlookup : (base ++ arrayOf key elements).lookup key =
      if elements = [] then none else some (.tables elements) := by
    rw [List.lookup_append, h, lookup_arrayOf]
    simp
  cases elements with
  | nil =>
    simp only [settled, element, within, splitKey, List.isEmpty_cons, List.dropLast_singleton,
      List.getLast?_singleton, Option.getD_some, Entries.update, hlookup]
    simp [arrayOf]
  | cons e elements =>
    have hreplace (i : Item) :
        Entries.replace key i (base ++ arrayOf key (e :: elements)) = base ++ [(key, i)] := by
      rw [Entries.replace, List.map_append, ← Entries.replace, replace_of_lookup h]
      simp [arrayOf]
    rw [if_neg (List.cons_ne_nil _ _)] at hlookup
    simp only [settled, element, within, splitKey, List.isEmpty_cons, List.dropLast_singleton,
      List.getLast?_singleton, Option.getD_some, Entries.update, hlookup, hreplace]
    rfl

/-- A line adds a field to the table in the making. -/
theorem Draft.Reads.field {d₀ : Draft} {front : String} (h : d₀.Reads front (d.within fields))
    (key : String) (hkey : IsBareKey key) (hv : Writes text v) (hnew : fields.lookup key = none) :
    d₀.Reads (front ++ line key text) (d.within (fields ++ [(key, v)])) :=
  h.append (reads_line hkey hv (put_within hnew))

/-- The tables of a list make up its array of tables. -/
theorem Draft.reads_elements {α : Type} {table : α → String}
    {fieldsOf : α → List (String × Value)} {xs : List α} (h : xs ≠ [] → base.lookup key = none)
    (htable : ∀ x root (d : Draft), d.beginElement [key] = some (element root key) →
      d.Reads (table x) ((element root key).within (fieldsOf x)))
    (hd : d.settled = some (base ++ arrayOf key elements)) :
    ∃ d', d.Reads (String.join (xs.map table)) d' ∧
      d'.settled = some (base ++ arrayOf key (elements ++ xs.map fun x => plain (fieldsOf x))) := by
  induction xs generalizing d elements with
  | nil => exact ⟨d, Reads.empty d, by simpa using hd⟩
  | cons x xs ih =>
    have hnew := h (List.cons_ne_nil x xs)
    have hfirst := htable x _ d (beginElement_of_settled hnew hd)
    obtain ⟨d', hrest, hd'⟩ := ih (fun _ => hnew) (settled_element hnew (fieldsOf x))
    refine ⟨d', ?_, ?_⟩
    · rw [List.map_cons, String.join_cons]
      exact hfirst.append hrest
    · rw [hd', List.map_cons, List.append_assoc, List.singleton_append]

theorem Draft.reads_tables {α : Type} {table : α → String} {fieldsOf : α → List (String × Value)}
    {xs : List α} (h : xs ≠ [] → base.lookup key = none)
    (htable : ∀ x root (d : Draft), d.beginElement [key] = some (element root key) →
      d.Reads (table x) ((element root key).within (fieldsOf x)))
    (hd : d.settled = some base) :
    ∃ d', d.Reads (String.join (xs.map table)) d' ∧
      d'.settled = some (base ++ arrayOf key ((xs.map fieldsOf).map plain)) := by
  have hd₀ : d.settled = some (base ++ arrayOf key []) := by
    rw [hd, arrayOf, List.isEmpty_nil, if_pos rfl, List.append_nil]
  obtain ⟨d', hread, hd'⟩ := reads_elements h htable hd₀
  refine ⟨d', hread, ?_⟩
  rw [hd', List.nil_append, List.map_map]
  rfl

/-- The values of a document whose lines have been read. -/
theorem parse?_of_reads {es : Entries} (hmark : text.toList.head? ≠ some '\ufeff')
    (h : ({} : Draft).Reads text d) (hd : d.settled = some es) :
    parse? text = some (entriesValues es) := by
  have hread : readLines {} text.toList = some d := by
    have hend : readLines d [] = some d := by
      rw [readLines]
      rfl
    rw [← hend, ← h [], List.append_nil]
  unfold parse?
  split
  · next heq => exact absurd (by rw [heq]; rfl) hmark
  · dsimp only
    rw [hread, Option.bind_eq_bind, Option.bind_some, hd]
    rfl

end PhotoGrouping.Toml
