import CredentialRotation.Toml.Value

/-!
The trees that plain statements build: keys of their own first, then tables with a header each. As
long as no key is given twice, nothing is lost and nothing moves.
-/
namespace CredentialRotation.Toml.Entries
variable {es said : Entries} {key header : String} {v w : Value} {rest : List Statement}

/-- The statements that give keys their values. -/
def statements (said : Entries) : List Statement :=
  said.map fun (key, v) => .entry [key] v

theorem lookup_append_of_none (absent : es.lookup key = none) (others : Entries) :
    (es ++ others).lookup key = others.lookup key := by
  rw [List.lookup_append, absent]
  rfl

theorem put_of_none (absent : es.lookup key = none) : put key v es = es ++ [(key, v)] := by
  induction es with
  | nil => rfl
  | cons e es ih =>
    obtain ⟨k, u⟩ := e
    rw [List.lookup_cons] at absent
    split at absent
    · cases absent
    · next other =>
      have ne : k ≠ key := fun same => by simp [same] at other
      rw [put, if_neg ne, ih absent]
      rfl

theorem put_behind (absent : es.lookup key = none) :
    put key v (es ++ [(key, w)]) = es ++ [(key, v)] := by
  induction es with
  | nil => exact if_pos rfl
  | cons e es ih =>
    obtain ⟨k, u⟩ := e
    rw [List.lookup_cons] at absent
    split at absent
    · cases absent
    · next other =>
      have ne : k ≠ key := fun same => by simp [same] at other
      rw [List.cons_append, put, if_neg ne, ih absent]
      rfl

/-- A new key of the document itself. -/
theorem assign_root (absent : es.lookup key = none) :
    assign [] [key] v .header es = some (es ++ [(key, v)]) := by
  simp [assign, steps, change, absent, put_of_none absent]

theorem openTable_of_none (absent : es.lookup header = none) :
    openTable [header] es = some (es ++ [(header, .table .header [])]) := by
  simp [openTable, steps, change, absent, put_of_none absent]

/-- A new key of the table that was opened last. -/
theorem assign_table (absent : es.lookup header = none) (fresh : said.lookup key = none) :
    assign [header] [key] v .header (es ++ [(header, .table .header said)]) =
      some (es ++ [(header, .table .header (said ++ [(key, v)]))]) := by
  simp [assign, steps, change, lookup_append_of_none absent, fresh, put_of_none fresh,
    put_behind absent]

/-- Keys that are all different, and differ from some that are there. -/
structure Fresh (es said : Entries) : Prop where
  absent : ∀ e ∈ said, es.lookup e.1 = none
  distinct : (said.map (·.1)).Nodup

theorem Fresh.tail {e : String × Value} (fresh : Fresh es (e :: said)) :
    Fresh (es ++ [e]) said where
  absent := fun other mem => by
    have ne : other.1 ≠ e.1 := fun same =>
      (List.nodup_cons.1 fresh.distinct).1 (List.mem_map.2 ⟨other, mem, same⟩)
    rw [lookup_append_of_none (fresh.absent other (List.mem_cons_of_mem _ mem))]
    simp [ne]
  distinct := (List.nodup_cons.1 fresh.distinct).2

theorem Fresh.left {more : Entries} (fresh : Fresh es (said ++ more)) : Fresh es said where
  absent e mem := fresh.absent e (List.mem_append_left _ mem)
  distinct := by
    have all := fresh.distinct
    rw [List.map_append] at all
    exact (List.nodup_append.1 all).1

theorem Fresh.right {more : Entries} (fresh : Fresh es (said ++ more)) :
    Fresh (es ++ said) more := by
  induction said generalizing es with
  | nil => rwa [List.append_nil]
  | cons e said ih =>
    rw [← List.singleton_append, ← List.append_assoc]
    exact ih fresh.tail

/-- Statements in front of any header add to the document itself. -/
theorem ofStatements?_root (fresh : Fresh es said) (rest : List Statement) :
    ofStatements? [] es (statements said ++ rest) = ofStatements? [] (es ++ said) rest := by
  induction said generalizing es with
  | nil => rw [List.append_nil]; rfl
  | cons e said ih =>
    obtain ⟨key, v⟩ := e
    change ofStatements? [] es (.entry [key] v :: (statements said ++ rest)) = _
    rw [ofStatements?, assign_root (fresh.absent _ List.mem_cons_self)]
    change ofStatements? [] (es ++ [(key, v)]) _ = _
    rw [ih fresh.tail, List.append_assoc]
    rfl

/-- Statements behind a header add to its table. -/
theorem ofStatements?_table (absent : es.lookup header = none) {inner : Entries}
    (fresh : Fresh inner said) (rest : List Statement) :
    ofStatements? [header] (es ++ [(header, .table .header inner)]) (statements said ++ rest) =
      ofStatements? [header] (es ++ [(header, .table .header (inner ++ said))]) rest := by
  induction said generalizing inner with
  | nil => rw [List.append_nil]; rfl
  | cons e said ih =>
    obtain ⟨key, v⟩ := e
    change ofStatements? [header] _ (.entry [key] v :: (statements said ++ rest)) = _
    rw [ofStatements?, assign_table absent (fresh.absent _ List.mem_cons_self)]
    change ofStatements? [header] (es ++ [(header, .table .header (inner ++ [(key, v)]))]) _ = _
    rw [ih fresh.tail, List.append_assoc]
    rfl

/-- The tables of some headers, as values. -/
def tables (groups : List (String × Entries)) : Entries :=
  groups.map fun (header, said) => (header, .table .header said)

/-- The statements of tables behind their headers. -/
def tableStatements (groups : List (String × Entries)) : List Statement :=
  groups.flatMap fun (header, said) => .table [header] :: statements said

theorem ofStatements?_tables {groups : List (String × Entries)} (fresh : Fresh es (tables groups))
    (each : ∀ g ∈ groups, (g.2.map (·.1)).Nodup) (above : List String) :
    ofStatements? above es (tableStatements groups) = some (es ++ tables groups) := by
  induction groups generalizing es above with
  | nil => rw [tables, List.map_nil, List.append_nil]; exact ofStatements?.eq_1 above es
  | cons g groups ih =>
    obtain ⟨header, said⟩ := g
    have absent := fresh.absent _ List.mem_cons_self
    change ofStatements? above es
      (.table [header] :: (statements said ++ tableStatements groups)) = _
    rw [ofStatements?, openTable_of_none absent]
    change ofStatements? [header] _ _ = _
    rw [ofStatements?_table absent ⟨fun _ _ => rfl, each _ List.mem_cons_self⟩, List.nil_append,
      ih fresh.tail fun g mem => each g (List.mem_cons_of_mem _ mem), List.append_assoc]
    rfl

end CredentialRotation.Toml.Entries
