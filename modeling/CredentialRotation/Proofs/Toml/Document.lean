import CredentialRotation.Proofs.Toml.Bare
import CredentialRotation.Proofs.Toml.Entries
import CredentialRotation.Proofs.Toml.Quoted
import CredentialRotation.Toml.Document
import CredentialRotation.Toml.Printer

/-!
Documents are read back as they were written: every line gives its key its value and nothing else,
whatever characters the value has.
-/
namespace CredentialRotation.Toml
variable {c : Char} {cs rest : List Char}

/-- In front of a line end this is read as a value, with no blank in front of it to be skipped. -/
structure Written.ReadsAs (written : Written) (v : Value) : Prop where
  solid : ∃ c more, written.chars = c :: more ∧ isTabOrSpace c = false
  reads : ∀ rest, readValue deepest (written.chars ++ '\n' :: rest) = some (v, '\n' :: rest)

namespace Written
variable {written : Written} {more : List Char}

theorem readValue_scalar (bracket : c ≠ '[') (brace : c ≠ '{') (depth : Nat) :
    readValue depth (c :: cs) = readScalar (c :: cs) := by
  refine readValue.eq_5 depth (c :: cs) ?_ ?_ ?_ ?_
  · exact fun _ _ same => bracket (List.cons.inj same).1
  · exact fun _ _ same => brace (List.cons.inj same).1
  · exact fun _ _ _ same => bracket (List.cons.inj same).1
  · exact fun _ _ _ same => brace (List.cons.inj same).1

theorem readsAs_of_bare {s : Scalar} (starts : written.chars = c :: more)
    (bare : Bare.isBare c = true)
    (reads : ∀ rest, Bare.read (written.chars ++ '\n' :: rest) = some (s, '\n' :: rest)) :
    written.ReadsAs (.scalar s) where
  solid := by
    have space := ne_of_test (d := ' ') bare rfl
    have tab := ne_of_test (d := '\t') bare rfl
    exact ⟨c, more, starts, by simp [isTabOrSpace, space, tab]⟩
  reads rest := by
    have read := reads rest
    rw [starts, List.cons_append] at read ⊢
    rw [readValue_scalar (ne_of_test bare rfl) (ne_of_test bare rfl), readScalar.eq_3, read]
    · rfl
    · exact fun _ same => absurd (List.cons.inj same).1 (ne_of_test bare rfl)
    · exact fun _ same => absurd (List.cons.inj same).1 (ne_of_test bare rfl)

theorem readsAs_text (content : String) :
    (text content).ReadsAs (.scalar (.text content)) := by
  have read (rest : List Char) :
      Quoted.read ((text content).chars ++ '\n' :: rest) = some (content.toList, '\n' :: rest) :=
    Quoted.read_write content.toList nofun nofun
  obtain ⟨q, more, starts, quote⟩ : ∃ q more, (text content).chars = q :: more ∧ _ :=
    Quoted.write_head content.toList
  constructor
  · exact ⟨q, more, starts, by rcases quote with rfl | rfl <;> rfl⟩
  · intro rest
    have read := read rest
    rw [starts, List.cons_append] at read ⊢
    obtain rfl | rfl := quote
    · rw [readValue_scalar (by decide) (by decide), readScalar.eq_1, read]
      simp
    · rw [readValue_scalar (by decide) (by decide), readScalar.eq_2, read]
      simp

theorem readsAs_natural {n : Nat} (small : n < 2 ^ 128) :
    (natural n).ReadsAs (.scalar (.integer n)) := by
  obtain ⟨c, more, starts⟩ := List.exists_cons_of_ne_nil (Nat.toDigits_ne_nil (n := n) (b := 10))
  have digit : c.isDigit = true := isDigit_of_mem_toDigits (starts ▸ List.mem_cons_self)
  exact readsAs_of_bare starts (Bare.isBare_of_isDigit digit) (Bare.read_toDigits small)

theorem readsAs_boolean (b : Bool) : (boolean b).ReadsAs (.scalar (.boolean b)) := by
  obtain ⟨c, more, starts, bare⟩ :
      ∃ c more, (boolean b).chars = c :: more ∧ Bare.isBare c = true := by
    cases b
    · exact ⟨'f', _, rfl, rfl⟩
    · exact ⟨'t', _, rfl, rfl⟩
  exact readsAs_of_bare starts bare (Bare.read_boolean b)

theorem readsAs_single {x : Binary} (fits : x.Fits .single) :
    ∃ y, (float .single x).ReadsAs (.scalar (.float y)) := by
  cases x with
  | notANumber => cases fits
  | infinite negative => cases fits
  | finite negative m e =>
    obtain ⟨whole, fraction, text, pointed, small⟩ := Binary.shownWithPoint_single fits
    obtain ⟨y, read⟩ := Bare.read_pointed negative pointed small
    have chars : (float .single (.finite negative m e)).chars =
        Binary.signText negative ++ whole ++ '.' :: fraction := text
    obtain ⟨c, more, starts, bare⟩ : ∃ c more,
        (float .single (.finite negative m e)).chars = c :: more ∧ Bare.isBare c = true := by
      rw [chars]
      cases negative with
      | true => exact ⟨'-', _, rfl, rfl⟩
      | false =>
        obtain ⟨d, more, starts⟩ := List.exists_cons_of_ne_nil pointed.whole_ne
        have digit := pointed.wholeDigits d (starts ▸ List.mem_cons_self)
        exact ⟨d, _, by rw [starts]; rfl, Bare.isBare_of_isDigit digit⟩
    exact ⟨y, readsAs_of_bare starts bare fun rest => by rw [chars, read]⟩

end Written

/-- What does not start like a gap is not passed over. -/
theorem skipGaps_of_solid (solid : ∀ d ∈ [' ', '\t', '\n', '\r', '#'], cs.head? ≠ some d) :
    skipGaps cs = cs := by
  have other (d : Char) (gap : d ∈ [' ', '\t', '\n', '\r', '#']) (more : List Char)
      (same : cs = d :: more) : False := solid d gap (same ▸ rfl)
  exact skipGaps.eq_6 cs (other ' ' (by simp)) (other '\t' (by simp)) (other '\n' (by simp))
    (fun more => other '\r' (by simp) ('\n' :: more)) (other '#' (by simp))

/-- A key that needs no quotes. -/
structure PlainKey (key : String) : Prop where
  nonempty : key.toList ≠ []
  plain : ∀ c ∈ key.toList, isKeyChar c = true

namespace PlainKey
variable {key : String} {v : Value} {written : Written}

theorem of_all (plain : (!key.toList.isEmpty && key.toList.all isKeyChar) = true) :
    PlainKey key := by
  rw [Bool.and_eq_true, List.all_eq_true] at plain
  exact ⟨by simpa using plain.1, plain.2⟩

theorem head (plain : PlainKey key) :
    ∃ c more, key.toList = c :: more ∧ isKeyChar c = true := by
  obtain ⟨c, more, starts⟩ := List.exists_cons_of_ne_nil plain.nonempty
  exact ⟨c, more, starts, plain.plain c (starts ▸ List.mem_cons_self)⟩

/-- No key starts like a gap. -/
theorem skipGaps_append (plain : PlainKey key) (rest : List Char) :
    skipGaps (key.toList ++ rest) = key.toList ++ rest := by
  obtain ⟨c, more, starts, keyChar⟩ := plain.head
  have gaps : ∀ d ∈ [' ', '\t', '\n', '\r', '#'], !isKeyChar d := List.all_eq_true.1 rfl
  refine skipGaps_of_solid fun d gap same => ?_
  rw [starts] at same
  exact ne_of_test keyChar (by simpa using gaps d gap) (Option.some.inj same)

/-- A key ends where something stands that no key has. -/
theorem readKey_append (plain : PlainKey key) (ends : ∀ c ∈ rest.head?, isKeyChar c = false) :
    readKey (key.toList ++ rest) = some (key, rest) := by
  obtain ⟨c, more, starts, keyChar⟩ := plain.head
  have unquoted : Quoted.line (key.toList ++ rest) = none := by
    rw [starts]
    refine Quoted.line.eq_3 _ ?_ ?_
    · exact fun _ same => ne_of_test keyChar rfl (List.cons.inj same).1
    · exact fun _ same => ne_of_test keyChar rfl (List.cons.inj same).1
  have stops : rest.takeWhile isKeyChar = [] ∧ rest.dropWhile isKeyChar = rest := by
    cases rest with
    | nil => exact ⟨rfl, rfl⟩
    | cons d rest => simp [List.takeWhile, List.dropWhile, ends d rfl]
  have front : (key.toList ++ rest).takeWhile isKeyChar = key.toList := by
    rw [List.takeWhile_append_of_pos plain.plain, stops.1, List.append_nil]
  have behind : (key.toList ++ rest).dropWhile isKeyChar = rest := by
    rw [List.dropWhile_append_of_pos plain.plain, stops.2]
  simp [readKey, unquoted, front, behind, plain.nonempty]

theorem readKeys_append (plain : PlainKey key) (ends : ∀ c ∈ rest.head?, isKeyChar c = false)
    (undotted : ∀ c ∈ (skipBlanks rest).head?, c ≠ '.') :
    readKeys (key.toList ++ rest) = some ([key], skipBlanks rest) := by
  obtain ⟨c, more, starts, keyChar⟩ := plain.head
  have solid : skipBlanks (key.toList ++ rest) = key.toList ++ rest := by
    have space := ne_of_test (d := ' ') keyChar rfl
    have tab := ne_of_test (d := '\t') keyChar rfl
    simp [starts, skipBlanks, isTabOrSpace, space, tab]
  obtain ⟨fuel, enough⟩ : ∃ fuel, (key.toList ++ rest).length = fuel + 1 :=
    ⟨more.length + rest.length, by simp [starts]⟩
  rw [readKeys, enough, keysWithin, solid, plain.readKey_append ends]
  dsimp only [Option.bind_eq_bind, Option.bind_some]
  split
  · next same => exact absurd rfl (undotted '.' (by rw [same]; rfl))
  · rfl

/-- A line gives its key its value. -/
theorem readStatement_line (plain : PlainKey key) (reads : written.ReadsAs v) (rest : List Char) :
    readStatement (Written.line key written ++ rest) = some (.entry [key] v, '\n' :: rest) := by
  obtain ⟨c, more, starts, keyChar⟩ := plain.head
  obtain ⟨d, others, solid, blank⟩ := reads.solid
  have line : Written.line key written ++ rest =
      key.toList ++ (' ' :: '=' :: ' ' :: (written.chars ++ '\n' :: rest)) := by
    simp [Written.line]
  have keys : readKeys (Written.line key written ++ rest) =
      some ([key], '=' :: ' ' :: (written.chars ++ '\n' :: rest)) := by
    rw [line]
    exact plain.readKeys_append (by rintro _ ⟨⟩; rfl) (by rintro _ ⟨⟩; decide)
  have value : skipBlanks (' ' :: (written.chars ++ '\n' :: rest)) =
      written.chars ++ '\n' :: rest := by
    rw [solid]
    exact List.dropWhile_cons_of_neg (p := isTabOrSpace) (by rw [blank]; decide)
  rw [readStatement.eq_3]
  · rw [readEntry, keys]
    change Option.map _ ((readValue deepest (skipBlanks (' ' :: _))).bind _) = _
    rw [value, reads.reads rest]
    rfl
  all_goals
    intro cs same
    rw [line, starts] at same
    exact ne_of_test keyChar rfl (List.cons.inj same).1

/-- A header opens its table. -/
theorem readStatement_header (plain : PlainKey key) (rest : List Char) :
    readStatement ('[' :: (key.toList ++ ']' :: rest)) = some (.table [key], rest) := by
  obtain ⟨c, more, starts, keyChar⟩ := plain.head
  rw [readStatement.eq_2, plain.readKeys_append (by rintro _ ⟨⟩; rfl) (by rintro _ ⟨⟩; decide)]
  · rfl
  · intro cs same
    rw [starts] at same
    exact ne_of_test keyChar rfl (List.cons.inj same).1

end PlainKey
section Documents
variable {key : String} {v : Value} {written : Written} {statements : List Statement}

/-- Some text is read as statements, whatever bound there is above its length. -/
def ReadsAs (cs : List Char) (statements : List Statement) : Prop :=
  ∀ fuel, cs.length < fuel → statementsWithin fuel cs = some statements

theorem readsAs_nil : ReadsAs [] [] := by
  intro fuel enough
  obtain ⟨fuel, rfl⟩ := Nat.exists_eq_add_one_of_ne_zero (Nat.ne_zero_of_lt enough)
  rw [statementsWithin, skipGaps_of_solid (by simp)]

/-- A statement on a line of its own, behind what is passed over. -/
theorem ReadsAs.cons {front : List Char} {statement : Statement} (later : ReadsAs rest statements)
    (skips : skipGaps cs = c :: front)
    (first : readStatement (c :: front) = some (statement, '\n' :: rest))
    (longer : rest.length < cs.length) : ReadsAs cs (statement :: statements) := by
  intro fuel enough
  obtain ⟨fuel, rfl⟩ := Nat.exists_eq_add_one_of_ne_zero (Nat.ne_zero_of_lt enough)
  rw [statementsWithin, skips]
  dsimp only
  rw [first]
  change (statementsWithin fuel rest).bind _ = _
  rw [later fuel (by omega)]
  rfl

theorem ReadsAs.line (plain : PlainKey key) (reads : written.ReadsAs v)
    (later : ReadsAs rest statements) :
    ReadsAs (Written.line key written ++ rest) (.entry [key] v :: statements) := by
  obtain ⟨c, more, starts, -⟩ := plain.head
  have text : Written.line key written ++ rest =
      c :: (more ++ ([' ', '=', ' '] ++ (written.chars ++ '\n' :: rest))) := by
    simp [Written.line, starts]
  have skips : skipGaps (Written.line key written ++ rest) = Written.line key written ++ rest := by
    have solid := plain.skipGaps_append ([' ', '=', ' '] ++ (written.chars ++ '\n' :: rest))
    simpa [Written.line] using solid
  refine later.cons (skips.trans text) (text ▸ plain.readStatement_line reads rest) ?_
  simp [text]
  omega

/-- A header behind an empty line. -/
theorem ReadsAs.header (plain : PlainKey key) (later : ReadsAs rest statements) :
    ReadsAs (['\n', '['] ++ key.toList ++ [']', '\n'] ++ rest) (.table [key] :: statements) := by
  have text : ['\n', '['] ++ key.toList ++ [']', '\n'] ++ rest =
      '\n' :: '[' :: (key.toList ++ ']' :: '\n' :: rest) := by
    simp
  rw [text]
  refine later.cons (c := '[') ?_ (plain.readStatement_header ('\n' :: rest)) ?_
  · rw [skipGaps.eq_3]
    exact skipGaps_of_solid (by simp)
  · simp
    omega

/-- An entry that is read as a key with its value. -/
structure Entry (entry : String × Written) (said : String × Value) : Prop where
  named : said.1 = entry.1
  plain : PlainKey entry.1
  reads : entry.2.ReadsAs said.2

theorem PlainKey.entry (plain : PlainKey key) (reads : written.ReadsAs v) :
    Entry (key, written) (key, v) :=
  ⟨rfl, plain, reads⟩

theorem ReadsAs.lines {entries : List (String × Written)} {said : Entries}
    (each : List.Forall₂ Entry entries said) (later : ReadsAs rest statements) :
    ReadsAs (Written.lines entries ++ rest) (Entries.statements said ++ statements) := by
  induction each with
  | nil => exact later
  | @cons entry said entries others first each ih =>
    obtain ⟨name, written⟩ := entry
    obtain ⟨_, value⟩ := said
    obtain rfl : _ = name := first.named
    rw [Written.lines, List.flatMap_cons, List.append_assoc]
    exact .line first.plain first.reads ih

/-- A table that is read as the table of its entries. -/
structure Group (group : String × List (String × Written)) (said : String × Entries) : Prop where
  named : said.1 = group.1
  plain : PlainKey group.1
  entries : List.Forall₂ Entry group.2 said.2

theorem PlainKey.group {inner : List (String × Written)} {said : Entries} (plain : PlainKey key)
    (entries : List.Forall₂ Entry inner said) : Group (key, inner) (key, said) :=
  ⟨rfl, plain, entries⟩

/-- Tables one behind the other. -/
def Written.tables (groups : List (String × List (String × Written))) : List Char :=
  groups.flatMap fun (header, entries) => Written.table header entries

theorem ReadsAs.tables {groups : List (String × List (String × Written))}
    {said : List (String × Entries)} (each : List.Forall₂ Group groups said) :
    ReadsAs (Written.tables groups) (Entries.tableStatements said) := by
  induction each with
  | nil => exact readsAs_nil
  | @cons group said groups others first each ih =>
    obtain ⟨header, entries⟩ := group
    obtain ⟨_, inner⟩ := said
    obtain rfl : _ = header := first.named
    rw [Written.tables, List.flatMap_cons]
    dsimp only
    rw [Written.table, List.append_assoc]
    exact .header first.plain (.lines first.entries ih)

/-- A document of plain entries and tables is read as what it says. -/
theorem ofDocument?_written {own : List (String × Written)}
    {groups : List (String × List (String × Written))} {said : Entries}
    {tables : List (String × Entries)} (entries : List.Forall₂ Entry own said)
    (each : List.Forall₂ Group groups tables)
    (fresh : Entries.Fresh [] (said ++ Entries.tables tables))
    (distinct : ∀ g ∈ tables, (g.2.map (·.1)).Nodup) :
    Entries.ofDocument? (Written.lines own ++ Written.tables groups) =
      some (said ++ Entries.tables tables) := by
  have reads := ReadsAs.lines entries (.tables each)
  have marked : skipByteOrderMark (Written.lines own ++ Written.tables groups) =
      Written.lines own ++ Written.tables groups := by
    cases entries with
    | nil =>
      cases each with
      | nil => rfl
      | cons first each =>
        exact skipByteOrderMark.eq_2 _ fun _ same => nomatch (List.cons.inj same).1
    | cons first entries =>
      obtain ⟨c, more, starts, keyChar⟩ := first.plain.head
      refine skipByteOrderMark.eq_2 _ fun _ same => ?_
      rw [Written.lines, List.flatMap_cons] at same
      dsimp only at same
      rw [Written.line, starts] at same
      exact ne_of_test keyChar rfl (List.cons.inj same).1
  rw [Entries.ofDocument?, marked, readStatements, reads _ (Nat.lt_succ_self _)]
  change Entries.ofStatements? [] [] _ = _
  rw [Entries.ofStatements?_root fresh.left, Entries.ofStatements?_tables fresh.right distinct]
  rfl

end Documents
end CredentialRotation.Toml
