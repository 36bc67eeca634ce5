import CredentialRotation.Toml.Quoted
import Mathlib.Logic.Basic

/-!
Whatever is written in quotes is read back, in each of the four kinds of quotes, and nothing of it
runs into what follows the closing quotes.
-/
namespace CredentialRotation.Toml.Quoted
variable {c : Char} {s cs rest : List Char}

section Escapes

/-- A character that does not stand for itself is a control character. -/
theorem toNat_lt_of_control (control : isPlain c = false) : c.toNat < 128 := by
  simp only [isPlain, Bool.or_eq_false_iff, Bool.and_eq_false_iff, decide_eq_false_iff_not,
    Char.le_def, UInt32.le_iff_toNat_le, ne_eq, not_not] at control
  obtain ⟨-, low | rfl⟩ := control
  · have below : c.toNat < 32 := Nat.lt_of_not_le low
    omega
  · decide

theorem codePoint?_hexDigit {n : Nat} (ascii : n < 128) (cs : List Char) :
    codePoint? 4 ('0' :: '0' :: hexDigit (n / 16) :: hexDigit (n % 16) :: cs) =
      some (Char.ofNat n, cs) := by
  have digits : ∀ m < 128, ['0', '0', hexDigit (m / 16), hexDigit (m % 16)].mapM hexValue? =
      some [0, 0, m / 16, m % 16] := by
    decide
  have value : List.foldl (fun n d => 16 * n + d) 0 [0, 0, n / 16, n % 16] = n := by
    simp only [List.foldl]
    omega
  have valid : n.isValidChar := .inl (by omega)
  simp only [codePoint?, List.take, digits n ascii, value]
  exact if_pos ⟨rfl, valid⟩

/-- The two ways in which a character stands between quotes. -/
inductive Escaped (c : Char) : List Char → Prop
  | itself (plain : isPlain c = true) (quote : c ≠ '"') (backslash : c ≠ '\\') : Escaped c [c]
  | behindBackslash {tail : List Char} (reads : ∀ cs, escape? (tail ++ cs) = some (c, cs))
      (joins : ∀ cs, joinedLine? (tail ++ cs) = none) : Escaped c ('\\' :: tail)

theorem escaped_escaped (c : Char) : Escaped c (escaped c) := by
  fun_cases escaped c
  case case8 quote backslash plain => exact .itself plain quote backslash
  case case9 control =>
    refine .behindBackslash (fun cs => ?_) (fun _ => rfl)
    have reads := codePoint?_hexDigit (toNat_lt_of_control (Bool.eq_false_iff.2 control)) cs
    rwa [Char.ofNat_toNat] at reads
  all_goals exact .behindBackslash (fun _ => rfl) (fun _ => rfl)

theorem Escaped.head (shape : Escaped c s) :
    ∃ d more, s = d :: more ∧ isPlain d = true ∧ d ≠ '"' := by
  cases shape with
  | itself plain quote backslash => exact ⟨c, [], rfl, plain, quote⟩
  | behindBackslash reads joins => exact ⟨'\\', _, rfl, rfl, by decide⟩

end Escapes
section Basic

theorem basic_escaped (c : Char) (cs : List Char) :
    basic (escaped c ++ cs) = cons c (basic cs) := by
  have shape := escaped_escaped c
  generalize escaped c = written at shape
  cases shape with
  | itself plain quote backslash =>
    rw [List.singleton_append, basic.eq_4 _ _ quote backslash, if_pos plain]
  | behindBackslash reads joins =>
    rw [List.cons_append, basic.eq_3]
    split
    · next reads' =>
      cases (reads cs).symm.trans reads'
      rfl
    · next fails => cases (reads cs).symm.trans fails

theorem basic_flatMap_escaped (s rest : List Char) :
    basic (s.flatMap escaped ++ '"' :: rest) = some (s, rest) := by
  induction s with
  | nil => exact basic.eq_2 rest
  | cons c cs ih =>
    rw [List.flatMap_cons, List.append_assoc, basic_escaped, ih]
    rfl

theorem literal_append (plain : ∀ c ∈ s, isPlain c = true) (quote : '\'' ∉ s) (rest : List Char) :
    literal (s ++ '\'' :: rest) = some (s, rest) := by
  induction s with
  | nil => rfl
  | cons c cs ih =>
    rw [List.forall_mem_cons] at plain
    rw [List.mem_cons, not_or] at quote
    rw [List.cons_append, literal.eq_3 _ _ (Ne.symm quote.1), if_pos plain.1, ih plain.2 quote.2]
    rfl

end Basic
section Lines

theorem isPlain_ne (plain : isPlain c = true) : c ≠ '\n' ∧ c ≠ '\r' := by
  constructor <;> rintro rfl <;> cases plain

/-- A character that stands for itself is read as such, if it is not the first of three quotes. -/
theorem basicLines_cons (plain : isPlain c = true) (backslash : c ≠ '\\')
    (single : ∀ more, c = '"' → cs ≠ '"' :: '"' :: more) :
    basicLines (c :: cs) = cons c (basicLines cs) := by
  have ⟨newline, return'⟩ := isPlain_ne plain
  rw [basicLines.eq_6 c cs single newline (fun _ same _ => return' same) backslash, if_pos plain]

theorem basicLines_escaped (c : Char) (cs : List Char) :
    basicLines (escaped c ++ cs) = cons c (basicLines cs) := by
  have shape := escaped_escaped c
  generalize escaped c = written at shape
  cases shape with
  | itself plain quote backslash =>
    exact basicLines_cons plain backslash fun _ same => absurd same quote
  | behindBackslash reads joins =>
    rw [List.cons_append, basicLines.eq_5]
    split
    · next joins' => cases (joins cs).symm.trans joins'
    · split
      · next reads' =>
        cases (reads cs).symm.trans reads'
        rfl
      · next fails => cases (reads cs).symm.trans fails

/-- Only a quote that stands for itself is written as a quote. -/
theorem of_escapedLines_eq_quote {quotes : Nat} {closed more : List Char}
    (starts : escapedLines quotes (c :: s) ++ closed = '"' :: more) : c = '"' ∧ quotes < 2 := by
  rw [escapedLines] at starts
  split at starts
  · next itself => exact itself
  · split at starts
    · cases starts
    · obtain ⟨d, tail, shape, -, quote⟩ := (escaped_escaped c).head
      rw [shape] at starts
      exact absurd (List.cons.inj starts).1 quote

/-- Behind a quote that stands for itself at most one other does, and then the text is over. -/
theorem escapedLines_of_quotes {quotes : Nat} {closed more : List Char}
    (starts : escapedLines (quotes + 1) s ++ closed = '"' :: '"' :: more) :
    escapedLines (quotes + 1) s = s ∧ (s = [] ∨ s = ['"']) := by
  cases s with
  | nil => exact ⟨rfl, .inl rfl⟩
  | cons c s =>
    obtain ⟨rfl, few⟩ := of_escapedLines_eq_quote starts
    rw [escapedLines, if_pos ⟨rfl, few⟩] at starts ⊢
    cases s with
    | nil => exact ⟨rfl, .inr rfl⟩
    | cons d s =>
      have many := (of_escapedLines_eq_quote (List.cons.inj starts).2).2
      omega

theorem closing_of_ne {quote : Char} (ends : rest.head? ≠ some quote) :
    closing quote rest = ([], rest) := by
  match rest with
  | [] => rfl
  | [c] => exact if_neg fun same => ends (congrArg some same)
  | c :: d :: cs => exact if_neg fun same => ends (congrArg some same)

theorem closing_cons {quote : Char} (ends : rest.head? ≠ some quote) :
    closing quote (quote :: rest) = ([quote], rest) := by
  match rest with
  | [] => exact if_pos rfl
  | d :: cs => exact (if_pos rfl).trans (if_neg fun same => ends (congrArg some same))

theorem closing_cons_cons (quote : Char) (rest : List Char) :
    closing quote (quote :: quote :: rest) = ([quote, quote], rest) := by
  simp [closing]

theorem basicLines_escapedLines (ends : rest.head? ≠ some '"') (quotes : Nat) :
    basicLines (escapedLines quotes s ++ '"' :: '"' :: '"' :: rest) = some (s, rest) := by
  induction s generalizing quotes with
  | nil =>
    rw [escapedLines, List.nil_append, basicLines.eq_2, closing_of_ne ends]
  | cons c s ih =>
    rw [escapedLines]
    split
    · next h =>
      obtain ⟨rfl, few⟩ := h
      rw [List.cons_append]
      by_cases triple : ∃ more,
          escapedLines (quotes + 1) s ++ '"' :: '"' :: '"' :: rest = '"' :: '"' :: more
      · -- The quotes of the text run into those that close it.
        obtain ⟨more, starts⟩ := triple
        obtain ⟨same, rfl | rfl⟩ := escapedLines_of_quotes starts
        · rw [same, List.nil_append, basicLines.eq_2, closing_cons ends]
        · rw [same, List.singleton_append, basicLines.eq_2, closing_cons_cons]
      · rw [basicLines_cons rfl (by decide) fun more _ same => triple ⟨more, same⟩, ih]
        rfl
    · split
      · next h =>
        subst h
        rw [List.cons_append, basicLines.eq_3, ih]
        rfl
      · rw [List.append_assoc, basicLines_escaped, ih]
        rfl

theorem literalLines_cons (plain : isPlain c = true)
    (single : ∀ more, c = '\'' → cs ≠ '\'' :: '\'' :: more) :
    literalLines (c :: cs) = cons c (literalLines cs) := by
  have ⟨newline, return'⟩ := isPlain_ne plain
  rw [literalLines.eq_5 c cs single newline fun _ same _ => return' same, if_pos plain]

theorem literalLines_append (plain : ∀ c ∈ s, isPlain c = true ∨ c = '\n')
    (triple : hasTriple '\'' s = false) (ends : rest.head? ≠ some '\'') :
    literalLines (s ++ '\'' :: '\'' :: '\'' :: rest) = some (s, rest) := by
  induction s with
  | nil => rw [List.nil_append, literalLines.eq_2, closing_of_ne ends]
  | cons c s ih =>
    rw [List.forall_mem_cons] at plain
    have later : hasTriple '\'' s = false := by
      match s, triple with
      | [], _ | [_], _ => rfl
      | _ :: _ :: _, triple => exact (Bool.or_eq_false_iff.1 triple).2
    rw [List.cons_append]
    obtain plain' | rfl := plain.1
    · by_cases run : ∃ more, c = '\'' ∧ s ++ '\'' :: '\'' :: '\'' :: rest = '\'' :: '\'' :: more
      · -- The apostrophes of the text run into those that close it.
        obtain ⟨more, rfl, starts⟩ := run
        match s with
        | [] => rw [List.nil_append, literalLines.eq_2, closing_cons ends]
        | [_] =>
          obtain rfl := (List.cons.inj starts).1
          rw [List.singleton_append, literalLines.eq_2, closing_cons_cons]
        | _ :: _ :: _ =>
          obtain ⟨rfl, second⟩ := List.cons.inj starts
          obtain ⟨rfl, -⟩ := List.cons.inj second
          cases triple
      · rw [literalLines_cons plain' fun more quote same => run ⟨more, quote, same⟩,
          ih plain.2 later]
        rfl
    · rw [literalLines.eq_3, ih plain.2 later]
      rfl

end Lines
section Written

/-- What stands at the front of a text in escapes. -/
theorem escapedLines_head (oneLine : '\n' ∉ s) (quotes : Nat) :
    ∀ d ∈ (escapedLines quotes s).head?, isPlain d = true := by
  cases s with
  | nil => nofun
  | cons c s =>
    rw [List.mem_cons, not_or] at oneLine
    rw [escapedLines]
    split
    · rintro _ ⟨⟩
      rfl
    · rw [if_neg (Ne.symm oneLine.1)]
      obtain ⟨d, tail, shape, plain, -⟩ := (escaped_escaped c).head
      rw [shape]
      rintro _ ⟨⟩
      exact plain

/-- A writer makes sure that no line end of the text is lost behind the opening quotes. -/
theorem skipFirstNewline_opened {oneLine : Bool}
    (plain : oneLine = true → ∀ c ∈ s.head?, isPlain c = true) :
    skipFirstNewline ((if oneLine then [] else ['\n']) ++ s) = s := by
  cases oneLine with
  | false => rfl
  | true =>
    cases s with
    | nil => rfl
    | cons c s =>
      have ⟨newline, return'⟩ := isPlain_ne (plain rfl c rfl)
      change (afterNewline? (c :: s)).getD (c :: s) = c :: s
      rw [afterNewline?.eq_3 _ (fun _ same => newline (List.cons.inj same).1)
        fun _ same => return' (List.cons.inj same).1]
      rfl

theorem read_basic (ends : rest.head? ≠ some '"') :
    read ('"' :: (s.flatMap escaped ++ '"' :: rest)) = some (s, rest) := by
  have single : ∀ cs, s.flatMap escaped ++ '"' :: rest ≠ '"' :: '"' :: cs := by
    intro cs same
    cases s with
    | nil =>
      obtain rfl := (List.cons.inj same).2
      exact ends rfl
    | cons c s =>
      obtain ⟨d, tail, shape, -, quote⟩ := (escaped_escaped c).head
      rw [List.flatMap_cons, shape] at same
      exact quote (List.cons.inj same).1
  rw [read.eq_3, line, basic_flatMap_escaped]
  · exact fun cs same => single cs (List.cons.inj same).2
  · exact fun cs same => absurd (List.cons.inj same).1 (by decide)

theorem read_literal (plain : ∀ c ∈ s, isPlain c = true) (quote : '\'' ∉ s)
    (ends : rest.head? ≠ some '\'') : read ('\'' :: (s ++ '\'' :: rest)) = some (s, rest) := by
  have single : ∀ cs, s ++ '\'' :: rest ≠ '\'' :: '\'' :: cs := by
    intro cs same
    cases s with
    | nil =>
      obtain rfl := (List.cons.inj same).2
      exact ends rfl
    | cons c s => exact quote ((List.cons.inj same).1 ▸ List.mem_cons_self)
  rw [read.eq_3, line, literal_append plain quote]
  · exact fun cs same => absurd (List.cons.inj same).1 (by decide)
  · exact fun cs same => single cs (List.cons.inj same).2

theorem read_basicLines {oneLine : Bool} (single : oneLine = true → '\n' ∉ s)
    (ends : rest.head? ≠ some '"') :
    read ('"' :: '"' :: '"' :: ((if oneLine then [] else ['\n']) ++
      (escapedLines 0 s ++ '"' :: '"' :: '"' :: rest))) = some (s, rest) := by
  rw [read.eq_1, skipFirstNewline_opened, basicLines_escapedLines ends]
  intro one d front
  rw [List.head?_append, Option.mem_def, Option.or_eq_some_iff] at front
  obtain front | ⟨-, front⟩ := front
  · exact escapedLines_head (single one) 0 d front
  · obtain rfl := Option.some.inj front
    rfl

theorem read_literalLines {oneLine : Bool} (single : oneLine = true → '\n' ∉ s)
    (plain : ∀ c ∈ s, isPlain c = true ∨ c = '\n') (triple : hasTriple '\'' s = false)
    (ends : rest.head? ≠ some '\'') :
    read ('\'' :: '\'' :: '\'' :: ((if oneLine then [] else ['\n']) ++
      (s ++ '\'' :: '\'' :: '\'' :: rest))) = some (s, rest) := by
  rw [read.eq_2, skipFirstNewline_opened, literalLines_append plain triple ends]
  intro one d front
  rw [List.head?_append, Option.mem_def, Option.or_eq_some_iff] at front
  obtain front | ⟨-, front⟩ := front
  · have mem : d ∈ s := List.mem_of_head? front
    exact (plain d mem).resolve_right fun newline => single one (newline ▸ mem)
  · obtain rfl := Option.some.inj front
    rfl

theorem write_head (s : List Char) : ∃ q more, write s = q :: more ∧ (q = '"' ∨ q = '\'') := by
  unfold write
  dsimp only
  split
  · exact ⟨'"', _, rfl, .inl rfl⟩
  split
  · exact ⟨'\'', _, rfl, .inr rfl⟩
  split
  · exact ⟨'"', _, rfl, .inl rfl⟩
  split
  · exact ⟨'\'', _, rfl, .inr rfl⟩
  split
  · exact ⟨'"', _, rfl, .inl rfl⟩
  · exact ⟨'"', _, rfl, .inl rfl⟩

/-- A text is read back as it was written, in whichever quotes. -/
theorem read_write (s : List Char) (double : rest.head? ≠ some '"')
    (single : rest.head? ≠ some '\'') : read (write s ++ rest) = some (s, rest) := by
  have oneLine : (!s.contains '\n') = true → '\n' ∉ s := by simp
  have plain : (s.all fun c => isPlain c || c = '\n') = true →
      ∀ c ∈ s, isPlain c = true ∨ c = '\n' := by simp
  unfold write
  simp only [Bool.and_eq_true]
  split
  · simpa using read_basic double
  split
  · next h =>
    obtain ⟨⟨allPlain, one⟩, quote⟩ := h
    have read' := read_literal (s := s)
      (fun c mem => (plain allPlain c mem).resolve_right fun newline =>
        oneLine one (newline ▸ mem)) (by simpa using quote) single
    simpa using read'
  split
  · simpa using read_basicLines oneLine double
  split
  · next h =>
    simpa using read_literalLines oneLine (plain h.1) (by simpa using h.2) single
  split
  · simpa using read_basic double
  · next h =>
    have several : '\n' ∈ s := by simpa using h
    simpa [several] using read_basicLines oneLine double

end Written
end CredentialRotation.Toml.Quoted
