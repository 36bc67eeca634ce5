import CredentialRotation.Text.Utf8

/-!
UTF-8 text inside other octets. A well-formed text is read back whatever follows it, and an ASCII
octet is never part of a longer sequence, so reading may be split in front of it.
-/
namespace CredentialRotation.Utf8

/-- How many octets behind the first belong to the front. -/
def Front.more : Front → Nat
  | .scalar _ more | .broken more => more

/-- What the front is read as: its character, or the replacement character. -/
def Front.read : Front → Char
  | .scalar c _ => c
  | .broken _ => '\ufffd'

@[simp] theorem decodeLossy_nil : decodeLossy [] = [] := by
  rw [decodeLossy]

theorem decodeLossy_cons (b : UInt8) (rest : Octets) :
    decodeLossy (b :: rest) =
      (front b rest).read :: decodeLossy (rest.drop (front b rest).more) := by
  rw [decodeLossy]
  cases front b rest <;> rfl

section Front
variable {b lo hi : Nat} {a : UInt8}

private theorem three_more_le (rest : Octets) : (three b lo hi rest).more ≤ rest.length := by
  unfold three
  split <;> (try split) <;> (try split) <;> simp [Front.more]

private theorem four_more_le (rest : Octets) : (four b lo hi rest).more ≤ rest.length := by
  unfold four
  split <;> (try split) <;> (try split) <;> (try split) <;> simp [Front.more]

/-- The front never reaches past the end. -/
theorem front_more_le (x : UInt8) (rest : Octets) : (front x rest).more ≤ rest.length := by
  unfold front
  dsimp only
  split
  · simp [Front.more]
  split
  · simp [Front.more]
  split
  · split
    · split <;> simp [Front.more]
    · simp [Front.more]
  repeat' split
  all_goals first
    | exact three_more_le rest
    | exact four_more_le rest
    | simp [Front.more]

private theorem between_ascii (h : a.toNat < 0x80) (hlo : 0x80 ≤ lo) : between lo hi a = false := by
  simp only [between, Bool.and_eq_false_iff, decide_eq_false_iff_not]
  omega

private theorem isTail_ascii (h : a.toNat < 0x80) : isTail a = false :=
  between_ascii h (Nat.le_refl _)

private theorem three_append_ascii (h : a.toNat < 0x80) (hlo : 0x80 ≤ lo) (rest after : Octets) :
    three b lo hi (rest ++ a :: after) = three b lo hi rest := by
  match rest with
  | [] => cases after <;> simp [three, between_ascii h hlo]
  | [x] => cases hx : between lo hi x <;> simp [three, hx, isTail_ascii h]
  | x :: y :: rest => rfl

private theorem four_append_ascii (h : a.toNat < 0x80) (hlo : 0x80 ≤ lo) (rest after : Octets) :
    four b lo hi (rest ++ a :: after) = four b lo hi rest := by
  match rest with
  | [] =>
    match after with
    | [] => simp [four, between_ascii h hlo]
    | [_] => simp [four, between_ascii h hlo]
    | _ :: _ :: _ => simp [four, between_ascii h hlo]
  | [x] => cases hx : between lo hi x <;> cases after <;> simp [four, hx, isTail_ascii h]
  | [x, y] =>
    cases hx : between lo hi x <;> cases hy : isTail y <;> simp [four, hx, hy, isTail_ascii h]
  | x :: y :: z :: rest => rfl

/-- An ASCII octet adds nothing to the front before it. -/
theorem front_append_ascii (h : a.toNat < 0x80) (x : UInt8) (rest after : Octets) :
    front x (rest ++ a :: after) = front x rest := by
  unfold front
  dsimp only
  simp only [three_append_ascii h (Nat.le_refl 0x80), four_append_ascii h (Nat.le_refl 0x80),
    three_append_ascii h (show 0x80 ≤ 0xa0 by decide),
    four_append_ascii h (show 0x80 ≤ 0x90 by decide)]
  cases rest with
  | nil => simp [isTail_ascii h]
  | cons y rest => rfl

theorem front_ascii (h : a.toNat < 0x80) (rest : Octets) :
    front a rest = .scalar (Char.ofNat a.toNat) 0 := by
  unfold front
  simp only [h, if_true]

end Front

theorem decodeLossy_cons_ascii {a : UInt8} (h : a.toNat < 0x80) (rest : Octets) :
    decodeLossy (a :: rest) = Char.ofNat a.toNat :: decodeLossy rest := by
  rw [decodeLossy_cons, front_ascii h]
  rfl

/-- Reading may be split in front of an ASCII octet, whatever stands before it. -/
theorem decodeLossy_append_ascii {a : UInt8} (h : a.toNat < 0x80) (before after : Octets) :
    decodeLossy (before ++ a :: after) = decodeLossy before ++ decodeLossy (a :: after) := by
  -- The length is the measure: a front takes several octets at once.
  induction size : before.length using Nat.strongRecOn generalizing before with
  | ind n ih =>
    cases before with
    | nil => simp
    | cons x rest =>
      have inside := front_more_le x rest
      have shorter : (rest.drop (front x rest).more).length < n := by
        simp only [List.length_drop, ← size, List.length_cons]
        omega
      rw [List.cons_append, decodeLossy_cons, decodeLossy_cons x rest, front_append_ascii h,
        List.drop_append_of_le_length inside, ih _ shorter _ rfl, List.cons_append]

section Encoding

private theorem tail_toNat (n : Nat) : (UInt8.ofNat (0x80 + n % 64)).toNat = 0x80 + n % 64 := by
  rw [UInt8.toNat_ofNat']
  omega

private theorem between_tail {lo hi n : Nat} (hlo : lo ≤ 0x80 + n % 64) (hhi : 0x80 + n % 64 ≤ hi) :
    between lo hi (UInt8.ofNat (0x80 + n % 64)) = true := by
  simp only [between, tail_toNat, Bool.and_eq_true, decide_eq_true_eq]
  omega

private theorem isTail_tail (n : Nat) : isTail (UInt8.ofNat (0x80 + n % 64)) = true :=
  between_tail (by omega) (by omega)

private theorem low_tail (n : Nat) : low (UInt8.ofNat (0x80 + n % 64)) = n % 64 := by
  rw [low, tail_toNat]
  omega

private theorem front_two {n : Nat} (hlo : 0x80 ≤ n) (hhi : n < 0x800) (after : Octets) :
    front (UInt8.ofNat (0xc0 + n / 64)) (UInt8.ofNat (0x80 + n % 64) :: after) =
      .scalar (Char.ofNat n) 1 := by
  have lead : (UInt8.ofNat (0xc0 + n / 64)).toNat = 0xc0 + n / 64 := by
    rw [UInt8.toNat_ofNat']
    omega
  unfold front
  simp only [lead, isTail_tail, low_tail, if_true]
  rw [if_neg (by omega), if_neg (by omega), if_pos (by omega)]
  congr 2
  omega

private theorem three_tails {b lo hi x y : Nat} (hlo : lo ≤ 0x80 + x % 64)
    (hhi : 0x80 + x % 64 ≤ hi) (after : Octets) :
    three b lo hi (UInt8.ofNat (0x80 + x % 64) :: UInt8.ofNat (0x80 + y % 64) :: after) =
      .scalar (Char.ofNat (b % 16 * 4096 + x % 64 * 64 + y % 64)) 2 := by
  simp only [three, between_tail hlo hhi, isTail_tail, low_tail, Bool.not_true, Bool.false_eq_true,
    if_false]

private theorem front_three {n : Nat} (hlo : 0x800 ≤ n) (hhi : n < 0x10000)
    (valid : n < 0xd800 ∨ 0xdfff < n) (after : Octets) :
    front (UInt8.ofNat (0xe0 + n / 4096))
        (UInt8.ofNat (0x80 + n / 64 % 64) :: UInt8.ofNat (0x80 + n % 64) :: after) =
      .scalar (Char.ofNat n) 2 := by
  have lead : (UInt8.ofNat (0xe0 + n / 4096)).toNat = 0xe0 + n / 4096 := by
    rw [UInt8.toNat_ofNat']
    omega
  have number : (0xe0 + n / 4096) % 16 * 4096 + n / 64 % 64 * 64 + n % 64 = n := by omega
  unfold front
  simp only [lead]
  rw [if_neg (by omega), if_neg (by omega), if_neg (by omega)]
  -- The ranges of the second octet keep overlong forms and surrogates out.
  split
  · rw [three_tails (by omega) (by omega), number]
  split
  · rw [three_tails (by omega) (by omega), number]
  rw [if_pos (by omega), three_tails (by omega) (by omega), number]

private theorem four_tails {b lo hi x y z : Nat} (hlo : lo ≤ 0x80 + x % 64)
    (hhi : 0x80 + x % 64 ≤ hi) (after : Octets) :
    four b lo hi (UInt8.ofNat (0x80 + x % 64) :: UInt8.ofNat (0x80 + y % 64) ::
        UInt8.ofNat (0x80 + z % 64) :: after) =
      .scalar (Char.ofNat (b % 8 * 262144 + x % 64 * 4096 + y % 64 * 64 + z % 64)) 3 := by
  simp only [four, between_tail hlo hhi, isTail_tail, low_tail, Bool.not_true, Bool.false_eq_true,
    if_false]

private theorem front_four {n : Nat} (hlo : 0x10000 ≤ n) (hhi : n < 0x110000) (after : Octets) :
    front (UInt8.ofNat (0xf0 + n / 262144))
        (UInt8.ofNat (0x80 + n / 4096 % 64) :: UInt8.ofNat (0x80 + n / 64 % 64) ::
          UInt8.ofNat (0x80 + n % 64) :: after) =
      .scalar (Char.ofNat n) 3 := by
  have lead : (UInt8.ofNat (0xf0 + n / 262144)).toNat = 0xf0 + n / 262144 := by
    rw [UInt8.toNat_ofNat']
    omega
  have number : (0xf0 + n / 262144) % 8 * 262144 + n / 4096 % 64 * 4096 + n / 64 % 64 * 64 +
      n % 64 = n := by omega
  unfold front
  simp only [lead]
  rw [if_neg (by omega), if_neg (by omega), if_neg (by omega), if_neg (by omega),
    if_neg (by omega), if_neg (by omega)]
  split
  · rw [four_tails (by omega) (by omega), number]
  split
  · rw [four_tails (by omega) (by omega), number]
  rw [if_pos (by omega), four_tails (by omega) (by omega), number]

/-- A character's octets are read as that character, whatever follows them. -/
theorem front_encodeChar (c : Char) (after : Octets) :
    ∃ b rest, encodeChar c = b :: rest ∧ front b (rest ++ after) = .scalar c rest.length := by
  have valid : c.toNat < 0xd800 ∨ 0xdfff < c.toNat ∧ c.toNat < 0x110000 := c.valid
  unfold encodeChar
  simp only [Nat.div_one]
  split
  · refine ⟨_, _, rfl, ?_⟩
    rw [front_ascii (by rw [UInt8.toNat_ofNat']; omega), UInt8.toNat_ofNat',
      Nat.mod_eq_of_lt (by omega), Char.ofNat_toNat]
    rfl
  split
  · refine ⟨_, _, rfl, ?_⟩
    rw [List.singleton_append, front_two (by omega) (by omega), Char.ofNat_toNat]
    rfl
  split
  · refine ⟨_, _, rfl, ?_⟩
    rw [List.cons_append, List.singleton_append, front_three (by omega) (by omega) (by omega),
      Char.ofNat_toNat]
    rfl
  · refine ⟨_, _, rfl, ?_⟩
    rw [List.cons_append, List.cons_append, List.singleton_append,
      front_four (by omega) (by omega), Char.ofNat_toNat]
    rfl

@[simp] theorem encode_cons (c : Char) (cs : List Char) :
    encode (c :: cs) = encodeChar c ++ encode cs := rfl

theorem encode_append (cs ds : List Char) : encode (cs ++ ds) = encode cs ++ encode ds :=
  List.flatMap_append

/-- A text's octets are read as that text, whatever follows them. -/
theorem decodeLossy_encode_append (cs : List Char) (after : Octets) :
    decodeLossy (encode cs ++ after) = cs ++ decodeLossy after := by
  induction cs with
  | nil => rfl
  | cons c cs ih =>
    obtain ⟨b, rest, octets, scalar⟩ := front_encodeChar c (encode cs ++ after)
    rw [encode_cons, octets, List.append_assoc, List.cons_append, decodeLossy_cons, scalar]
    simp only [Front.read, Front.more, List.drop_left, ih, List.cons_append]

@[simp] theorem decodeLossy_encode (cs : List Char) : decodeLossy (encode cs) = cs := by
  have read := decodeLossy_encode_append cs []
  rwa [List.append_nil, decodeLossy_nil, List.append_nil] at read

/-- The strict reader reads it too. -/
theorem decode?_encode (cs : List Char) : decode? (encode cs) = some cs := by
  induction cs with
  | nil => rw [show encode [] = [] from rfl, decode?]
  | cons c cs ih =>
    obtain ⟨b, rest, octets, scalar⟩ := front_encodeChar c (encode cs)
    rw [encode_cons, octets, List.cons_append, decode?, scalar]
    simp only [List.drop_left, ih, Option.map_some]

/-- No two texts have the same octets. -/
theorem encode_inj {cs ds : List Char} : encode cs = encode ds ↔ cs = ds := by
  constructor
  · intro h
    rw [← decodeLossy_encode cs, h, decodeLossy_encode]
  · exact congrArg encode

/-- A text that starts with a hyphen is read as that text, whatever stands around it. -/
theorem decodeLossy_append_text {cs : List Char} (starts : ∃ rest, cs = '-' :: rest)
    (before after : Octets) :
    decodeLossy (before ++ (encode cs ++ after)) =
      decodeLossy before ++ (cs ++ decodeLossy after) := by
  obtain ⟨rest, rfl⟩ := starts
  have hyphen : encode ('-' :: rest) = 45 :: encode rest := rfl
  rw [← decodeLossy_encode_append, hyphen]
  exact decodeLossy_append_ascii (by decide) before _

/-- Reading may be split in front of a text that starts with a hyphen, even if it is cut off. -/
theorem decodeLossy_append_cut {cs : List Char} (starts : ∃ rest, cs = '-' :: rest)
    {cut : Octets} (inside : cut <+: encode cs) (before : Octets) :
    decodeLossy (before ++ cut) = decodeLossy before ++ decodeLossy cut := by
  obtain ⟨rest, rfl⟩ := starts
  have hyphen : encode ('-' :: rest) = 45 :: encode rest := rfl
  cases cut with
  | nil => rw [decodeLossy_nil, List.append_nil, List.append_nil]
  | cons a cut =>
    rw [hyphen] at inside
    obtain rfl := (List.cons_prefix_cons.1 inside).1
    exact decodeLossy_append_ascii (by decide) before cut

/-- Reading may be split behind the end of a line. -/
theorem decodeLossy_append_of_ends {bs : Octets} (ends : bs = [] ∨ bs.getLast? = some 10)
    (after : Octets) : decodeLossy (bs ++ after) = decodeLossy bs ++ decodeLossy after := by
  rcases ends with rfl | feed
  · rw [decodeLossy_nil, List.nil_append, List.nil_append]
  · obtain ⟨line, rfl⟩ := List.getLast?_eq_some_iff.1 feed
    rw [List.append_assoc, List.singleton_append, decodeLossy_append_ascii (by decide),
      decodeLossy_append_ascii (by decide), decodeLossy_cons_ascii (by decide),
      decodeLossy_cons_ascii (by decide), decodeLossy_nil, List.append_assoc, List.singleton_append]

/-- Octets that end a line are read as text that ends a line. -/
theorem decodeLossy_ends {bs : Octets} (ends : bs = [] ∨ bs.getLast? = some 10) :
    decodeLossy bs = [] ∨ (decodeLossy bs).getLast? = some '\n' := by
  rcases ends with empty | feed
  · rw [empty]
    exact .inl decodeLossy_nil
  · obtain ⟨line, joined⟩ := List.getLast?_eq_some_iff.1 feed
    rw [joined, decodeLossy_append_ascii (by decide), decodeLossy_cons_ascii (by decide),
      decodeLossy_nil]
    exact .inr List.getLast?_concat

end Encoding

section Hyphens
variable {b lo hi : Nat}

private theorem ofNat_ne_hyphen {n : Nat} (h : n ≠ 45) : Char.ofNat n ≠ '-' := by
  intro same
  by_cases valid : n.isValidChar
  · rw [Char.ofNat, dif_pos valid] at same
    exact h (congrArg Char.toNat same)
  · rw [Char.ofNat, dif_neg valid] at same
    cases same

private theorem three_read_ne_hyphen (rest : Octets) (large : 0 < b % 16 ∨ 0xa0 ≤ lo)
    (small : hi ≤ 0xbf) : (three b lo hi rest).read ≠ '-' := by
  unfold three
  split
  · rename_i x y _
    split
    · exact nofun
    split
    · exact nofun
    rename_i second _
    simp only [between, Bool.not_eq_true, Bool.not_eq_false', Bool.and_eq_true,
      decide_eq_true_eq] at second
    refine ofNat_ne_hyphen ?_
    simp only [low]
    omega
  · split <;> exact nofun
  · exact nofun

private theorem four_read_ne_hyphen (rest : Octets) (large : 0 < b % 8 ∨ 0x90 ≤ lo)
    (small : hi ≤ 0xbf) : (four b lo hi rest).read ≠ '-' := by
  unfold four
  split
  · rename_i x y z _
    split
    · exact nofun
    split
    · exact nofun
    split
    · exact nofun
    rename_i second _ _
    simp only [between, Bool.not_eq_true, Bool.not_eq_false', Bool.and_eq_true,
      decide_eq_true_eq] at second
    refine ofNat_ne_hyphen ?_
    simp only [low]
    omega
  · split
    · exact nofun
    · split <;> exact nofun
  · split <;> exact nofun
  · exact nofun

/-- Only the hyphen's own octet is read as a hyphen. -/
theorem front_read_ne_hyphen {a : UInt8} (h : a ≠ 45) (rest : Octets) :
    (front a rest).read ≠ '-' := by
  have bound := a.toNat_lt
  have other : a.toNat ≠ 45 := fun same => h (UInt8.toNat.inj same)
  unfold front
  dsimp only
  split
  · exact ofNat_ne_hyphen other
  split
  · exact nofun
  split
  · split
    · split
      · exact ofNat_ne_hyphen (by omega)
      · exact nofun
    · exact nofun
  -- The ranges of the second octet keep overlong forms of the hyphen out.
  split
  · exact three_read_ne_hyphen rest (.inr (by omega)) (by omega)
  split
  · exact three_read_ne_hyphen rest (.inl (by omega)) (by omega)
  split
  · exact three_read_ne_hyphen rest (.inl (by omega)) (by omega)
  split
  · exact four_read_ne_hyphen rest (.inr (by omega)) (by omega)
  split
  · exact four_read_ne_hyphen rest (.inl (by omega)) (by omega)
  split
  · exact four_read_ne_hyphen rest (.inl (by omega)) (by omega)
  · exact nofun

/-- No hyphen is read that was not there. -/
theorem count_decodeLossy_le (bs : Octets) : (decodeLossy bs).count '-' ≤ bs.count 45 := by
  induction size : bs.length using Nat.strongRecOn generalizing bs with
  | ind n ih =>
    cases bs with
    | nil => exact Nat.le_of_eq (by rw [decodeLossy_nil]; rfl)
    | cons a rest =>
      by_cases hyphen : a = 45
      · subst hyphen
        have behind := ih rest.length (by rw [← size]; exact Nat.lt_succ_self _) rest rfl
        rw [decodeLossy_cons_ascii (by decide), List.count_cons_self]
        exact Nat.le_trans (Nat.le_of_eq List.count_cons_self) (Nat.succ_le_succ behind)
      · have shorter : (rest.drop (front a rest).more).length < n := by
          simp only [List.length_drop, ← size, List.length_cons]
          omega
        rw [decodeLossy_cons, List.count_cons_of_ne (front_read_ne_hyphen hyphen rest),
          List.count_cons_of_ne hyphen]
        exact Nat.le_trans (ih _ shorter _ rfl) ((List.drop_sublist _ rest).count_le 45)

/-- Where a hyphen is read there is one, and what is read around it stands around it. -/
theorem exists_of_decodeLossy_eq {bs : Octets} {before after : List Char}
    (read : decodeLossy bs = before ++ '-' :: after) :
    ∃ x y, bs = x ++ 45 :: y ∧ decodeLossy x = before ∧ decodeLossy y = after := by
  induction size : bs.length using Nat.strongRecOn generalizing bs before with
  | ind n ih =>
    cases bs with
    | nil =>
      rw [decodeLossy_nil] at read
      cases (List.append_eq_nil_iff.1 read.symm).2
    | cons a rest =>
      rw [decodeLossy_cons] at read
      cases before with
      | nil =>
        obtain ⟨hyphen, behind⟩ := List.cons.inj read
        obtain rfl : a = 45 := Decidable.byContradiction fun other =>
          front_read_ne_hyphen other rest hyphen
        rw [front_ascii (by decide)] at behind
        exact ⟨[], rest, rfl, decodeLossy_nil, behind⟩
      | cons c before =>
        obtain ⟨first, behind⟩ := List.cons.inj read
        have shorter : (rest.drop (front a rest).more).length < n := by
          simp only [List.length_drop, ← size, List.length_cons]
          omega
        obtain ⟨x, y, joined, hx, hy⟩ := ih _ shorter behind rfl
        have whole : rest = (rest.take (front a rest).more ++ x) ++ 45 :: y := by
          rw [List.append_assoc, ← joined, List.take_append_drop]
        -- The hyphen adds nothing to the front before it.
        have same : front a (rest.take (front a rest).more ++ x) = front a rest := by
          rw [← front_append_ascii (a := 45) (by decide) a _ y, ← whole]
        have within : (rest.take (front a rest).more).length = (front a rest).more :=
          List.length_take_of_le (front_more_le a rest)
        refine ⟨a :: (rest.take (front a rest).more ++ x), y, ?_, ?_, hy⟩
        · rw [List.cons_append, ← whole]
        · rw [decodeLossy_cons, same, List.drop_left' within, first, hx]

private theorem not_mem_encodeChar {c : Char} (h : c ≠ '-') : (45 : UInt8) ∉ encodeChar c := by
  have valid : c.toNat < 0xd800 ∨ 0xdfff < c.toNat ∧ c.toNat < 0x110000 := c.valid
  have other : c.toNat ≠ 45 := fun same => h (by rw [← Char.ofNat_toNat c, same])
  have octet {n : Nat} (hn : n % 256 ≠ 45) : (45 : UInt8) ≠ UInt8.ofNat n := by
    intro same
    have number := congrArg UInt8.toNat same
    rw [UInt8.toNat_ofNat'] at number
    exact hn number.symm
  unfold encodeChar
  dsimp only
  split
  · exact List.not_mem_cons_of_ne_of_not_mem (octet (by omega)) List.not_mem_nil
  split
  · simp only [List.mem_cons, List.not_mem_nil, or_false, not_or]
    exact ⟨octet (by omega), octet (by omega)⟩
  split
  · simp only [List.mem_cons, List.not_mem_nil, or_false, not_or]
    exact ⟨octet (by omega), octet (by omega), octet (by omega)⟩
  · simp only [List.mem_cons, List.not_mem_nil, or_false, not_or]
    exact ⟨octet (by omega), octet (by omega), octet (by omega), octet (by omega)⟩

/-- The hyphens of a text are its octets of that kind. -/
theorem count_encode (cs : List Char) : (encode cs).count 45 = cs.count '-' := by
  induction cs with
  | nil => rfl
  | cons c cs ih =>
    rw [encode_cons, List.count_append, ih]
    by_cases hyphen : c = '-'
    · subst hyphen
      rw [List.count_cons_self, Nat.add_comm]
      rfl
    · rw [List.count_eq_zero_of_not_mem (not_mem_encodeChar hyphen),
        List.count_cons_of_ne hyphen, Nat.zero_add]

end Hyphens

end CredentialRotation.Utf8
