import CredentialRotation.Proofs.Text.Spacing
import CredentialRotation.Proofs.Text.Utf8
import CredentialRotation.Text.Base64
import CredentialRotation.Text.Blank

/-!
Base64 is read back to what was written, and nothing else is read. Every symbol stands for the six
bits it was chosen for, and only the last quad holds pads.
-/
namespace CredentialRotation.Base64

theorem symbolValue?_symbol {v : Nat} (h : v < 64) : symbolValue? (symbol v) = some v := by
  decide +revert

theorem symbol_ne_pad {v : Nat} (h : v < 64) : symbol v ≠ pad := by
  decide +revert

theorem value_symbol {v : Nat} (h : v < 64) (offset : Nat) :
    value (symbol v) offset = .ok v := by
  rw [value, symbolValue?_symbol h]

theorem encode_length_mod (bs : Octets) : (encode bs).length % 4 = 0 := by
  fun_induction encode bs with
  | case1 => simp
  | case2 a => simp
  | case3 a b => simp
  | case4 a b c rest ih =>
    simp only [List.length_cons]
    omega

theorem encode_eq_nil_iff {bs : Octets} : encode bs = [] ↔ bs = [] := by
  fun_cases encode bs <;> simp

private theorem lastSymbols_symbol {v : Nat} (h : v < 64) (start i : Nat)
    (seen : List (UInt8 × Nat)) (rest : Octets) :
    lastSymbols start i seen (symbol v :: rest) =
      lastSymbols start (i + 1) (seen ++ [(symbol v, v)]) rest := by
  rw [lastSymbols, if_neg (symbol_ne_pad h), value_symbol h]
  rfl

private theorem lastQuad_one (start : Nat) (a : UInt8) :
    lastQuad start [symbol (a.toNat / 4), symbol (a.toNat % 4 * 16), pad, pad] = .ok [a] := by
  have ha := a.toNat_lt
  have symbols :
      lastSymbols start 0 [] [symbol (a.toNat / 4), symbol (a.toNat % 4 * 16), pad, pad] =
        .ok ([(symbol (a.toNat / 4), a.toNat / 4),
          (symbol (a.toNat % 4 * 16), a.toNat % 4 * 16)], 2) := by
    rw [lastSymbols_symbol (by omega), lastSymbols_symbol (by omega)]
    rfl
  have unused : a.toNat % 4 * 16 % 16 = 0 := by omega
  have octet : a.toNat / 4 * 4 + a.toNat % 4 * 16 / 16 = a.toNat := by omega
  rw [lastQuad, symbols]
  change (if _ then _ else _) = _
  rw [if_pos unused, octet, UInt8.ofNat_toNat]
  rfl

private theorem lastQuad_two (start : Nat) (a b : UInt8) :
    lastQuad start [symbol (a.toNat / 4), symbol (a.toNat % 4 * 16 + b.toNat / 16),
      symbol (b.toNat % 16 * 4), pad] = .ok [a, b] := by
  have ha := a.toNat_lt
  have hb := b.toNat_lt
  have symbols : lastSymbols start 0 [] [symbol (a.toNat / 4),
      symbol (a.toNat % 4 * 16 + b.toNat / 16), symbol (b.toNat % 16 * 4), pad] =
      .ok ([(symbol (a.toNat / 4), a.toNat / 4),
        (symbol (a.toNat % 4 * 16 + b.toNat / 16), a.toNat % 4 * 16 + b.toNat / 16),
        (symbol (b.toNat % 16 * 4), b.toNat % 16 * 4)], 1) := by
    rw [lastSymbols_symbol (by omega), lastSymbols_symbol (by omega), lastSymbols_symbol (by omega)]
    rfl
  have unused : b.toNat % 16 * 4 % 4 = 0 := by omega
  have first : a.toNat / 4 * 4 + (a.toNat % 4 * 16 + b.toNat / 16) / 16 = a.toNat := by omega
  have second : (a.toNat % 4 * 16 + b.toNat / 16) % 16 * 16 + b.toNat % 16 * 4 / 4 = b.toNat := by
    omega
  rw [lastQuad, symbols]
  change (if _ then _ else _) = _
  rw [if_pos unused, first, second, UInt8.ofNat_toNat, UInt8.ofNat_toNat]
  rfl

/-- The octets of four values of six bits. -/
private theorem joined (a b c : UInt8) :
    UInt8.ofNat (a.toNat / 4 * 4 + (a.toNat % 4 * 16 + b.toNat / 16) / 16) = a ∧
    UInt8.ofNat ((a.toNat % 4 * 16 + b.toNat / 16) % 16 * 16 +
      (b.toNat % 16 * 4 + c.toNat / 64) / 4) = b ∧
    UInt8.ofNat ((b.toNat % 16 * 4 + c.toNat / 64) % 4 * 64 + c.toNat % 64) = c := by
  have ha := a.toNat_lt
  have hb := b.toNat_lt
  have hc := c.toNat_lt
  refine ⟨?_, ?_, ?_⟩
  · rw [show a.toNat / 4 * 4 + (a.toNat % 4 * 16 + b.toNat / 16) / 16 = a.toNat by omega,
      UInt8.ofNat_toNat]
  · rw [show (a.toNat % 4 * 16 + b.toNat / 16) % 16 * 16 +
      (b.toNat % 16 * 4 + c.toNat / 64) / 4 = b.toNat by omega, UInt8.ofNat_toNat]
  · rw [show (b.toNat % 16 * 4 + c.toNat / 64) % 4 * 64 + c.toNat % 64 = c.toNat by omega,
      UInt8.ofNat_toNat]

private theorem quads_three (start : Nat) (a b c : UInt8) (rest more : Octets)
    (hrest : rest = [] → more = []) (hmore : rest ≠ [] → quads (start + 4) rest = .ok more) :
    quads start (symbol (a.toNat / 4) :: symbol (a.toNat % 4 * 16 + b.toNat / 16) ::
      symbol (b.toNat % 16 * 4 + c.toNat / 64) :: symbol (c.toNat % 64) :: rest) =
      .ok (a :: b :: c :: more) := by
  have ha := a.toNat_lt
  have hb := b.toNat_lt
  have hc := c.toNat_lt
  obtain ⟨first, second, third⟩ := joined a b c
  cases rest with
  | nil =>
    rw [hrest rfl]
    have symbols : lastSymbols start 0 [] [symbol (a.toNat / 4),
        symbol (a.toNat % 4 * 16 + b.toNat / 16), symbol (b.toNat % 16 * 4 + c.toNat / 64),
        symbol (c.toNat % 64)] =
        .ok ([(symbol (a.toNat / 4), a.toNat / 4),
          (symbol (a.toNat % 4 * 16 + b.toNat / 16), a.toNat % 4 * 16 + b.toNat / 16),
          (symbol (b.toNat % 16 * 4 + c.toNat / 64), b.toNat % 16 * 4 + c.toNat / 64),
          (symbol (c.toNat % 64), c.toNat % 64)], 0) := by
      rw [lastSymbols_symbol (by omega), lastSymbols_symbol (by omega),
        lastSymbols_symbol (by omega), lastSymbols_symbol (by omega)]
      rfl
    change lastQuad start _ = _
    rw [lastQuad, symbols]
    change Except.ok [_, _, _] = _
    rw [first, second, third]
  | cons d rest =>
    rw [quads, value_symbol (by omega), value_symbol (by omega), value_symbol (by omega),
      value_symbol (by omega), hmore (List.cons_ne_nil d rest)]
    change Except.ok (_ :: _ :: _ :: more) = _
    rw [first, second, third]

private theorem quads_encode (start : Nat) (bs : Octets) : quads start (encode bs) = .ok bs := by
  fun_induction encode bs generalizing start with
  | case1 => rfl
  | case2 a => exact lastQuad_one start a
  | case3 a b => exact lastQuad_two start a b
  | case4 a b c rest ih =>
    exact quads_three start a b c (encode rest) rest encode_eq_nil_iff.1 fun _ => ih (start + 4)

private theorem strayLast?_encode (bs : Octets) : strayLast? (encode bs) = none := by
  have whole := encode_length_mod bs
  unfold strayLast?
  split
  · rw [if_neg (by omega)]
  · rfl

/-- What is written are symbols and pads. -/
theorem mem_encode {b : UInt8} {bs : Octets} (h : b ∈ encode bs) :
    b = pad ∨ ∃ v < 64, b = symbol v := by
  fun_induction encode bs with
  | case1 => simp at h
  | case2 a =>
    have ha := a.toNat_lt
    simp only [List.mem_cons, List.not_mem_nil, or_false] at h
    rcases h with rfl | rfl | rfl | rfl
    · exact .inr ⟨_, by omega, rfl⟩
    · exact .inr ⟨_, by omega, rfl⟩
    · exact .inl rfl
    · exact .inl rfl
  | case3 a b' =>
    have ha := a.toNat_lt
    have hb := b'.toNat_lt
    simp only [List.mem_cons, List.not_mem_nil, or_false] at h
    rcases h with rfl | rfl | rfl | rfl
    · exact .inr ⟨_, by omega, rfl⟩
    · exact .inr ⟨_, by omega, rfl⟩
    · exact .inr ⟨_, by omega, rfl⟩
    · exact .inl rfl
  | case4 a b' c rest ih =>
    have ha := a.toNat_lt
    have hb := b'.toNat_lt
    have hc := c.toNat_lt
    simp only [List.mem_cons] at h
    rcases h with rfl | rfl | rfl | rfl | h
    · exact .inr ⟨_, by omega, rfl⟩
    · exact .inr ⟨_, by omega, rfl⟩
    · exact .inr ⟨_, by omega, rfl⟩
    · exact .inr ⟨_, by omega, rfl⟩
    · exact ih h

private theorem symbol_bounds {v : Nat} (h : v < 64) :
    43 ≤ (symbol v).toNat ∧ (symbol v).toNat < 128 ∧ (symbol v).toNat ≠ 45 := by
  decide +revert

/-- All that is written is ASCII behind the space, and no hyphen is among it. -/
theorem encode_bounds {b : UInt8} {bs : Octets} (h : b ∈ encode bs) :
    43 ≤ b.toNat ∧ b.toNat < 128 ∧ b.toNat ≠ 45 := by
  rcases mem_encode h with rfl | ⟨v, hv, rfl⟩
  · decide
  · exact symbol_bounds hv

/-- What was written is read back. -/
theorem decode_encode (bs : Octets) : decode (encode bs) = .ok bs := by
  rw [decode, strayLast?_encode]
  exact quads_encode 0 bs

private theorem exists_of_bind {α β : Type} {x : Except Fault α} {f : α → Except Fault β} {b : β}
    (h : x >>= f = .ok b) : ∃ a, x = .ok a ∧ f a = .ok b := by
  cases x with
  | error fault => cases h
  | ok a => exact ⟨a, rfl, h⟩

/-- Each symbol has the value that it was chosen for. -/
theorem symbol_of_symbolValue? {b : UInt8} {v : Nat} (h : symbolValue? b = some v) :
    v < 64 ∧ symbol v = b := by
  have all : ∀ n < 256, ∀ v ∈ symbolValue? (UInt8.ofNat n), v < 64 ∧ symbol v = UInt8.ofNat n := by
    decide +kernel
  have one := all b.toNat b.toNat_lt v
  rw [UInt8.ofNat_toNat] at one
  exact one h

theorem symbol_of_value {b : UInt8} {offset v : Nat} (h : value b offset = .ok v) :
    v < 64 ∧ b = symbol v := by
  unfold value at h
  split at h
  · rename_i found
    obtain rfl := Except.ok.inj h
    obtain ⟨small, same⟩ := symbol_of_symbolValue? found
    exact ⟨small, same.symm⟩
  · cases h

/-- The last quad holds symbols with their values, and then nothing but pads. -/
private theorem lastSymbols_eq_ok {start i pads : Nat} {seen symbols : List (UInt8 × Nat)}
    {quad : Octets} (h : lastSymbols start i seen quad = .ok (symbols, pads)) :
    ∃ vs : List Nat, (∀ v ∈ vs, v < 64) ∧ symbols = seen ++ vs.map (fun v => (symbol v, v)) ∧
      quad = vs.map symbol ++ List.replicate pads pad := by
  induction quad generalizing i seen with
  | nil =>
    obtain ⟨rfl, rfl⟩ := Prod.mk.inj (Except.ok.inj h)
    exact ⟨[], nofun, (List.append_nil _).symm, rfl⟩
  | cons b rest ih =>
    rw [lastSymbols] at h
    split at h
    · rename_i here
      split at h
      · cases h
      split at h
      · rename_i all
        obtain ⟨rfl, rfl⟩ := Prod.mk.inj (Except.ok.inj h)
        refine ⟨[], nofun, (List.append_nil _).symm, ?_⟩
        have others : rest = List.replicate rest.length pad :=
          List.eq_replicate_of_mem fun c mem => by simpa using List.all_eq_true.1 all c mem
        rw [here, List.map_nil, List.nil_append, List.replicate_succ, ← others]
      · cases h
    · cases read : value b (start + i) with
      | error fault =>
        rw [read] at h
        cases h
      | ok v =>
        rw [read] at h
        obtain ⟨vs, small, rfl, rfl⟩ := ih h
        obtain ⟨hv, rfl⟩ := symbol_of_value read
        exact ⟨v :: vs, List.forall_mem_cons.2 ⟨hv, small⟩, by rw [List.append_assoc]; rfl, rfl⟩

private theorem toNat_octet {n : Nat} (h : n < 256) : (UInt8.ofNat n).toNat = n := by
  rw [UInt8.toNat_ofNat']
  exact Nat.mod_eq_of_lt h

/-- The octets of four values of six bits are written with these values. -/
private theorem encode_octets {a b c d : Nat} (ha : a < 64) (hb : b < 64) (hc : c < 64)
    (hd : d < 64) (more : Octets) :
    encode (UInt8.ofNat (a * 4 + b / 16) :: UInt8.ofNat (b % 16 * 16 + c / 4) ::
      UInt8.ofNat (c % 4 * 64 + d) :: more) =
      symbol a :: symbol b :: symbol c :: symbol d :: encode more := by
  have first : (a * 4 + b / 16) / 4 = a := by omega
  have second : (a * 4 + b / 16) % 4 * 16 + (b % 16 * 16 + c / 4) / 16 = b := by omega
  have third : (b % 16 * 16 + c / 4) % 16 * 4 + (c % 4 * 64 + d) / 64 = c := by omega
  have fourth : (c % 4 * 64 + d) % 64 = d := by omega
  rw [encode, toNat_octet (by omega), toNat_octet (by omega), toNat_octet (by omega), first, second,
    third, fourth]

/-- What the symbols of the last quad stand for is written with them and as many pads as are
missing: the bits that are left over are zero. -/
private theorem encode_lastQuad {start : Nat} {quad bs : Octets}
    (h : lastQuad start quad = .ok bs) :
    encode bs = quad := by
  unfold lastQuad at h
  cases parts : lastSymbols start 0 [] quad with
  | error fault =>
    rw [parts] at h
    cases h
  | ok parted =>
    obtain ⟨symbols, pads⟩ := parted
    rw [parts] at h
    obtain ⟨vs, small, rfl, rfl⟩ := lastSymbols_eq_ok parts
    change (if _ then _ else _) = _ at h
    split at h
    · cases h
    change (if _ then _ else _) = _ at h
    split at h
    · cases h
    rename_i whole
    have four : vs.length + pads = 4 := by simpa using whole
    match vs, h with
    | [a, b], h =>
      obtain rfl : pads = 2 := Nat.add_left_cancel (n := 2) four
      have ha := small a (by simp)
      have hb := small b (by simp)
      change (if _ then _ else _) = _ at h
      split at h
      · obtain rfl := Except.ok.inj h
        have first : (a * 4 + b / 16) / 4 = a := by omega
        have second : (a * 4 + b / 16) % 4 * 16 = b := by omega
        rw [encode, toNat_octet (by omega), first, second]
        rfl
      · cases h
    | [a, b, c], h =>
      obtain rfl : pads = 1 := Nat.add_left_cancel (n := 3) four
      have ha := small a (by simp)
      have hb := small b (by simp)
      have hc := small c (by simp)
      change (if _ then _ else _) = _ at h
      split at h
      · obtain rfl := Except.ok.inj h
        have first : (a * 4 + b / 16) / 4 = a := by omega
        have second : (a * 4 + b / 16) % 4 * 16 + (b % 16 * 16 + c / 4) / 16 = b := by omega
        have third : (b % 16 * 16 + c / 4) % 16 * 4 = c := by omega
        rw [encode, toNat_octet (by omega), toNat_octet (by omega), first, second, third]
        rfl
      · cases h
    | [a, b, c, d], h =>
      obtain rfl : pads = 0 := Nat.add_left_cancel (n := 4) four
      obtain rfl := Except.ok.inj h
      exact encode_octets (small a (by simp)) (small b (by simp)) (small c (by simp))
        (small d (by simp)) []
    | [], h => cases h
    | [_], h => cases h
    | _ :: _ :: _ :: _ :: _ :: _, h => cases h

private theorem encode_quads {start : Nat} {bs written : Octets}
    (h : quads start written = .ok bs) :
    encode bs = written := by
  fun_induction quads start written generalizing bs with
  | case1 =>
    obtain rfl := Except.ok.inj h
    rfl
  | case2 start a b c d e rest ih =>
    obtain ⟨va, ra, h⟩ := exists_of_bind h
    obtain ⟨vb, rb, h⟩ := exists_of_bind h
    obtain ⟨vc, rc, h⟩ := exists_of_bind h
    obtain ⟨vd, rd, h⟩ := exists_of_bind h
    obtain ⟨more, rmore, h⟩ := exists_of_bind h
    obtain rfl := Except.ok.inj h
    obtain ⟨ha, rfl⟩ := symbol_of_value ra
    obtain ⟨hb, rfl⟩ := symbol_of_value rb
    obtain ⟨hc, rfl⟩ := symbol_of_value rc
    obtain ⟨hd, rfl⟩ := symbol_of_value rd
    rw [encode_octets ha hb hc hd, ih rmore]
  | case3 start quad _ _ => exact encode_lastQuad h

/-- Only what was written is read, so no octet string has a second written form. -/
theorem decode_eq_ok_iff {bs written : Octets} : decode written = .ok bs ↔ written = encode bs := by
  constructor
  · intro h
    unfold decode at h
    split at h
    · cases h
    · exact (encode_quads h).symm
  · rintro rfl
    exact decode_encode bs

/-- The written form, as text. -/
def text (bs : Octets) : List Char :=
  (encode bs).map fun b => Char.ofNat b.toNat

private theorem toNat_of_ascii {n : Nat} (h : n < 128) : (Char.ofNat n).toNat = n := by
  decide +revert

private theorem encodeChar_of_ascii {n : Nat} (h : n < 128) :
    Utf8.encodeChar (Char.ofNat n) = [UInt8.ofNat n] := by
  rw [Utf8.encodeChar, toNat_of_ascii h]
  exact if_pos h

/-- The octets of the written form as text are the written form. -/
theorem encode_text (bs : Octets) : Utf8.encode (text bs) = encode bs := by
  have ascii : ∀ b ∈ encode bs, b.toNat < 128 := fun b h => (encode_bounds h).2.1
  unfold text
  generalize encode bs = written at ascii ⊢
  induction written with
  | nil => rfl
  | cons b written ih =>
    obtain ⟨first, rest⟩ := List.forall_mem_cons.1 ascii
    rw [List.map_cons, Utf8.encode_cons, encodeChar_of_ascii first, UInt8.ofNat_toNat, ih rest,
      List.singleton_append]

private theorem of_ascii_plain {n : Nat} (h : n < 128) (lo : 43 ≤ n) (hyphen : n ≠ 45) :
    Char.ofNat n ≠ '-' ∧ isAsciiBlank (Char.ofNat n) = false := by
  decide +revert

/-- Neither a hyphen nor white space is written. -/
theorem text_plain {c : Char} {bs : Octets} (h : c ∈ text bs) :
    c ≠ '-' ∧ isAsciiBlank c = false := by
  obtain ⟨b, mem, rfl⟩ := List.mem_map.1 h
  obtain ⟨lo, hi, hyphen⟩ := encode_bounds mem
  exact of_ascii_plain hi lo hyphen

/-- As text, too, only what was written is read. -/
theorem decode_encode_eq_ok_iff {bs : Octets} {cs : List Char} :
    decode (Utf8.encode cs) = .ok bs ↔ cs = text bs := by
  rw [decode_eq_ok_iff, ← encode_text, Utf8.encode_inj]

theorem text_inj {bs bs' : Octets} : text bs = text bs' ↔ bs = bs' := by
  constructor
  · intro h
    exact Except.ok.inj ((decode_encode_eq_ok_iff.2 rfl).symm.trans (decode_encode_eq_ok_iff.2 h))
  · exact congrArg text

/-- Nothing need be put in. -/
theorem spaced_text (bs : Octets) : Spaced (text bs) (text bs) :=
  .refl (text bs)

end CredentialRotation.Base64
