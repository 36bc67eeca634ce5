import CredentialRotation.Proofs.Credential.Site

/-!
Bundles that are read while they are still being written. What is left of a block that is cut off is
foreign text, so a tick loads the certificates of the blocks before it. Only where there are none is
the bundle refused.
-/
namespace CredentialRotation

namespace CertificateBlock
variable {part : Octets}

theorem count_hyphen (b : CertificateBlock) : b.text.count '-' = 20 := by
  have body : b.body.count '-' = 0 := List.count_eq_zero.2 b.hyphen_not_mem_body
  rw [text, List.count_append, List.count_append, b.begins.count_hyphen, body,
    b.ends.count_hyphen]
  rfl

theorem exists_text_eq_concat (b : CertificateBlock) : ∃ most, b.text = most ++ ['-'] :=
  ⟨b.begins.text ++ (b.body ++ (b.ends.front ++ b.ends.label ++ b.ends.word ++ "----".toList)), by
    simp [text, Pem.Marker.text]⟩

theorem exists_encode_eq_cons (b : CertificateBlock) :
    ∃ rest, Utf8.encode b.text = 45 :: rest := by
  obtain ⟨rest, starts⟩ := b.text_eq_cons
  exact ⟨Utf8.encode rest, by rw [starts]; rfl⟩

theorem one_lt_length (b : CertificateBlock) : 1 < (Utf8.encode b.text).length := by
  have hyphens := List.count_le_length (a := 45) (l := Utf8.encode b.text)
  rw [Utf8.count_encode, b.count_hyphen] at hyphens
  omega

/-- A block that is cut off lacks its last hyphen at least. -/
theorem count_hyphen_cut (b : CertificateBlock) (inside : part <+: Utf8.encode b.text)
    (unfinished : part ≠ Utf8.encode b.text) : (Utf8.decodeLossy part).count '-' < 20 := by
  obtain ⟨most, ends⟩ := b.exists_text_eq_concat
  have whole := b.count_hyphen
  rw [ends, List.count_append, List.count_singleton_self] at whole
  have hyphen : Utf8.encode b.text = Utf8.encode most ++ [45] := by
    rw [ends, Utf8.encode_append]
    rfl
  rw [hyphen] at inside unfinished
  have shorter : part <+: Utf8.encode most :=
    (List.prefix_concat_iff.1 inside).resolve_left unfinished
  calc (Utf8.decodeLossy part).count '-' ≤ part.count 45 := Utf8.count_decodeLossy_le part
    _ ≤ (Utf8.encode most).count 45 := shorter.sublist.count_le 45
    _ = most.count '-' := Utf8.count_encode most
    _ < 20 := by omega

/-- A block that is cut off is not taken for a block. -/
theorem certificateBodies_cut (b : CertificateBlock) (separator : Separator)
    (inside : part <+: Utf8.encode b.text) (unfinished : part ≠ Utf8.encode b.text) :
    Pem.certificateBodies (Utf8.decodeLossy (separator.octets ++ part)) = [] := by
  rw [Utf8.decodeLossy_append_cut b.text_eq_cons inside]
  exact Pem.certificateBodies_of_count separator.free separator.decodeLossy_ends
    (b.count_hyphen_cut inside unfinished)

end CertificateBlock

namespace Bundle

/-- What was written of some sections. -/
abbrev written (sections : List (Separator × CertificateBlock)) : Octets :=
  sections.flatMap fun s => s.1.octets ++ Utf8.encode s.2.text

/-- A bundle cut off strictly inside one of its blocks. -/
structure Cut (bundle : Bundle) where
  before : List (Separator × CertificateBlock)
  separator : Separator
  block : CertificateBlock
  behind : List (Separator × CertificateBlock)
  sections_eq : bundle.sections = before ++ (separator, block) :: behind
  octets : Octets
  front : octets <+: bundle.octets
  begun : (written before ++ separator.octets).length < octets.length
  unfinished : octets.length <
    (written before ++ separator.octets ++ Utf8.encode block.text).length

namespace Cut
variable {bundle : Bundle}

/-- What was read is all that stands before the block, and a part of the block. -/
theorem exists_part (cut : bundle.Cut) :
    ∃ part, cut.octets = written cut.before ++ (cut.separator.octets ++ part) ∧
      part <+: Utf8.encode cut.block.text ∧ part ≠ Utf8.encode cut.block.text := by
  have whole : bundle.octets = written cut.before ++ cut.separator.octets ++
      (Utf8.encode cut.block.text ++ (written cut.behind ++ bundle.tail)) := by
    simp only [Bundle.octets, cut.sections_eq, written, List.flatMap_append, List.flatMap_cons,
      List.append_assoc]
  have complete : written cut.before ++ cut.separator.octets <+: bundle.octets :=
    ⟨_, whole.symm⟩
  obtain ⟨part, joined⟩ :=
    List.prefix_of_prefix_length_le complete cut.front (Nat.le_of_lt cut.begun)
  have front := cut.front
  have unfinished := cut.unfinished
  have shorter : part.length < (Utf8.encode cut.block.text).length := by
    simp only [← joined, List.length_append] at unfinished
    omega
  rw [← joined, whole, List.prefix_append_right_inj] at front
  refine ⟨part, by rw [← joined, List.append_assoc], ?_, ?_⟩
  · exact List.prefix_of_prefix_length_le front (List.prefix_append _ _) (Nat.le_of_lt shorter)
  · rintro rfl
    exact Nat.lt_irrefl _ shorter

/-- What is found is what stands before the block that is cut off. -/
theorem certificateBodies_octets (cut : bundle.Cut) :
    Pem.certificateBodies (Utf8.decodeLossy cut.octets) = cut.before.map fun s => s.2.body := by
  obtain ⟨part, octets, inside, unfinished⟩ := cut.exists_part
  rw [octets, certificateBodies_sections,
    cut.block.certificateBodies_cut cut.separator inside unfinished, List.append_nil]

theorem decode_outcome (cut : bundle.Cut) :
    (Chain.decode cut.octets).outcome = .ok ⟨cut.before.map fun s => s.2.certificate⟩ := by
  rw [Chain.decode, cut.certificateBodies_octets, decodeBlocks_eq]
  rfl

end Cut
end Bundle

namespace Refresher

/-- A tick that is shown these times and reads these texts runs to its end, and comes to nothing but
the given outcome. -/
def ComesTo (r : Refresher) (key chain : Moment) (keyText chainText : Octets)
    (outcome : Except CredentialFailure Tick) : Prop :=
  let answers : List FileAnswer :=
    [.modified r.watch.files.key (.ok key), .modified r.watch.files.certificates (.ok chain),
      .read r.watch.files.key (.ok keyText), .read r.watch.files.certificates (.ok chainText)]
  (∃ x, (Tick.program r.watch).Yields answers x) ∧
    ∀ x, (Tick.program r.watch).Yields answers x → x.outcome = outcome

variable {r : Refresher} {chain : Moment} {chainText : Octets} {c : Chain}

/-- Behind an open gate, a tick that reads a key that can sign comes to a reload if the chain is not
empty. -/
theorem comesTo_reloaded (k : KeyFile) (gate : r.watch.bothChanged k.modified chain = true)
    (decodes : (Chain.decode chainText).outcome = .ok c) (nonempty : c.certificates ≠ []) :
    r.ComesTo k.modified chain k.data chainText
      (.ok (.reloaded k.modified chain (.ofPair k.key c nonempty))) := by
  refine ⟨⟨_, Tick.yields_load gate k.data chainText⟩, fun x yields => ?_⟩
  have paired := Snapshot.decode_eq_ok_iff.2 ⟨k.key, c, k.decodes, decodes,
    Snapshot.make_eq_ok_iff.2 ⟨k.signs, nonempty, rfl⟩⟩
  rw [Tick.outcome_of_reads yields, paired]
  rfl

/-- Without any certificate it comes to a failure. -/
theorem comesTo_emptyChain (k : KeyFile) (gate : r.watch.bothChanged k.modified chain = true)
    (decodes : (Chain.decode chainText).outcome = .ok ⟨[]⟩) :
    r.ComesTo k.modified chain k.data chainText (.error .emptyChain) := by
  refine ⟨⟨_, Tick.yields_load gate k.data chainText⟩, fun x yields => ?_⟩
  rw [Tick.outcome_of_reads yields, Snapshot.decode_outcome, k.decodes, decodes]
  rfl

end Refresher

namespace Bundle
variable {bundle : Bundle} {r : Refresher} {chain : Moment}

theorem Cut.certificates_ne_nil (cut : bundle.Cut) : bundle.certificates ≠ [] := by
  simp [certificates, cut.sections_eq]

/-- A bundle cut off inside its first block is refused, and nothing is lost: with the whole bundle a
later tick is successful. Cut off inside another block, it is loaded as far as its blocks are
complete, and then its rest does not open the gate without a new key. -/
theorem cut_is_loaded_as_far_as_complete (cut : bundle.Cut) (k : KeyFile)
    (gate : r.watch.bothChanged k.modified chain = true) :
    ∃ outcome, r.ComesTo k.modified chain k.data cut.octets outcome ∧
      (cut.before = [] →
        outcome = .error .emptyChain ∧ r.after outcome.toOption = r ∧
          ∀ (k' : KeyFile) (chain' : Moment), r.watch.bothChanged k'.modified chain' = true →
            ∃ s, r.ComesTo k'.modified chain' k'.data bundle.octets
                (.ok (.reloaded k'.modified chain' s)) ∧
              s.key = k'.key ∧ s.chain.certificates = bundle.certificates) ∧
      (cut.before ≠ [] →
        ∃ s, outcome = .ok (.reloaded k.modified chain s) ∧ s.key = k.key ∧
          s.chain.certificates = cut.before.map (fun s => s.2.certificate) ∧
          ∀ chain', (r.after outcome.toOption).watch.bothChanged k.modified chain' = false) := by
  by_cases first : cut.before = []
  · have decodes := cut.decode_outcome
    rw [first] at decodes
    refine ⟨_, Refresher.comesTo_emptyChain k gate decodes, fun _ => ⟨rfl, rfl, ?_⟩,
      fun other => absurd first other⟩
    intro k' chain' gate'
    exact ⟨_, Refresher.comesTo_reloaded k' gate' bundle.decode_outcome cut.certificates_ne_nil,
      rfl, rfl⟩
  · have nonempty : cut.before.map (fun s => s.2.certificate) ≠ [] := by simpa using first
    refine ⟨_, Refresher.comesTo_reloaded k gate cut.decode_outcome nonempty,
      fun empty => absurd empty first, fun _ => ⟨_, rfl, rfl, rfl, fun chain' => ?_⟩⟩
    exact WatchState.bothChanged_eq_false_iff.2 (.inl rfl)

/-- Some blocks, and the first hyphen of one that is not complete. -/
def Cut.start (before : List CertificateBlock) (block : CertificateBlock) :
    (lines (before ++ [block])).Cut where
  before := before.map fun b => (.lineFeed, b)
  separator := .lineFeed
  block := block
  behind := []
  sections_eq := by simp [lines]
  octets := written (before.map fun b => (.lineFeed, b)) ++ Separator.lineFeed.octets ++ [45]
  front := by
    obtain ⟨rest, octets⟩ := block.exists_encode_eq_cons
    refine ⟨rest, ?_⟩
    simp [Bundle.octets, lines, Separator.lineFeed, octets]
  begun := by
    simp only [List.length_append, List.length_singleton]
    exact Nat.lt_succ_self _
  unfinished := by
    simp only [List.length_append, List.length_singleton]
    exact Nat.add_lt_add_left block.one_lt_length _

/-- A first tick finds one hyphen in place of a certificate, and a second one the certificate. -/
theorem cut_is_loaded_as_far_as_complete_hyphen :
    let r : Refresher := ⟨.fresh pemFiles, .empty⟩
    let k := KeyFile.neighbours ⟨0, 0⟩
    r.watch.bothChanged k.modified ⟨0, 0⟩ = true ∧
      r.ComesTo k.modified ⟨0, 0⟩ k.data (Cut.start [] (CertificateBlock.least false)).octets
        (.error .emptyChain) ∧
      ∃ s, r.ComesTo k.modified ⟨1, 0⟩ k.data (lines [CertificateBlock.least false]).octets
          (.ok (.reloaded k.modified ⟨1, 0⟩ s)) ∧
        s.key = k.key ∧ s.chain.certificates = [Certificate.least 1] := by
  intro r k
  have gate : r.watch.bothChanged k.modified ⟨0, 0⟩ = true := rfl
  obtain ⟨outcome, comes, first, -⟩ :=
    cut_is_loaded_as_far_as_complete (Cut.start [] (CertificateBlock.least false)) k gate
  obtain ⟨rfl, -, later⟩ := first rfl
  exact ⟨gate, comes, later k ⟨1, 0⟩ rfl⟩

/-- Not every bundle that is cut off inside a block is refused. -/
theorem cut_may_be_loaded :
    ¬ ∀ (r : Refresher) (bundle : Bundle) (cut : bundle.Cut) (k : KeyFile) (chain : Moment)
        (outcome : Except CredentialFailure Tick), r.watch.bothChanged k.modified chain = true →
      r.ComesTo k.modified chain k.data cut.octets outcome → r.after outcome.toOption = r := by
  intro refused
  let r : Refresher := ⟨.fresh pemFiles, .empty⟩
  let k := KeyFile.neighbours ⟨0, 0⟩
  have gate : r.watch.bothChanged k.modified ⟨0, 0⟩ = true := rfl
  let cut := Cut.start [CertificateBlock.least false] (CertificateBlock.least true)
  have comes := Refresher.comesTo_reloaded k gate cut.decode_outcome (List.cons_ne_nil _ _)
  have same := congrArg (fun r : Refresher => r.store.snapshot?)
    (refused r _ cut k ⟨0, 0⟩ _ gate comes)
  cases same

end Bundle

end CredentialRotation
