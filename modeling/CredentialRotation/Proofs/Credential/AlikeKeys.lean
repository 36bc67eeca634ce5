import CredentialRotation.Proofs.Credential.SharedStore
import CredentialRotation.Proofs.Files.SideBySide

/-!
Keys of one size, side by side. Keys are alike if a signer takes both or neither, and they and their
documents have the same sizes; whatever is made of alike keys and the same chain is alike in turn.
All that a loading, a tick or an update reports is the same for one and for the other.
-/
namespace CredentialRotation

theorem map_eq_of_rel {α β : Type} {R : α → α → Prop} {f : α → β} {x y : Option α}
    (related : Option.Rel R x y) (same : ∀ a b, R a b → f a = f b) : x.map f = y.map f := by
  cases related with
  | some related => exact congrArg some (same _ _ related)
  | none => rfl

/-- Both succeed, with results that `R` relates, or both fail in the same way. -/
inductive SameCourse {ε α : Type} (R : α → α → Prop) : Except ε α → Except ε α → Prop
  | ok {a b : α} (related : R a b) : SameCourse R (.ok a) (.ok b)
  | error (failure : ε) : SameCourse R (.error failure) (.error failure)

namespace SameCourse
variable {ε α β : Type} {R : α → α → Prop} {x y : Except ε α}

theorem toOption (course : SameCourse R x y) : Option.Rel R x.toOption y.toOption := by
  cases course with
  | ok related => exact .some related
  | error failure => exact .none

/-- Where the relation does not matter any more, both are the same. -/
theorem map_eq {f : α → β} (course : SameCourse R x y) (same : ∀ a b, R a b → f a = f b) :
    x.map f = y.map f := by
  cases course with
  | ok related => exact congrArg Except.ok (same _ _ related)
  | error failure => rfl

end SameCourse

namespace Attempt
variable {α β : Type} {R : α → α → Prop} {S : β → β → Prop}

/-- Two attempts that report the same and take the same course. -/
structure Alike (R : α → α → Prop) (x y : Attempt α) : Prop where
  events : x.events = y.events
  outcome : SameCourse R x.outcome y.outcome

theorem alike_pure {a b : α} (related : R a b) :
    Alike R (pure a : Attempt α) (pure b : Attempt α) :=
  ⟨rfl, .ok related⟩

theorem alike_throw (failure : CredentialFailure) :
    Alike R (throw failure : Attempt α) (throw failure : Attempt α) :=
  ⟨rfl, .error failure⟩

theorem alike_report (e : Event) : Alike Eq (Attempt.report e) (Attempt.report e) :=
  ⟨rfl, .ok rfl⟩

theorem alike_lift {x y : Logged α} (events : x.events = y.events) (value : R x.value y.value) :
    Alike R (ExceptT.lift x : Attempt α) (ExceptT.lift y : Attempt α) :=
  ⟨by rw [events_lift, events_lift, events], .ok value⟩

/-- An attempt is like itself. -/
theorem Alike.refl (same : ∀ a, R a a) (x : Attempt α) : Alike R x x := by
  refine ⟨rfl, ?_⟩
  cases x.outcome with
  | ok a => exact .ok (same a)
  | error failure => exact .error failure

theorem Alike.bind {x y : Attempt α} {f g : α → Attempt β} (first : Alike R x y)
    (rest : ∀ a b, R a b → Alike S (f a) (g b)) : Alike S (x >>= f) (y >>= g) := by
  obtain ⟨outcome, events⟩ := x
  obtain ⟨outcome', events'⟩ := y
  obtain ⟨rfl, course⟩ := first
  change SameCourse R outcome outcome' at course
  cases course with
  | ok related =>
    obtain ⟨same, goesOn⟩ := rest _ _ related
    exact ⟨congrArg (events ++ ·) same, goesOn⟩
  | error failure => exact ⟨rfl, .error failure⟩

end Attempt

namespace PrivateKey
variable {k l : PrivateKey} {text text' : Octets}

/-- All that the two keys are compared by; their numbers may be any. -/
structure Alike (k l : PrivateKey) : Prop where
  bits : k.modulusBits = l.modulusBits
  length : k.der.length = l.der.length
  signs : k.canSign = l.canSign

theorem Alike.refl (k : PrivateKey) : k.Alike k :=
  ⟨rfl, rfl, rfl⟩

theorem Alike.shown (alike : k.Alike l) : k.shown = l.shown := by
  rw [PrivateKey.shown, PrivateKey.shown, alike.bits, alike.length]

theorem events_of_decode (holds : (decode text).outcome = .ok k) : (decode text).events = [] := by
  unfold decode at holds ⊢
  split
  next => rfl
  next body _ => cases decodeBody body <;> rfl
  next bodies =>
    rw [bodies] at holds
    cases holds

/-- One and the same text, or two texts with one key each, and the keys are alike. -/
def TextsAlike (text text' : Octets) : Prop :=
  text = text' ∨ ∃ k l, (decode text).outcome = .ok k ∧ (decode text').outcome = .ok l ∧ k.Alike l

theorem TextsAlike.decode (texts : TextsAlike text text') :
    Attempt.Alike Alike (decode text) (decode text') := by
  rcases texts with rfl | ⟨k, l, holds, holds', alike⟩
  · exact .refl Alike.refl _
  · refine ⟨(events_of_decode holds).trans (events_of_decode holds').symm, ?_⟩
    rw [holds, holds']
    exact .ok alike

end PrivateKey

/-- What is reported of a chain follows from the chain. -/
theorem Chain.decode_eq_of_outcome {text text' : Octets}
    (same : (decode text).outcome = (decode text').outcome) : decode text = decode text' := by
  unfold decode at same ⊢
  generalize decodeBlocks 0 (Pem.certificateBodies (Utf8.decodeLossy text)) = blocks at same ⊢
  generalize decodeBlocks 0 (Pem.certificateBodies (Utf8.decodeLossy text')) = blocks' at same ⊢
  cases blocks <;> cases blocks' <;> cases same <;> rfl

namespace Snapshot
variable {s t : Snapshot} {key key' : PrivateKey} {keyText keyText' chainText chainText' : Octets}

/-- One chain, with keys that are alike. -/
structure Alike (s t : Snapshot) : Prop where
  key : s.key.Alike t.key
  chain : s.chain = t.chain

theorem Alike.refl (s : Snapshot) : s.Alike s :=
  ⟨.refl _, rfl⟩

theorem Alike.leaf (alike : s.Alike t) : s.leaf = t.leaf := by
  simp only [Snapshot.leaf, alike.chain]

theorem Alike.shown (alike : s.Alike t) (loadedAt : String) :
    s.shown loadedAt = t.shown loadedAt := by
  rw [Snapshot.shown, Snapshot.shown, alike.key.shown, alike.chain]

theorem make_alike (alike : key.Alike key') (chain : Chain) :
    SameCourse Alike (make key chain) (make key' chain) := by
  unfold make PrivateKey.signer
  by_cases nonempty : chain.certificates ≠ []
  · rw [dif_pos nonempty, dif_pos nonempty, ← alike.signs, ← alike.bits]
    cases key.canSign with
    | true => exact .ok ⟨alike, rfl⟩
    | false => exact .error _
  · rw [dif_neg nonempty, dif_neg nonempty]
    exact .error _

theorem decode_alike
    (keys : PrivateKey.TextsAlike keyText keyText')
    (chains : (Chain.decode chainText).outcome = (Chain.decode chainText').outcome) :
    Attempt.Alike Alike (decode keyText chainText) (decode keyText' chainText') := by
  unfold decode
  rw [← Chain.decode_eq_of_outcome chains]
  refine keys.decode.bind fun key key' alike => ?_
  refine (Attempt.Alike.refl (R := Eq) (fun _ => rfl) (Chain.decode chainText)).bind ?_
  rintro chain _ rfl
  have course := make_alike alike chain
  generalize make key chain = made at course ⊢
  generalize make key' chain = made' at course ⊢
  cases course with
  | ok related => exact Attempt.alike_pure related
  | error failure => exact Attempt.alike_throw failure

end Snapshot

/-- Whoever looks for a key in what was read finds keys that are alike. -/
def KeysAlike (x y : Except FileFailure Octets) : Prop :=
  SameCourse PrivateKey.TextsAlike x y

/-- Whoever looks for a chain in what was read finds the same. -/
def ChainsEqual (x y : Except FileFailure Octets) : Prop :=
  SameCourse (fun text text' => (Chain.decode text).outcome = (Chain.decode text').outcome) x y

/-- Two answers that differ in nothing but the keys, as far as an identity is loaded from them. -/
inductive FileAnswer.Alike (files : IdentityFiles) : FileAnswer → FileAnswer → Prop
  | modified (path : String) (answer : Except FileFailure Moment) :
    Alike files (.modified path answer) (.modified path answer)
  | read (path : String) {x y : Except FileFailure Octets} (key : path = files.key → KeysAlike x y)
      (chain : path = files.certificates → ChainsEqual x y) :
    Alike files (.read path x) (.read path y)

section Reads
variable {α : Type} {files : IdentityFiles} {R : α → α → Prop}
  {next next' : Except FileFailure Octets → FileProgram α}

theorem FileAnswer.related_readKey
    (unread : ∀ cause, (next (.error cause)).Related (Alike files) R (next' (.error cause)))
    (texts : ∀ text text', PrivateKey.TextsAlike text text' →
      (next (.ok text)).Related (Alike files) R (next' (.ok text'))) :
    (FileProgram.read files.key next).Related (Alike files) R (.read files.key next') := by
  refine .read fun x y answers => ?_
  cases answers with
  | read _ key _ =>
    cases key rfl with
    | ok keys => exact texts _ _ keys
    | error cause => exact unread cause

theorem FileAnswer.related_readChain
    (unread : ∀ cause, (next (.error cause)).Related (Alike files) R (next' (.error cause)))
    (texts : ∀ text text', (Chain.decode text).outcome = (Chain.decode text').outcome →
      (next (.ok text)).Related (Alike files) R (next' (.ok text'))) :
    (FileProgram.read files.certificates next).Related (Alike files) R
      (.read files.certificates next') := by
  refine .read fun x y answers => ?_
  cases answers with
  | read _ _ chain =>
    cases chain rfl with
    | ok chains => exact texts _ _ chains
    | error cause => exact unread cause

end Reads

theorem Snapshot.loadProgram_alike (files : IdentityFiles) :
    (loadProgram files).Related (FileAnswer.Alike files) (Attempt.Alike Alike)
      (loadProgram files) := by
  refine FileAnswer.related_readKey (fun cause => .done (Attempt.alike_throw _)) ?_
  intro keyText keyText' keys
  refine FileAnswer.related_readChain (fun cause => .done (Attempt.alike_throw _)) ?_
  intro chainText chainText' chains
  exact .done (decode_alike keys chains)

/-- Over files that stand still the times do not matter to a loading, so they need not be the same;
therefore this is not a case of the lemma before. -/
theorem Snapshot.load_alike (files : IdentityFiles) {fs fs' : FileSystem}
    (keys : KeysAlike (fs.read files.key) (fs'.read files.key))
    (chains : ChainsEqual (fs.read files.certificates) (fs'.read files.certificates)) :
    Attempt.Alike Alike (load fs files) (load fs' files) := by
  rw [load, load, loadProgram, FileProgram.run, FileProgram.run]
  generalize fs.read files.key = x at keys ⊢
  generalize fs'.read files.key = y at keys ⊢
  cases keys with
  | error cause => exact Attempt.alike_throw _
  | ok keys =>
    dsimp only
    rw [FileProgram.run, FileProgram.run]
    generalize fs.read files.certificates = x at chains ⊢
    generalize fs'.read files.certificates = y at chains ⊢
    cases chains with
    | error cause => exact Attempt.alike_throw _
    | ok chains => exact decode_alike keys chains

namespace Tick

/-- Both came to nothing new, or to snapshots that are alike. -/
inductive Alike : Tick → Tick → Prop
  | unchanged : Alike .unchanged .unchanged
  | reloaded (key chain : Moment) {s t : Snapshot} (alike : s.Alike t) :
    Alike (.reloaded key chain s) (.reloaded key chain t)

theorem Alike.kind {x y : Tick} (alike : x.Alike y) : x.kind = y.kind := by
  cases alike <;> rfl

theorem load_alike (files : IdentityFiles) (key chain : Moment)
    {keyText keyText' chainText chainText' : Octets}
    (keys : PrivateKey.TextsAlike keyText keyText')
    (chains : (Chain.decode chainText).outcome = (Chain.decode chainText').outcome) :
    Attempt.Alike Alike (load files key chain keyText chainText)
      (load files key chain keyText' chainText') := by
  refine (Snapshot.decode_alike keys chains).bind fun s t alike => ?_
  rw [alike.leaf, alike.chain]
  refine (Attempt.alike_report _).bind fun _ _ _ => ?_
  exact Attempt.alike_pure (.reloaded key chain alike)

theorem program_alike (w : WatchState) :
    (program w).Related (FileAnswer.Alike w.files) (Attempt.Alike Alike) (program w) := by
  refine .modified fun seenKey _ answers => ?_
  cases answers
  cases seenKey with
  | error cause => exact .done (Attempt.alike_throw _)
  | ok key =>
    refine .modified fun seenChain _ answers => ?_
    cases answers
    cases seenChain with
    | error cause => exact .done (Attempt.alike_throw _)
    | ok chain =>
      -- Both were shown the same times, so the gate is open to both or to neither.
      cases gate : w.bothChanged key chain with
      | false =>
        simp only [gate, Bool.not_false, if_true]
        exact .done ⟨rfl, .ok .unchanged⟩
      | true =>
        simp only [gate, Bool.not_true, Bool.false_eq_true, if_false]
        refine FileAnswer.related_readKey (fun cause => .done (Attempt.alike_throw _)) ?_
        intro keyText keyText' keys
        refine FileAnswer.related_readChain (fun cause => .done (Attempt.alike_throw _)) ?_
        intro chainText chainText' chains
        exact .done (load_alike w.files _ _ keys chains)

theorem guarded_events (files : IdentityFiles) {x y : Attempt Tick}
    (alike : Attempt.Alike Alike x y) : (guarded files x).events = (guarded files y).events := by
  obtain ⟨events, course⟩ := alike
  simp only [guarded, events]
  generalize x.outcome = outcome at course ⊢
  generalize y.outcome = outcome' at course ⊢
  cases course <;> rfl

end Tick

namespace Store
variable {store store' : Store}

/-- Both stores are unset, or hold snapshots that are alike. -/
def Alike (store store' : Store) : Prop :=
  Option.Rel Snapshot.Alike store.snapshot? store'.snapshot?

theorem alike_of_current {p p' : Published} (holds : store.current = some p)
    (holds' : store'.current = some p') (alike : p.snapshot.Alike p'.snapshot) :
    store.Alike store' := by
  rw [Alike, snapshot?, snapshot?, holds, holds']
  exact .some alike

theorem Alike.shown (alike : store.Alike store') : store.shown = store'.shown := by
  have configured (s : Store) : s.isConfigured = s.snapshot?.isSome := by
    rw [isConfigured, snapshot?, Option.isSome_map]
  rw [Store.shown, Store.shown, configured, configured, leafSerial?, leafSerial?]
  rw [Alike] at alike
  generalize store.snapshot? = held at alike ⊢
  generalize store'.snapshot? = held' at alike ⊢
  cases alike with
  | none => rfl
  | some alike => simp only [Option.map_some, alike.leaf, Option.isSome_some]

end Store

namespace IdentityManager
variable {m n : IdentityManager} {s t : Snapshot}

/-- Two managers show what their stores show. -/
def Alike (m n : IdentityManager) : Prop :=
  m.store.Alike n.store

theorem Alike.shown (alike : m.Alike n) : m.shown = n.shown := by
  rw [IdentityManager.shown, IdentityManager.shown, Store.Alike.shown alike]

theorem publish_alike (m n : IdentityManager) (alike : s.Alike t) :
    Attempt.Alike Alike (ExceptT.lift (m.publish s)) (ExceptT.lift (n.publish t)) := by
  refine Attempt.alike_lift ?_ (Store.alike_of_current rfl rfl alike)
  change [Event.identityUpdated s.leaf.serialText s.chain.size] = [.identityUpdated _ _]
  rw [alike.leaf, alike.chain]

theorem update_alike (m n : IdentityManager) {key key' : PrivateKey} (alike : key.Alike key')
    (chain : Chain) : Attempt.Alike Alike (m.update key chain) (n.update key' chain) := by
  have course := Snapshot.make_alike alike chain
  unfold update
  generalize Snapshot.make key chain = made at course ⊢
  generalize Snapshot.make key' chain = made' at course ⊢
  cases course with
  | ok related => exact publish_alike m n related
  | error failure => exact Attempt.alike_throw failure

theorem updateProgram_alike (m n : IdentityManager) (files : IdentityFiles) :
    (m.updateProgram files).Related (FileAnswer.Alike files) (Attempt.Alike Alike)
      (n.updateProgram files) := by
  refine (Snapshot.loadProgram_alike files).bind fun x y alike => .done ?_
  exact alike.bind fun s t related => publish_alike m n related

end IdentityManager
end CredentialRotation
