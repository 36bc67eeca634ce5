import CredentialRotation.Policy.PeerPolicy

/-!
Finding a path is no matter of names. A search fails for many reasons, but never because a server's
name does not match; only the comparison with the name does.
-/
namespace CredentialRotation.Trust

/-- A result that is not a mismatch of names. -/
def NameFree {α : Type} (x : Except Failure α) : Prop :=
  x ≠ .error .nameMismatch

section Results
variable {α β : Type} {x y : Except Failure α} {failure : Failure}

namespace NameFree

theorem ok (a : α) : NameFree (.ok a) := nofun

theorem error (other : failure ≠ .nameMismatch) : NameFree (.error failure : Except Failure α) :=
  fun same => other (Except.error.inj same)

theorem ite {c : Prop} [Decidable c] (yes : NameFree x) (no : NameFree y) :
    NameFree (if c then x else y) := by
  split
  · exact yes
  · exact no

theorem bind {f : α → Except Failure β} (first : NameFree x) (rest : ∀ a, NameFree (f a)) :
    NameFree (x >>= f) := by
  cases x with
  | ok a => exact rest a
  | error failure => exact error fun same => first (congrArg Except.error same)

theorem map {f : α → β} (first : NameFree x) : NameFree (x.map f) := by
  cases x with
  | ok a => exact ok (f a)
  | error failure => exact error fun same => first (congrArg Except.error same)

end NameFree
end Results

/-- A reader that finds no fault with names, whatever it reads. -/
def Parse.NameFree {α : Type} (p : Parse α) : Prop :=
  ∀ bs, Trust.NameFree (p bs)

namespace Parse
variable {α β : Type} {p q : Parse α} {failure : Failure}

namespace NameFree

theorem pure (a : α) : NameFree (Pure.pure a) := fun bs => .ok (a, bs)

theorem throw (other : failure ≠ .nameMismatch) :
    NameFree (MonadExcept.throw failure : Parse α) :=
  fun _ => .error other

theorem get : NameFree (MonadState.get : Parse Octets) := fun bs => .ok (bs, bs)

theorem set (bs : Octets) : NameFree (MonadStateOf.set bs : Parse PUnit) :=
  fun _ => .ok (PUnit.unit, bs)

theorem lift {x : Except Failure α} (first : Trust.NameFree x) :
    NameFree (MonadLift.monadLift x : Parse α) :=
  fun _ => first.bind fun _ => .ok _

theorem ite {c : Prop} [Decidable c] (yes : NameFree p) (no : NameFree q) :
    NameFree (if c then p else q) := by
  split
  · exact yes
  · exact no

theorem bind {f : α → Parse β} (first : NameFree p) (rest : ∀ a, NameFree (f a)) :
    NameFree (p >>= f) :=
  fun bs => Trust.NameFree.bind (first bs) fun (a, bs) => rest a bs

theorem map {f : α → β} (first : NameFree p) : NameFree (f <$> p) :=
  fun bs => Trust.NameFree.bind (first bs) fun _ => .ok _

/-- A condition on which reading fails, in front of the rest. -/
theorem fails {c : Prop} [Decidable c] {rest : PUnit → Parse α}
    (other : failure ≠ .nameMismatch) (passes : NameFree (rest ⟨⟩)) :
    NameFree (if c then MonadExcept.throw failure >>= rest else rest ⟨⟩) :=
  .ite (.bind (.throw other) fun _ => passes) passes

end NameFree

theorem nameFree_element : element.NameFree := by
  intro bs
  unfold element
  split
  · exact .ok _
  · exact .error (by decide)

theorem nameFree_expect (tag : UInt8) : (expect tag).NameFree := by
  refine .bind nameFree_element fun (found, content) => ?_
  exact .ite (.pure content) (.throw (by decide))

theorem nameFree_isNext (tag : UInt8) : (isNext tag).NameFree :=
  .bind .get fun _ => .pure _

theorem nameFree_all (other : failure ≠ .nameMismatch) (inner : p.NameFree) (bs : Octets) :
    Trust.NameFree (all failure p bs) := by
  refine .bind (inner bs) fun (a, rest) => ?_
  exact .ite (.ok a) (.error other)

theorem nameFree_nested {tag : UInt8} (other : failure ≠ .nameMismatch) (inner : p.NameFree) :
    (nested tag failure p).NameFree := by
  intro bs
  unfold nested
  split
  · exact .ite (nameFree_all other inner _).map (.error other)
  · exact .error other

theorem nameFree_bits : bits.NameFree := by
  refine nameFree_nested (by decide) (.bind .get fun bs => ?_)
  split
  · exact .bind (.set _) fun _ => .pure _
  · exact .throw (by decide)

theorem nameFree_small : small.NameFree := by
  intro bs
  unfold small
  split
  · exact .ite (.ok _) (.error (by decide))
  · exact .error (by decide)

theorem nameFree_flag : flag.NameFree := by
  refine .bind (nameFree_isNext 1) fun present => .ite (.pure false) ?_
  refine nameFree_nested (by decide) (.bind .get fun bs => ?_)
  split
  · refine .bind (.set _) fun _ => .ite (.pure true) ?_
    exact .ite (.pure false) (.throw (by decide))
  · exact .throw (by decide)

theorem nameFree_eachSequence {σ : Type} {step : σ → Octets → Except Failure σ}
    (other : failure ≠ .nameMismatch) (each : ∀ s bs, Trust.NameFree (step s bs)) (s : σ)
    (bs : Octets) : Trust.NameFree (eachSequence failure step s bs) := by
  fun_induction eachSequence failure step s bs with
  | case1 => exact .ok _
  | case2 => exact .error other
  | case3 s bs content rest read ih => exact .bind (each s content) ih
  | case4 => exact .error other

end Parse

namespace Candidate
open Parse Der.Strict

theorem nameFree_signedParts : signedParts.NameFree := by
  refine .bind .get fun before => .bind (nameFree_expect sequenceTag) fun content => ?_
  refine .bind .get fun after => .bind (nameFree_expect sequenceTag) fun algorithm => ?_
  exact .bind nameFree_bits fun signature => .pure _

theorem nameFree_version : version.NameFree := by
  refine nameFree_nested (by decide) (.bind nameFree_small fun n => ?_)
  exact .ite (.throw (by decide)) (.pure _)

theorem nameFree_addExtension (found : List (KnownExtension × Octets)) (bs : Octets) :
    Trust.NameFree (addExtension found bs) := by
  refine nameFree_all (by decide) ?_ bs
  refine .bind (nameFree_expect 6) fun id => .bind nameFree_flag fun critical => ?_
  refine .bind (nameFree_expect octetStringTag) fun value => ?_
  split
  · exact .ite (.throw (by decide)) (.pure found)
  · have sequence : Trust.NameFree (all .malformed (expect sequenceTag) value) :=
      nameFree_all (by decide) (nameFree_expect sequenceTag) value
    refine .fails (by decide) (.ite (.bind (.pure value) fun _ => .pure _) ?_)
    exact .bind (.lift sequence) fun _ => .pure _

theorem nameFree_extensionList : extensionList.NameFree := by
  refine .bind .get fun bs => .ite (.pure []) ?_
  refine nameFree_nested (by decide) (nameFree_nested (by decide) ?_)
  refine .bind .get fun bs => .bind (.set []) fun _ => .lift ?_
  exact nameFree_eachSequence (by decide) nameFree_addExtension [] bs

theorem nameFree_ofDer (der : Octets) : Trust.NameFree (ofDer der) := by
  have outer : (nested sequenceTag .trailingData signedParts).NameFree :=
    nameFree_nested (by decide) nameFree_signedParts
  refine .bind (nameFree_all (by decide) outer der) fun (signed, content, algorithm, signature) => ?_
  refine nameFree_all (by decide) ?_ content
  refine .bind nameFree_version fun _ => .bind (nameFree_expect integerTag) fun _ => ?_
  refine .bind (nameFree_expect sequenceTag) fun inner => .fails (by decide) ?_
  refine .bind (nameFree_expect sequenceTag) fun issuer => ?_
  refine .bind (nameFree_expect sequenceTag) fun validity => ?_
  refine .bind (nameFree_expect sequenceTag) fun subject => ?_
  refine .bind (nameFree_expect sequenceTag) fun keyInfo => ?_
  exact .bind nameFree_extensionList fun extensions => .pure _

end Candidate

section Signatures
variable (keyInfo message signature : Octets)

theorem nameFree_keyOctets (identifier : Octets) : NameFree (keyOctets identifier keyInfo) := by
  refine Parse.nameFree_all (by decide) ?_ keyInfo
  refine .bind (Parse.nameFree_expect _) fun found => .bind Parse.nameFree_bits fun key => ?_
  exact .ite (.pure key) (.throw (by decide))

theorem nameFree_verifyBy (scheme : SignatureScheme) :
    NameFree (verifyBy scheme keyInfo message signature) :=
  .bind (nameFree_keyOctets keyInfo _) fun _ => .ite (.ok ()) (.error (by decide))

theorem nameFree_verifyByAny (schemes : List SignatureScheme) :
    NameFree (verifyByAny keyInfo message signature schemes) := by
  induction schemes with
  | nil => exact .error (by decide)
  | cons scheme schemes ih =>
    unfold verifyByAny
    split
    · exact ih
    · exact nameFree_verifyBy keyInfo message signature scheme

theorem Candidate.nameFree_verifySignature (c : Candidate) :
    NameFree (c.verifySignature keyInfo) := by
  unfold verifySignature
  split
  · exact .error (by decide)
  · exact nameFree_verifyByAny keyInfo c.signed c.signature _

end Signatures

namespace Candidate
open Parse

theorem nameFree_twoDigits (least most : Nat) : (twoDigits least most).NameFree := by
  refine .bind .get fun bs => ?_
  split
  · exact .fails (by decide) (.bind (.set _) fun _ => .pure _)
  · exact .throw (by decide)

theorem nameFree_moment : moment.NameFree := by
  refine .bind (nameFree_isNext 23) fun isShort => nameFree_nested (by decide) ?_
  -- With or without the first two digits of a year, the rest is read alike.
  refine .ite (.bind (.pure none) ?rest) (.bind (.map (nameFree_twoDigits 0 99)) ?rest)
  intro high
  refine .bind (nameFree_twoDigits 0 99) fun low => .bind (nameFree_twoDigits 1 12) fun month => ?_
  refine .bind (nameFree_twoDigits 1 _) fun day => .bind (nameFree_twoDigits 0 23) fun hour => ?_
  refine .bind (nameFree_twoDigits 0 59) fun minute => ?_
  refine .bind (nameFree_twoDigits 0 59) fun second => .bind .get fun bs => ?_
  dsimp only
  split
  · exact .bind (.set _) fun _ => .fails (by decide) (.pure _)
  · exact .bind (.throw (by decide)) fun _ => .fails (by decide) (.pure _)

variable (c : Candidate)

theorem nameFree_checkValidity (now : Int) : Trust.NameFree (c.checkValidity now) := by
  refine nameFree_all (by decide) ?_ c.validity
  refine .bind nameFree_moment fun start => .bind nameFree_moment fun stop => ?_
  exact .fails (by decide) (.fails (by decide) (.ite (.throw (by decide)) (.pure _)))

theorem nameFree_checkPlace (authoritiesBelow : Option Nat) (isAuthority : Bool)
    (limit : Option Nat) : Trust.NameFree (checkPlace authoritiesBelow isAuthority limit) := by
  cases authoritiesBelow with
  | none => exact .ite (.error (by decide)) (.ok _)
  | some below => exact .ite (.error (by decide)) (.ite (.error (by decide)) (.ok _))

theorem nameFree_checkAuthority (authoritiesBelow : Option Nat) :
    Trust.NameFree (c.checkAuthority authoritiesBelow) := by
  unfold checkAuthority
  split
  · exact nameFree_checkPlace _ _ _
  · refine nameFree_all (by decide) ?_ _
    refine .bind nameFree_flag fun isAuthority => .bind .get fun bs => ?_
    refine .ite (.bind (.pure none) ?rest) (.bind (.map nameFree_small) ?rest)
    exact fun limit => .lift (nameFree_checkPlace _ _ limit)

theorem nameFree_findPurpose (purpose : Purpose) (fuel : Nat) (bs : Octets) :
    Trust.NameFree (findPurpose purpose fuel bs) := by
  induction fuel generalizing bs with
  | zero => exact .error (by decide)
  | succ fuel ih =>
    refine .bind (nameFree_expect 6 bs) fun (id, rest) => .ite (.ok _) ?_
    exact .ite (.bind (.error (by decide)) fun _ => ih rest) (ih rest)

theorem nameFree_checkPurpose (purpose : Purpose) : Trust.NameFree (c.checkPurpose purpose) := by
  unfold checkPurpose
  split
  · exact .ok _
  · exact .error (by decide)
  · exact nameFree_findPurpose purpose _ _

theorem nameFree_checkFitness (now : Int) (purpose : Purpose) (authoritiesBelow : Option Nat) :
    Trust.NameFree (c.checkFitness now purpose authoritiesBelow) := by
  refine .bind (c.nameFree_checkValidity now) fun _ => ?_
  exact .bind (c.nameFree_checkAuthority authoritiesBelow) fun _ => c.nameFree_checkPurpose purpose

end Candidate

namespace GeneralName

theorem nameFree_read : read.NameFree := by
  refine .bind Parse.nameFree_element fun (tag, content) => ?_
  dsimp only
  split <;> first | exact .pure _ | exact .throw (by decide)

theorem nameFree_readAll (fuel : Nat) (bs : Octets) :
    (readAll fuel bs).2 ≠ some .nameMismatch := by
  induction fuel generalizing bs with
  | zero => exact nofun
  | succ fuel ih =>
    unfold readAll
    split
    · exact nofun
    · split
      next name rest reads => exact ih rest
      next failure fails =>
        rintro same
        exact nameFree_read bs (fails.trans (congrArg Except.error (Option.some.inj same)))

theorem nameFree_isWithin? (permitted : Bool) (name base : GeneralName) :
    NameFree (name.isWithin? permitted base) := by
  unfold isWithin?
  split
  · exact .ite (.error (by decide)) (.ite (.error (by decide)) (.ok _))
  · exact .ok _
  · refine .ite (.error (by decide)) (.ite ?_ (.ite (.ok _) (.error (by decide))))
    dsimp only
    split
    · exact .ok _
    · exact .error (by decide)
  · exact .ite (.error (by decide)) (.ok _)
  · exact .ok _

end GeneralName

/-- What keeps names from being read is no mismatch. -/
theorem Candidate.nameFree_alternativeNames (c : Candidate) :
    c.alternativeNames.2 ≠ some .nameMismatch := by
  unfold alternativeNames
  split
  · exact GeneralName.nameFree_readAll _ _
  · exact nofun

/-- Steps of a search that find no fault with names, whatever is left of the budget. -/
def Search.NameFree {α : Type} (s : Search α) : Prop :=
  ∀ budget, Trust.NameFree (s.run budget).1

namespace Search
variable {α β : Type} {s t : Search α} {failure : Failure}

theorem run_bind (s : Search α) (f : α → Search β) (budget : Budget) :
    (s >>= f).run budget = match s.run budget with
      | (.ok a, left) => (f a).run left
      | (.error failure, left) => (.error failure, left) := by
  have outcome : s.run budget = s budget := rfl
  have bound : (s >>= f).run budget = (ExceptT.bindCont f (s budget).1) (s budget).2 := rfl
  rw [bound, outcome]
  obtain ⟨_ | _, left⟩ := s budget <;> rfl

theorem run_tryCatch (s : Search α) (handler : Failure → Search α) (budget : Budget) :
    (tryCatch s handler).run budget = match s.run budget with
      | (.ok a, left) => (.ok a, left)
      | (.error failure, left) => (handler failure).run left := by
  have outcome : s.run budget = s budget := rfl
  simp only [tryCatch, tryCatchThe, MonadExceptOf.tryCatch, ExceptT.tryCatch, ExceptT.run_mk,
    bind, StateT.bind, outcome]
  obtain ⟨_ | _, left⟩ := s budget <;> rfl

namespace NameFree

theorem pure (a : α) : NameFree (Pure.pure a) := fun _ => .ok a

theorem throw (other : failure ≠ .nameMismatch) :
    NameFree (MonadExcept.throw failure : Search α) :=
  fun _ => .error other

theorem free {x : Except Failure α} (first : Trust.NameFree x) : NameFree (Search.free x) :=
  fun _ => first

theorem ite {c : Prop} [Decidable c] (yes : NameFree s) (no : NameFree t) :
    NameFree (if c then s else t) := by
  split
  · exact yes
  · exact no

theorem bind {f : α → Search β} (first : NameFree s) (rest : ∀ a, NameFree (f a)) :
    NameFree (s >>= f) := by
  intro budget
  rw [run_bind]
  have head := first budget
  generalize s.run budget = outcome at head ⊢
  obtain ⟨result, left⟩ := outcome
  cases result with
  | ok a => exact rest a left
  | error failure => exact .error fun same => head (congrArg Except.error same)

/-- A condition on which a search fails, in front of the rest. -/
theorem fails {c : Prop} [Decidable c] {rest : PUnit → Search α}
    (other : failure ≠ .nameMismatch) (passes : NameFree (rest ⟨⟩)) :
    NameFree (if c then MonadExcept.throw failure >>= rest else rest ⟨⟩) :=
  .ite (.bind (.throw other) fun _ => passes) passes

/-- After a failure others are tried, or the failure is passed on. -/
theorem tryCatch {handler : Failure → Search α} (first : NameFree s)
    (rest : ∀ failure, failure ≠ .nameMismatch → NameFree (handler failure)) :
    NameFree (MonadExcept.tryCatch s handler) := by
  intro budget
  rw [run_tryCatch]
  have head := first budget
  generalize s.run budget = outcome at head ⊢
  obtain ⟨result, left⟩ := outcome
  cases result with
  | ok a => exact .ok a
  | error failure => exact rest failure (fun same => head (congrArg Except.error same)) left

theorem forM {f : α → Search PUnit} (each : ∀ a, NameFree (f a)) (as : List α) :
    NameFree (as.forM f) := by
  induction as with
  | nil => exact .pure _
  | cons a as ih => exact .bind (each a) fun _ => ih

theorem spend {left : Budget → Nat} {spent : Nat → Budget → Budget}
    (other : failure ≠ .nameMismatch) :
    NameFree (do match left (← get) with
      | 0 => MonadExcept.throw failure
      | n + 1 => modify (spent n) : Search Unit) := by
  refine .bind (fun budget => .ok budget) fun budget => ?_
  split
  · exact .throw other
  · exact fun _ => .ok _

end NameFree

theorem nameFree_spendSignature : spendSignature.NameFree := .spend (by decide)
theorem nameFree_spendCandidate : spendCandidate.NameFree := .spend (by decide)
theorem nameFree_spendComparison : spendComparison.NameFree := .spend (by decide)

theorem nameFree_firstOf {step : α → Search β} (other : failure ≠ .nameMismatch)
    (each : ∀ a, (step a).NameFree) (as : List α) : (firstOf failure step as).NameFree := by
  induction as generalizing failure with
  | nil => exact .throw other
  | cons a as ih =>
    refine .tryCatch (each a) fun found different => .ite (.throw different) (ih ?_)
    unfold Failure.further
    split
    · exact different
    · exact other

end Search

namespace Path
open Search

theorem nameFree_verifySignatures (keyInfo : Octets) (cs : List Candidate) :
    (verifySignatures keyInfo cs).NameFree := by
  induction cs generalizing keyInfo with
  | nil => exact .pure _
  | cons c cs ih =>
    refine .bind nameFree_spendSignature fun _ => ?_
    exact .bind (.free (c.nameFree_verifySignature keyInfo)) fun _ => ih c.keyInfo

theorem nameFree_compare (permitted : Bool) (name : GeneralName) (fuel : Nat) (bs : Octets)
    (held missed : Bool) : (compare permitted name fuel bs held missed).NameFree := by
  induction fuel generalizing bs held missed with
  | zero => exact .pure _
  | succ fuel ih =>
    have readBase (bs : Octets) : Trust.NameFree (Parse.all .trailingData GeneralName.read bs) :=
      Parse.nameFree_all (by decide) GeneralName.nameFree_read bs
    refine .ite (.pure _) (.bind nameFree_spendComparison fun _ => ?_)
    refine .bind (.free (Parse.nameFree_expect _ bs)) fun (subtree, rest) => ?_
    refine .bind (.free (readBase subtree)) fun base => ?_
    refine .bind (.free (name.nameFree_isWithin? permitted base)) fun within => ?_
    split
    · exact ih rest held missed
    · exact .fails (by decide) (ih rest true missed)
    · exact ih rest held true

theorem nameFree_checkConstraints (permitted excluded : Option Octets) (name : GeneralName) :
    (checkConstraints permitted excluded name).NameFree := by
  unfold checkConstraints
  cases excluded with
  | none =>
    cases permitted with
    | none => exact .pure _
    | some bs => exact .bind (nameFree_compare _ _ _ _ _ _) fun _ => .fails (by decide) (.pure _)
  | some bs =>
    have excludes := (nameFree_compare false name bs.length bs false false).bind fun _ =>
      .pure PUnit.unit
    cases permitted with
    | none => exact excludes
    | some bs => exact .bind (nameFree_compare _ _ _ _ _ _) fun _ => .fails (by decide) excludes

theorem nameFree_checkNames (permitted excluded : Option Octets) (c : Candidate) :
    (checkNames permitted excluded c).NameFree := by
  have free := c.nameFree_alternativeNames
  unfold checkNames
  generalize c.alternativeNames = read at free ⊢
  obtain ⟨names, failure⟩ := read
  refine .bind (.forM (nameFree_checkConstraints permitted excluded) names) fun _ => ?_
  cases failure with
  | none => exact nameFree_checkConstraints _ _ _
  | some failure => exact .throw fun same => free (congrArg some same)

theorem nameFree_subtrees (tag : UInt8) : (subtrees tag).NameFree :=
  .bind (Parse.nameFree_isNext tag) fun _ => .ite (.map (Parse.nameFree_expect tag)) (.pure none)

theorem nameFree_checkAllNames (constraints : Option Octets) (cs : List Candidate) :
    (checkAllNames constraints cs).NameFree := by
  induction cs generalizing constraints with
  | nil => exact .pure _
  | cons c cs ih =>
    have below := ih (c.extension? .nameConstraints)
    cases constraints with
    | none => exact below
    | some bs =>
      refine .bind (.free ?_) fun ((permitted, excluded), left) => ?_
      · refine Parse.NameFree.bind (nameFree_subtrees _) (fun _ => ?_) bs
        exact .bind (nameFree_subtrees _) fun _ => .pure _
      · refine .bind (.forM (nameFree_checkNames permitted excluded) (c :: cs)) fun _ => ?_
        exact .fails (by decide) below

theorem nameFree_anchorIn (path : Path) (anchor : Anchor) : (path.anchorIn anchor).NameFree := by
  refine .fails (by decide) (.bind (nameFree_verifySignatures _ _) fun _ => ?_)
  exact .bind (nameFree_checkAllNames _ _) fun _ => .pure _

theorem nameFree_extend (path : Path) (der : Octets) : (path.extend der).NameFree := by
  refine .bind (.free (Candidate.nameFree_ofDer der)) fun issuer => ?_
  refine .fails (by decide) (.fails (by decide) ?_)
  exact .bind nameFree_spendCandidate fun _ => .pure _

theorem nameFree_complete (anchors : List Anchor) (intermediates : List Octets) (purpose : Purpose)
    (now : Int) (room : Nat) (path : Path) :
    (complete anchors intermediates purpose now room path).NameFree := by
  have anchored (path : Path) : (firstOf .unknownIssuer path.anchorIn anchors).NameFree :=
    nameFree_firstOf (by decide) path.nameFree_anchorIn anchors
  induction room generalizing path with
  | zero =>
    unfold complete
    refine .bind (.free (path.head.nameFree_checkFitness now purpose _)) fun _ => ?_
    refine .tryCatch (anchored path) fun failure other => .ite (.throw other) ?_
    refine nameFree_firstOf other (fun der => ?_) intermediates
    exact .bind (path.nameFree_extend der) fun _ => .throw (by decide)
  | succ room ih =>
    unfold complete
    refine .bind (.free (path.head.nameFree_checkFitness now purpose _)) fun _ => ?_
    refine .tryCatch (anchored path) fun failure other => .ite (.throw other) ?_
    refine nameFree_firstOf other (fun der => ?_) intermediates
    exact .bind (path.nameFree_extend der) fun longer => ih longer

end Path

/-- No failure to find a path is a mismatch of names. -/
theorem nameFree_verifyPath (anchors : List Anchor) (endEntity : Candidate)
    (intermediates : List Octets) (purpose : Purpose) (now : Int) :
    NameFree (verifyPath anchors endEntity intermediates purpose now) :=
  (Path.nameFree_complete anchors intermediates purpose now _ _ Budget.full).map

end CredentialRotation.Trust
