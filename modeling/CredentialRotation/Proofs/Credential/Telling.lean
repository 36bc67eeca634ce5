import CredentialRotation.Proofs.Credential.SharedStore
import CredentialRotation.Service.Check

/-!
What the log tells of chains. Every line on a chain that a request or a check reports is about the
first certificate of the very snapshot that it loaded, and a chain that is loaded has one.
-/
namespace CredentialRotation

/-- What a line of the log tells of a chain: the serial number of its first certificate, and how
many certificates there are. -/
def Event.told? : Event → Option (String × Nat)
  | .identityLoaded _ serial count | .identityUpdated serial count
  | .identityChecked _ _ serial _ count | .statistics serial _ count _ => some (serial, count)
  | _ => none

namespace Snapshot
variable {s : Snapshot}

/-- What there is to tell of a snapshot, if its chain has a first certificate. -/
def told? (s : Snapshot) : Option (String × Nat) :=
  s.chain.certificates[0]?.map fun leaf => (leaf.serialText, s.chain.size)

theorem getElem?_zero_certificates (s : Snapshot) : s.chain.certificates[0]? = some s.leaf := by
  rw [leaf, ← List.head?_eq_getElem?, List.head?_eq_some_head]

theorem told?_eq (s : Snapshot) : s.told? = some (s.leaf.serialText, s.chain.size) := by
  rw [told?, getElem?_zero_certificates, Option.map_some]

end Snapshot

/-- Whatever these events tell of a chain, it is true of this snapshot. -/
def TellOf (events : List Event) (s : Option Snapshot) : Prop :=
  ∀ e ∈ events, ∀ told, e.told? = some told → s.bind Snapshot.told? = some told

section Telling
variable {events more : List Event} {s : Option Snapshot} {w : WatchState}
  {files : IdentityFiles} {answers : List FileAnswer}

theorem tellOf_of_untold (untold : ∀ e ∈ events, e.told? = none) : TellOf events s := by
  intro e mem told tells
  cases (untold e mem).symm.trans tells

theorem tellOf_nil : TellOf [] s := by
  simp [TellOf]

theorem TellOf.append (first : TellOf events s) (second : TellOf more s) :
    TellOf (events ++ more) s := by
  intro e mem
  rcases List.mem_append.1 mem with mem | mem
  · exact first e mem
  · exact second e mem

/-- What is told of nothing is nothing. -/
theorem TellOf.or (tells : TellOf events s) (other : Option Snapshot) :
    TellOf events (s.or other) := by
  intro e mem told toldOf
  have holds := tells e mem told toldOf
  cases s with
  | none => cases holds
  | some s => exact holds

theorem PrivateKey.decode_untold (text : Octets) :
    ∀ e ∈ (PrivateKey.decode text).events, e.told? = none := by
  unfold PrivateKey.decode
  split
  next => simp
  next body _ => cases decodeBody body <;> simp
  next => simp [Event.told?]

theorem Chain.decode_untold (text : Octets) :
    ∀ e ∈ (Chain.decode text).events, e.told? = none := by
  unfold Chain.decode
  split
  next => simp
  next => simp [Event.told?]

theorem Snapshot.decode_untold (keyText chainText : Octets) :
    ∀ e ∈ (Snapshot.decode keyText chainText).events, e.told? = none := by
  intro e mem
  rcases Attempt.mem_events_bind.1 mem with mem | ⟨key, -, mem⟩
  · exact PrivateKey.decode_untold keyText e mem
  · rcases Attempt.mem_events_bind.1 mem with mem | ⟨chain, -, mem⟩
    · exact Chain.decode_untold chainText e mem
    · cases pairs : Snapshot.make key chain <;> simp [pairs] at mem

theorem Snapshot.loadProgram_untold (files : IdentityFiles) :
    (loadProgram files).Always fun x => ∀ e ∈ x.events, e.told? = none := by
  refine .read fun readKey => ?_
  cases readKey with
  | error cause => exact .done (by simp)
  | ok keyText =>
    refine .read fun readChain => ?_
    cases readChain with
    | error cause => exact .done (by simp)
    | ok chainText => exact .done (decode_untold keyText chainText)

/-- A tick that loads a pair tells of what it loaded. -/
theorem Tick.load_tells (files : IdentityFiles) (key chain : Moment) (keyText chainText : Octets) :
    TellOf (load files key chain keyText chainText).events
      ((load files key chain keyText chainText).outcome.toOption.bind snapshot?) := by
  rw [load_outcome]
  intro e mem told tells
  rcases Attempt.mem_events_bind.1 mem with mem | ⟨s, loads, mem⟩
  · cases (Snapshot.decode_untold keyText chainText e mem).symm.trans tells
  · obtain rfl : e = .identityLoaded files s.leaf.serialText s.chain.size := by simpa using mem
    rw [loads]
    exact s.told?_eq.trans tells

theorem Tick.program_tells (w : WatchState) :
    (program w).Always fun x => TellOf x.events (x.outcome.toOption.bind snapshot?) := by
  refine .modified fun seenKey => ?_
  cases seenKey with
  | error cause => exact .done tellOf_nil
  | ok key =>
    refine .modified fun seenChain => ?_
    cases seenChain with
    | error cause => exact .done tellOf_nil
    | ok chain =>
      cases gate : w.bothChanged key chain with
      | false =>
        simp only [gate, Bool.not_false, if_true]
        exact .done (tellOf_of_untold (List.forall_mem_singleton.2 rfl))
      | true =>
        simp only [gate, Bool.not_true, Bool.false_eq_true, if_false]
        refine .read fun readKey => ?_
        cases readKey with
        | error cause => exact .done tellOf_nil
        | ok keyText =>
          refine .read fun readChain => ?_
          cases readChain with
          | error cause => exact .done tellOf_nil
          | ok chainText => exact .done (load_tells w.files key chain keyText chainText)

theorem Tick.tells_of_yields {x : Attempt Tick} (h : (program w).Yields answers x) :
    TellOf x.events (Snapshot.ofAnswers? answers) := by
  rw [(course_of_yields h).ofAnswers?]
  exact (program_tells w).of_yields h

theorem Tick.guarded_tells {x : Attempt Tick} (tells : TellOf x.events s) :
    TellOf (guarded files x).events s := by
  refine tells.append ?_
  cases x.outcome with
  | ok tick => exact tellOf_nil
  | error failure => exact tellOf_of_untold (List.forall_mem_singleton.2 rfl)

theorem IdentityManager.publish_tells (m : IdentityManager) (s : Snapshot) :
    TellOf (m.publish s).events (some s) := by
  intro e mem told tells
  obtain rfl : e = .identityUpdated s.leaf.serialText s.chain.size := List.mem_singleton.1 mem
  exact s.told?_eq.trans tells

theorem IdentityManager.update_tells (m : IdentityManager) (key : PrivateKey) (chain : Chain) :
    TellOf (m.update key chain).events (Snapshot.make key chain).toOption := by
  unfold update
  cases Snapshot.make key chain with
  | error failure => exact tellOf_nil
  | ok s =>
    rw [Attempt.events_lift]
    exact m.publish_tells s

theorem IdentityManager.tells_of_yields {m : IdentityManager} {x : Attempt IdentityManager}
    (h : (m.updateProgram files).Yields answers x) :
    TellOf x.events (Snapshot.ofAnswers? answers) := by
  obtain ⟨loaded, reads, rfl⟩ := FileProgram.yields_bind_done_iff.1 h
  rw [(Snapshot.loadCourse_of_yields reads).ofAnswers?]
  intro e mem told tells
  rcases Attempt.mem_events_bind.1 mem with mem | ⟨s, loads, mem⟩
  · cases ((Snapshot.loadProgram_untold files).of_yields reads e mem).symm.trans tells
  · rw [loads]
    rw [Attempt.events_lift] at mem
    exact m.publish_tells s e mem told tells

/-- A single look at the configured identity tells of what it found. -/
theorem Service.checkPair_tells (c : Configuration) (fs : FileSystem) :
    TellOf (checkPair c fs).events (checkPair c fs).value := by
  have reads := FileProgram.yields_run fs (Snapshot.loadProgram (identityFiles c))
  refine (tellOf_of_untold ((Snapshot.loadProgram_untold _).of_yields reads)).append ?_
  change TellOf _ (Snapshot.load fs (identityFiles c)).outcome.toOption
  cases (Snapshot.load fs (identityFiles c)).outcome with
  | error failure => exact tellOf_of_untold (List.forall_mem_singleton.2 rfl)
  | ok s =>
    intro e mem told tells
    obtain rfl := List.mem_singleton.1 mem
    exact s.told?_eq.trans tells

end Telling

/-- What is reported while a request is served. -/
def SharedStore.report {ι : Type} (s : SharedStore ι) : Request ι → FileProgram (List Event)
  | .tick i => (Tick.program (s.watch i)).bind fun x => .done x.events
  | .guardedTick i => (Tick.program (s.watch i)).bind fun x =>
    .done (Tick.guarded (s.watch i).files x).events
  | .update key chain => .done ((IdentityManager.mk s.store).update key chain).events
  | .updateFromFiles files =>
    ((IdentityManager.mk s.store).updateProgram files).bind fun x => .done x.events
  | .set _ | .publish _ => .done []

/-- A request tells of nothing but the snapshot that it puts forward. -/
theorem SharedStore.tells_of_report {ι : Type} {s : SharedStore ι} {r : Served ι}
    {events : List Event} (h : (s.report r.request).Yields r.answers events) :
    TellOf events r.snapshot? := by
  obtain ⟨request, answers, reply⟩ := r
  cases request with
  | tick i =>
    obtain ⟨x, ticks, rfl⟩ := FileProgram.yields_bind_done_iff.1 h
    exact Tick.tells_of_yields ticks
  | guardedTick i =>
    obtain ⟨x, ticks, rfl⟩ := FileProgram.yields_bind_done_iff.1 h
    exact Tick.guarded_tells (Tick.tells_of_yields ticks)
  | update key chain =>
    obtain ⟨-, rfl⟩ := FileProgram.yields_done_iff.1 h
    exact IdentityManager.update_tells _ key chain
  | updateFromFiles files =>
    obtain ⟨x, updates, rfl⟩ := FileProgram.yields_bind_done_iff.1 h
    exact IdentityManager.tells_of_yields updates
  | set snapshot =>
    obtain ⟨-, rfl⟩ := FileProgram.yields_done_iff.1 h
    exact tellOf_nil
  | publish p =>
    obtain ⟨-, rfl⟩ := FileProgram.yields_done_iff.1 h
    exact tellOf_nil

end CredentialRotation
