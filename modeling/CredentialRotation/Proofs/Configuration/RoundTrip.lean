import CredentialRotation.Proofs.Configuration.Acceptance
import CredentialRotation.Proofs.Files.Disk
import CredentialRotation.Proofs.Text.Utf8
import CredentialRotation.Proofs.Toml.Document

/-!
Saving a configuration and loading it again gives the same configuration back, but for the two
rates, of which only so much is known as that they are read at all.
-/
namespace CredentialRotation

open Toml (Value Entries Written)

/-- A step that succeeds hands on its value. -/
theorem bind_of_ok {ε α β : Type} {x : Except ε α} {a : α} (succeeds : x = .ok a)
    (f : α → Except ε β) : (x >>= f) = f a := by
  rw [succeeds]
  rfl

section Fields
variable {α : Type} {r : Record} {f : Field α} {entries : Entries} {v : Value} {a : α}

theorem Field.check_eq_ok (means : f.meaning v = .ok a) : f.check.2 v = .ok () := by
  change discard (f.meaning v) = _
  rw [means]
  rfl

/-- A table is accepted as a record if each of its values means something there. -/
theorem Record.content_of_checks {origin : Toml.Origin}
    (each : ∀ e ∈ entries, ∃ check, r.fields.lookup e.1 = some check ∧ check e.2 = .ok ()) :
    r.content (.table origin entries) = .ok (.named entries) := by
  have inspects : r.inspect entries = .ok () := by
    refine forM_eq_ok_iff.2 fun e mem => ?_
    obtain ⟨check, known, passes⟩ := each e (List.mem_mergeSort.1 mem)
    obtain ⟨key, v⟩ := e
    simp only [known, passes]
  simp only [content, inspects]
  rfl

theorem Record.field_of_lookup (given : entries.lookup f.name = some v)
    (means : f.meaning v = .ok a) : r.field (.named entries) f = .ok a := by
  simp only [field, given, means]

theorem Record.field_of_absent (absent : entries.lookup f.name = none)
    (fallback : f.fallback = some a) : r.field (.named entries) f = .ok a := by
  simp only [field, absent, fallback]

end Fields
section Meanings

theorem Meaning.unsigned_toNat (n : UInt64) (expected : String) :
    unsigned expected (.scalar (.integer n.toNat)) = .ok n := by
  have range : (0 : Int) ≤ n.toNat ∧ (n.toNat : Int) < Nat.pow 2 64 :=
    ⟨Int.natCast_nonneg _, by exact_mod_cast n.toNat_lt⟩
  rw [unsigned, if_pos range]
  simp

theorem Meaning.mode_word (m : VerificationMode) : mode (.scalar (.text m.word)) = .ok m := by
  cases m <;> rfl

theorem readsAs_whole (n : UInt64) : (whole n).ReadsAs (.scalar (.integer n.toNat)) :=
  Written.readsAs_natural (n.toNat_lt.trans (by decide))

end Meanings

namespace IdentitySettings

/-- What the entries of the settings say. -/
def said (s : IdentitySettings) : Entries :=
  [("key_path", .scalar (.text s.keyPath)), ("cert_path", .scalar (.text s.certificatesPath)),
   ("refresh_interval_ms", .scalar (.integer s.refreshMillis.toNat))]

theorem entries_said (s : IdentitySettings) : List.Forall₂ Toml.Entry s.entries s.said :=
  .cons (Toml.PlainKey.entry (.of_all rfl) (Written.readsAs_text _)) <|
  .cons (Toml.PlainKey.entry (.of_all rfl) (Written.readsAs_text _)) <|
  .cons (Toml.PlainKey.entry (.of_all rfl) (readsAs_whole _)) .nil

theorem meaning_said (s : IdentitySettings) (origin : Toml.Origin) :
    meaning (.table origin s.said) = .ok s := by
  have refresh : refreshField.meaning (.scalar (.integer s.refreshMillis.toNat)) =
      .ok s.refreshMillis := by
    simp only [refreshField, Meaning.unsigned_toNat]
  have content : record.content (.table origin s.said) = .ok (.named s.said) := by
    refine Record.content_of_checks ?_
    simp only [said, List.forall_mem_cons]
    exact ⟨⟨_, rfl, rfl⟩, ⟨_, rfl, rfl⟩, ⟨_, rfl, refreshField.check_eq_ok refresh⟩,
      List.forall_mem_nil _⟩
  have key : record.field (.named s.said) keyField = .ok s.keyPath :=
    Record.field_of_lookup rfl rfl
  have certificates : record.field (.named s.said) certificatesField = .ok s.certificatesPath :=
    Record.field_of_lookup rfl rfl
  have refresh : record.field (.named s.said) refreshField = .ok s.refreshMillis :=
    Record.field_of_lookup rfl refresh
  unfold meaning
  rw [bind_of_ok content, bind_of_ok key, bind_of_ok certificates, bind_of_ok refresh]
  rfl

end IdentitySettings

namespace VerificationSettings

def said (s : VerificationSettings) : Entries :=
  ("mode", .scalar (.text s.mode.word)) ::
    s.trustBundlePath.toList.map fun path => ("trust_bundle_path", .scalar (.text path))

theorem entries_said (s : VerificationSettings) : List.Forall₂ Toml.Entry s.entries s.said := by
  have mode : Toml.Entry ("mode", .text s.mode.word) ("mode", .scalar (.text s.mode.word)) :=
    Toml.PlainKey.entry (.of_all rfl) (Written.readsAs_text _)
  have bundle (path : String) : Toml.Entry ("trust_bundle_path", .text path)
      ("trust_bundle_path", .scalar (.text path)) :=
    Toml.PlainKey.entry (.of_all rfl) (Written.readsAs_text _)
  unfold entries said
  cases s.trustBundlePath with
  | none => exact .cons mode .nil
  | some path => exact .cons mode (.cons (bundle path) .nil)

theorem meaning_said (s : VerificationSettings) (origin : Toml.Origin) :
    meaning (.table origin s.said) = .ok s := by
  have word : modeField.meaning (.scalar (.text s.mode.word)) = .ok s.mode :=
    Meaning.mode_word s.mode
  have content : record.content (.table origin s.said) = .ok (.named s.said) := by
    refine Record.content_of_checks ?_
    rw [said, List.forall_mem_cons]
    refine ⟨⟨_, rfl, modeField.check_eq_ok word⟩, fun e mem => ?_⟩
    obtain ⟨path, -, rfl⟩ := List.mem_map.1 mem
    exact ⟨_, rfl, rfl⟩
  have mode : record.field (.named s.said) modeField = .ok s.mode := Record.field_of_lookup rfl word
  have bundle : record.field (.named s.said) bundleField = .ok s.trustBundlePath := by
    unfold said
    cases s.trustBundlePath with
    | none => exact Record.field_of_absent rfl rfl
    | some path => exact Record.field_of_lookup rfl rfl
  unfold meaning
  rw [bind_of_ok content, bind_of_ok mode, bind_of_ok bundle]
  rfl

end VerificationSettings

namespace ReportingSettings
variable {s : ReportingSettings} {x y : Binary}

/-- What the entries say, with some numbers for the rates. -/
def said (s : ReportingSettings) (x y : Binary) : Entries :=
  [("enabled", .scalar (.boolean s.isEnabled)), ("dsn", .scalar (.text s.address)),
   ("debug", .scalar (.boolean s.isVerbose)), ("sample_rate", .scalar (.float x)),
   ("max_breadcrumbs", .scalar (.integer s.mostBreadcrumbs.toNat)),
   ("attach_stacktrace", .scalar (.boolean s.withStackTrace)),
   ("send_default_pii", .scalar (.boolean s.withPersonalData)),
   ("traces_sample_rate", .scalar (.float y))]

theorem entries_said (sample : (rate s.sampleRate).ReadsAs (.scalar (.float x)))
    (traces : (rate s.tracesSampleRate).ReadsAs (.scalar (.float y))) :
    List.Forall₂ Toml.Entry s.entries (s.said x y) :=
  .cons (Toml.PlainKey.entry (.of_all rfl) (Written.readsAs_boolean _)) <|
  .cons (Toml.PlainKey.entry (.of_all rfl) (Written.readsAs_text _)) <|
  .cons (Toml.PlainKey.entry (.of_all rfl) (Written.readsAs_boolean _)) <|
  .cons (Toml.PlainKey.entry (.of_all rfl) sample) <|
  .cons (Toml.PlainKey.entry (.of_all rfl) (readsAs_whole _)) <|
  .cons (Toml.PlainKey.entry (.of_all rfl) (Written.readsAs_boolean _)) <|
  .cons (Toml.PlainKey.entry (.of_all rfl) (Written.readsAs_boolean _)) <|
  .cons (Toml.PlainKey.entry (.of_all rfl) traces) .nil

theorem meaning_said (s : ReportingSettings) (x y : Binary) (origin : Toml.Origin) :
    meaning (.table origin (s.said x y)) =
      .ok { s with sampleRate := x.round .single, tracesSampleRate := y.round .single } := by
  have count : breadcrumbsField.meaning (.scalar (.integer s.mostBreadcrumbs.toNat)) =
      .ok s.mostBreadcrumbs := by
    simp only [breadcrumbsField, Meaning.unsigned_toNat]
  have content : record.content (.table origin (s.said x y)) = .ok (.named (s.said x y)) := by
    refine Record.content_of_checks ?_
    simp only [said, List.forall_mem_cons]
    exact ⟨⟨_, rfl, rfl⟩, ⟨_, rfl, rfl⟩, ⟨_, rfl, rfl⟩, ⟨_, rfl, rfl⟩,
      ⟨_, rfl, breadcrumbsField.check_eq_ok count⟩, ⟨_, rfl, rfl⟩, ⟨_, rfl, rfl⟩, ⟨_, rfl, rfl⟩,
      List.forall_mem_nil _⟩
  have enabled : record.field (.named (s.said x y)) enabledField = .ok s.isEnabled :=
    Record.field_of_lookup rfl rfl
  have address : record.field (.named (s.said x y)) addressField = .ok s.address :=
    Record.field_of_lookup rfl rfl
  have verbose : record.field (.named (s.said x y)) verboseField = .ok s.isVerbose :=
    Record.field_of_lookup rfl rfl
  have rate : record.field (.named (s.said x y)) rateField = .ok (x.round .single) :=
    Record.field_of_lookup rfl rfl
  have breadcrumbs : record.field (.named (s.said x y)) breadcrumbsField = .ok s.mostBreadcrumbs :=
    Record.field_of_lookup rfl count
  have stackTrace : record.field (.named (s.said x y)) stackTraceField = .ok s.withStackTrace :=
    Record.field_of_lookup rfl rfl
  have personalData :
      record.field (.named (s.said x y)) personalDataField = .ok s.withPersonalData :=
    Record.field_of_lookup rfl rfl
  have tracesRate : record.field (.named (s.said x y)) tracesRateField = .ok (y.round .single) :=
    Record.field_of_lookup rfl rfl
  unfold meaning
  rw [bind_of_ok content, bind_of_ok enabled, bind_of_ok address, bind_of_ok verbose,
    bind_of_ok rate, bind_of_ok breadcrumbs, bind_of_ok stackTrace, bind_of_ok personalData,
    bind_of_ok tracesRate]
  rfl

end ReportingSettings

namespace Configuration
variable {c : Configuration} {x y : Binary}

/-- The same configuration with other rates. -/
def withRates (c : Configuration) (sample traces : Binary) : Configuration :=
  { c with reporting :=
    { c.reporting with sampleRate := sample, tracesSampleRate := traces } }

/-- What the entries in front of all tables say. -/
def ownSaid (c : Configuration) : Entries :=
  [("log_level", .scalar (.text c.logLevel)),
   ("log_console_interval", .scalar (.integer c.consoleSeconds.toNat))]

/-- What the entries of all tables say, with some numbers for the rates. -/
def groupsSaid (c : Configuration) (x y : Binary) : List (String × Entries) :=
  [("identity", c.identity.said), ("verification", c.verification.said),
   ("sentry_config", c.reporting.said x y)]

def said (c : Configuration) (x y : Binary) : Entries :=
  c.ownSaid ++ Entries.tables (c.groupsSaid x y)

/-- A document that was written for a configuration is read as what the configuration says. -/
theorem ofDocument?_document (sample : (rate c.reporting.sampleRate).ReadsAs (.scalar (.float x)))
    (traces : (rate c.reporting.tracesSampleRate).ReadsAs (.scalar (.float y))) :
    Entries.ofDocument? c.document = some (c.said x y) := by
  have document : c.document = Written.lines c.ownEntries ++
      Written.tables [("identity", c.identity.entries), ("verification", c.verification.entries),
        ("sentry_config", c.reporting.entries)] := by
    simp [Configuration.document, Written.tables]
  rw [document]
  refine Toml.ofDocument?_written ?_ ?_ ?_ ?_
  · exact .cons (Toml.PlainKey.entry (.of_all rfl) (Written.readsAs_text _)) <|
      .cons (Toml.PlainKey.entry (.of_all rfl) (readsAs_whole _)) .nil
  · exact .cons (Toml.PlainKey.group (.of_all rfl) c.identity.entries_said) <|
      .cons (Toml.PlainKey.group (.of_all rfl) c.verification.entries_said) <|
      .cons (Toml.PlainKey.group (.of_all rfl) (ReportingSettings.entries_said sample traces)) .nil
  · exact ⟨fun _ _ => rfl, show ["log_level", "log_console_interval", "identity", "verification",
      "sentry_config"].Nodup by decide⟩
  · simp only [groupsSaid, List.forall_mem_cons]
    refine ⟨?_, ?_, ?_, List.forall_mem_nil _⟩
    · exact show ["key_path", "cert_path", "refresh_interval_ms"].Nodup by decide
    · unfold VerificationSettings.said
      cases c.verification.trustBundlePath with
      | none => exact show ["mode"].Nodup by decide
      | some path => exact show ["mode", "trust_bundle_path"].Nodup by decide
    · exact show ["enabled", "dsn", "debug", "sample_rate", "max_breadcrumbs", "attach_stacktrace",
        "send_default_pii", "traces_sample_rate"].Nodup by decide

theorem meaning_said (c : Configuration) (x y : Binary) (origin : Toml.Origin) :
    meaning (.table origin (c.said x y)) =
      .ok (c.withRates (x.round .single) (y.round .single)) := by
  have seconds : consoleField.meaning (.scalar (.integer c.consoleSeconds.toNat)) =
      .ok c.consoleSeconds := by
    simp only [consoleField, Meaning.unsigned_toNat]
  have identity' := c.identity.meaning_said .header
  have verification' := c.verification.meaning_said .header
  have reporting' := c.reporting.meaning_said x y .header
  have content : record.content (.table origin (c.said x y)) = .ok (.named (c.said x y)) := by
    refine Record.content_of_checks ?_
    simp only [said, ownSaid, groupsSaid, Entries.tables, List.map_cons, List.map_nil,
      List.cons_append, List.nil_append, List.forall_mem_cons]
    exact ⟨⟨_, rfl, rfl⟩, ⟨_, rfl, consoleField.check_eq_ok seconds⟩,
      ⟨_, rfl, identityField.check_eq_ok identity'⟩,
      ⟨_, rfl, verificationField.check_eq_ok verification'⟩,
      ⟨_, rfl, reportingField.check_eq_ok reporting'⟩, List.forall_mem_nil _⟩
  have level : record.field (.named (c.said x y)) levelField = .ok c.logLevel :=
    Record.field_of_lookup rfl rfl
  have console : record.field (.named (c.said x y)) consoleField = .ok c.consoleSeconds :=
    Record.field_of_lookup rfl seconds
  have identity : record.field (.named (c.said x y)) identityField = .ok c.identity :=
    Record.field_of_lookup rfl identity'
  have verification : record.field (.named (c.said x y)) verificationField = .ok c.verification :=
    Record.field_of_lookup rfl verification'
  have reporting : record.field (.named (c.said x y)) reportingField =
      .ok (c.withRates (x.round .single) (y.round .single)).reporting :=
    Record.field_of_lookup rfl reporting'
  unfold meaning
  rw [bind_of_ok content, bind_of_ok level, bind_of_ok console, bind_of_ok identity,
    bind_of_ok verification, bind_of_ok reporting]
  rfl

/-- What was written for a configuration is read as that configuration, with the rates that their
texts are read as. -/
theorem ofOctets_contents_of_reads
    (sample : (rate c.reporting.sampleRate).ReadsAs (.scalar (.float x)))
    (traces : (rate c.reporting.tracesSampleRate).ReadsAs (.scalar (.float y))) :
    ofOctets c.contents = .ok (c.withRates (x.round .single) (y.round .single)) := by
  rw [ofOctets, contents, Utf8.decodeLossy_encode, Meaning.ofDocument,
    ofDocument?_document sample traces]
  simp only [meaning_said]

/-- What was written for a configuration is read as that configuration, whatever the rates. -/
theorem ofOctets_contents (sample : c.reporting.sampleRate.Fits .single)
    (traces : c.reporting.tracesSampleRate.Fits .single) :
    ∃ x y, ofOctets c.contents = .ok (c.withRates x y) := by
  obtain ⟨x, sample⟩ := Written.readsAs_single sample
  obtain ⟨y, traces⟩ := Written.readsAs_single traces
  exact ⟨_, _, ofOctets_contents_of_reads sample traces⟩

theorem initial_rate_fits : initial.reporting.sampleRate.Fits .single := by
  have one : initial.reporting.sampleRate = .finite false 8388608 (-23) := by decide +kernel
  rw [one]
  exact ⟨by decide, by decide, by decide⟩

theorem loadFrom_outcome {disk : Disk} {path : String}
    (reads : ofContents (disk.read path) = .ok c) (create : Bool) :
    (loadFrom path create disk).1.outcome = c.validate.map fun _ => c :=
  (load_of_read reads create).1

/-- A valid configuration is accepted once it was saved, whatever its rates have become. -/
theorem accepted_of_valid (valid : c.validate = .ok ())
    (sample : c.reporting.sampleRate.Fits .single)
    (traces : c.reporting.tracesSampleRate.Fits .single) : ∃ x y, (c.withRates x y).Accepted := by
  have takes : Disk.empty.Takes "config.toml" := ⟨[], ⟨0, 0⟩, _, rfl⟩
  obtain ⟨disk', writes⟩ := takes.write c.contents ⟨0, 0⟩
  obtain ⟨x, y, means⟩ := ofOctets_contents sample traces
  have reads : ofContents (disk'.read "config.toml") = .ok (c.withRates x y) := by
    rw [Disk.read_of_write writes, ofContents, means]
    rfl
  have valid' : (c.withRates x y).validate = .ok () := valid
  exact ⟨x, y, "config.toml", false, disk', by rw [loadFrom_outcome reads, valid']; rfl⟩

/-- A configuration that is saved where a file can be written is there to be loaded again, the same
in all but the two rates, whatever its texts are made of. -/
theorem loads_what_was_saved (sample : c.reporting.sampleRate.Fits .single)
    (traces : c.reporting.tracesSampleRate.Fits .single) {disk : Disk} {path : String}
    (takes : disk.Takes path) (now : Moment) :
    ∃ disk' x y, disk.write path c.contents now = .ok disk' ∧
      ofContents (disk'.read path) = .ok (c.withRates x y) := by
  obtain ⟨disk', writes⟩ := takes.write c.contents now
  obtain ⟨x, y, reads⟩ := ofOctets_contents sample traces
  refine ⟨disk', x, y, writes, ?_⟩
  rw [Disk.read_of_write writes, ofContents, reads]
  rfl

/-- Texts of quotes, line ends and control characters, and the largest numbers. -/
theorem loads_what_was_saved_quotes :
    ∃ (c : Configuration) (disk' : Disk) (x y : Binary),
      c.logLevel = "\n\"\"\"'''\\\r\x00" ∧ c.identity.keyPath = "" ∧
      c.consoleSeconds = 18446744073709551615 ∧ c.verification.trustBundlePath = none ∧
      c.reporting.sampleRate.Fits .single ∧ c.reporting.tracesSampleRate.Fits .single ∧
      Disk.empty.Takes "config.toml" ∧
      Disk.empty.write "config.toml" c.contents ⟨0, 0⟩ = .ok disk' ∧
      ofContents (disk'.read "config.toml") = .ok (c.withRates x y) := by
  let c : Configuration :=
    { initial with
      logLevel := "\n\"\"\"'''\\\r\x00"
      consoleSeconds := 18446744073709551615
      identity := ⟨"", "'", 0⟩
      verification := ⟨.none, none⟩ }
  have fits : c.reporting.sampleRate.Fits .single := initial_rate_fits
  have takes : Disk.empty.Takes "config.toml" := ⟨[], ⟨0, 0⟩, _, rfl⟩
  obtain ⟨disk', x, y, writes, reads⟩ := loads_what_was_saved fits fits takes ⟨0, 0⟩
  exact ⟨c, disk', x, y, rfl, rfl, rfl, rfl, fits, fits, takes, writes, reads⟩

end Configuration
end CredentialRotation
