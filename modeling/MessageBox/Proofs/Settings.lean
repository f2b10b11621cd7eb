import Mathlib.Tactic.Lemma
import MessageBox.Session

/-!
# Settings between runs

A format keeps some settings if what it writes for them reads as these settings again (`Format.Keeps`). In such a
format, settings that were saved are loaded as they were, a file with some of the settings is laid over the defaults,
and arguments that give no settings of their own go on with the saved ones (`settings_survive`). So do sessions
(`start_after_save`).
-/

namespace MessageBox.Settings

/-! ### What a file holds -/

namespace Format

/-- Whether a node reads as a value. -/
def readsAs (f : Format) (node : f.Node) : Value → Bool
  | .text t => f.text? node == some t
  | .number n => f.number? node == some n
  | .flag b => f.flag? node == some b

/-- Whether an entry reads as a setting. -/
def readsAsField (f : Format) (entry : f.Node × f.Node) (g : Field) : Bool :=
  f.text? entry.1 == some g.name && f.readsAs entry.2 g.value

/-- Whether some entries read as some settings, in their order. -/
def readAsFields (f : Format) : List (f.Node × f.Node) → List Field → Bool
  | [], [] => true
  | entry :: entries, g :: fields => f.readsAsField entry g && f.readAsFields entries fields
  | _, _ => false

/-- Whether a text holds some settings, in their order. -/
def holds (f : Format) (text : String) (fields : List Field) : Bool :=
  (f.entries? text).any fun entries => f.readAsFields entries fields

/-- What a format writes for some settings reads as these settings. -/
def Keeps (f : Format) (s : Settings) : Prop := ∀ text, f.print s = .ok text → f.holds text s.fields = true

end Format

/-! ### Reading what a file holds -/

/-- Takes over a setting. -/
def set (s : Settings) : Field → Settings
  | .logLevel logLevel => { s with logLevel }
  | .waitTimeoutMs waitTimeoutMs => { s with waitTimeoutMs }
  | .reportInterruption reportInterruption => { s with reportInterruption }

namespace Format

variable {f : Format}

/-- Reading an entry that reads as a setting takes over the setting. -/
lemma readEntry_of_readsAsField {g : Field} {entry : f.Node × f.Node} (s : Settings)
    (h : f.readsAsField entry g = true) : f.readEntry s entry = some (s.set g) := by
  obtain ⟨hname, hvalue⟩ : f.text? entry.1 = some g.name ∧ f.readsAs entry.2 g.value = true := by
    simpa [readsAsField] using h
  rw [readEntry, hname]
  cases g <;>
    · simp only [Field.value, readsAs, beq_iff_eq] at hvalue
      simp [readSetting, Field.name, hvalue, set]

/-- Reading entries that read as settings takes these over, one after the other. -/
lemma foldlM_readEntry {entries : List (f.Node × f.Node)} {fields : List Field} (s : Settings)
    (h : f.readAsFields entries fields = true) : entries.foldlM f.readEntry s = some (fields.foldl set s) := by
  induction entries generalizing fields s with
  | nil =>
    cases fields with
    | nil => rfl
    | cons => cases h
  | cons entry entries ih =>
    cases fields with
    | nil => cases h
    | cons g fields =>
      obtain ⟨hentry, hentries⟩ := Bool.and_eq_true_iff.1 h
      rw [List.foldlM_cons, readEntry_of_readsAsField s hentry]
      exact ih _ hentries

/-- What a text holds is laid over the defaults. -/
lemma read_of_holds {text : String} {fields : List Field} (h : f.holds text fields = true) :
    f.read text = some (fields.foldl set {}) := by
  obtain ⟨entries, hentries, hfields⟩ := (Option.any_eq_true _ _).1 h
  rw [read, hentries]
  exact foldlM_readEntry _ hfields

end Format

/-- The settings that are written make up the settings, as an absent limit is the default. -/
lemma foldl_fields (s : Settings) : s.fields.foldl set {} = s := by
  obtain ⟨logLevel, waitTimeoutMs, reportInterruption⟩ := s
  cases waitTimeoutMs <;> rfl

/-! ### Some of the settings -/

namespace Field

/-- The level that a setting gives. -/
def level? : Field → Option String
  | .logLevel level => some level
  | _ => none

/-- The limit that a setting gives, which may be absent. -/
def limit? : Field → Option (Option Nat)
  | .waitTimeoutMs limit => some limit
  | _ => none

/-- What a setting says about the report of interruptions. -/
def report? : Field → Option Bool
  | .reportInterruption report => some report
  | _ => none

/-- A setting that gives a level has the name of the level. -/
lemma name_of_level? (g : Field) (h : g.level?.isSome = true) : g.name = "log_level" := by
  cases g with
  | logLevel => rfl
  | _ => cases h

/-- A setting that gives a limit has the name of the limit. -/
lemma name_of_limit? (g : Field) (h : g.limit?.isSome = true) : g.name = "wait_timeout_ms" := by
  cases g with
  | waitTimeoutMs => rfl
  | _ => cases h

/-- A setting that says something about the report of interruptions has the name for this. -/
lemma name_of_report? (g : Field) (h : g.report?.isSome = true) : g.name = "report_interruption" := by
  cases g with
  | reportInterruption => rfl
  | _ => cases h

end Field

/-- The settings with some others in their place, where these are given. -/
def overlaid (s : Settings) (fields : List Field) : Settings where
  logLevel := (fields.findSome? Field.level?).getD s.logLevel
  waitTimeoutMs := (fields.findSome? Field.limit?).getD s.waitTimeoutMs
  reportInterruption := (fields.findSome? Field.report?).getD s.reportInterruption

/-- Where a kind of setting has one name, and no later setting has the name of the first one, what the first one
gives is a default for the others. -/
lemma findSome?_cons_getD {α : Type} {get? : Field → Option α} {name : String}
    (hget : ∀ g, (get? g).isSome = true → g.name = name) {g : Field} {fields : List Field}
    (hg : g.name ∉ fields.map Field.name) (default : α) :
    ((g :: fields).findSome? get?).getD default = (fields.findSome? get?).getD ((get? g).getD default) := by
  rw [List.findSome?_cons]
  cases hfirst : get? g with
  | none => rfl
  | some a =>
    have hnone : fields.findSome? get? = none := by
      refine List.findSome?_eq_none_iff.2 fun g' hg' => Option.not_isSome_iff_eq_none.1 fun hsome => hg ?_
      have hname : g'.name = g.name := (hget g' hsome).trans (hget g (by rw [hfirst]; rfl)).symm
      exact hname ▸ List.mem_map_of_mem hg'
    rw [hnone]
    rfl

/-- Settings may be taken over one by one, if none is given twice. -/
lemma overlaid_cons {g : Field} {fields : List Field} (s : Settings) (hg : g.name ∉ fields.map Field.name) :
    s.overlaid (g :: fields) = (s.set g).overlaid fields := by
  have hlevel := findSome?_cons_getD Field.name_of_level? hg s.logLevel
  have hlimit := findSome?_cons_getD Field.name_of_limit? hg s.waitTimeoutMs
  have hreport := findSome?_cons_getD Field.name_of_report? hg s.reportInterruption
  rw [overlaid, hlevel, hlimit, hreport]
  cases g <;> rfl

/-- Where each setting is given once at most, their order is of no account. -/
lemma foldl_set {fields : List Field} (s : Settings) (h : (fields.map Field.name).Nodup) :
    fields.foldl set s = s.overlaid fields := by
  induction fields generalizing s with
  | nil => rfl
  | cons g fields ih =>
    obtain ⟨hg, hfields⟩ := List.nodup_cons.1 h
    rw [overlaid_cons s hg]
    exact ih _ hfields

/-! ### Saving and loading -/

namespace Format

variable {f : Format} {s : Settings} {d d' : DataDir}

/-- A file whose text reads as some settings loads them. -/
lemma load_file (f : Format) (d : DataDir) (text : String) {s : Settings} (h : f.read text = some s) :
    f.load { d with settings := .file text.toUTF8 } = .ok s := by
  have hfile : (Entry.file text.toUTF8).read = .ok (some text) := by
    have htext : String.fromUTF8? text.toUTF8 = some text := dif_pos text.isValidUTF8
    rw [Entry.read, htext]
  rw [load]
  simp only [hfile, h]

/-- Saving succeeds just if the settings have a text and no other thing is in the way of the directory and the
file; it puts the text into the file. -/
lemma save_eq_ok_iff :
    f.save s d = .ok d' ↔ ∃ text, f.print s = .ok text ∧ d.isFile = false ∧ d.settings ≠ .directory ∧
      d' = { d with settings := .file text.toUTF8 } := by
  unfold save
  cases hprint : f.print s with
  | error e => simp
  | ok text =>
    cases hfile : d.isFile with
    | true => simp [DataDir.create, hfile]
    | false => cases hentry : d.settings <;> simp [DataDir.create, hfile, Entry.write, hentry, eq_comm]

/-- Settings that a format keeps load after they were saved. -/
lemma load_of_save (hkeeps : f.Keeps s) (hsave : f.save s d = .ok d') : f.load d' = .ok s := by
  obtain ⟨text, hprint, -, -, rfl⟩ := save_eq_ok_iff.1 hsave
  refine load_file f d text ?_
  rw [read_of_holds (hkeeps text hprint), foldl_fields]

end Format

/-! ### The command line -/

open CommandLine (Args)

/-- Options that are not given leave the settings alone. -/
lemma overriddenBy_none (s : Settings) {args : Args} (hlevel : args.logLevel = none)
    (hlimit : args.timeoutMs = none) : s.overriddenBy args = s := by
  simp [overriddenBy, hlevel, hlimit]

/-- Arguments that override settings change nothing the second time. -/
lemma overriddenBy_twice (s : Settings) (args : Args) :
    (s.overriddenBy args).overriddenBy args = s.overriddenBy args := by
  cases hlevel : args.logLevel <;> cases hlimit : args.timeoutMs <;> simp [overriddenBy, hlevel, hlimit]

/-- A session that saves its settings hands them on to the next one, if that is started without a log level and a
limit. -/
lemma start_after_save {session saved : Session} {args later : Args} (hkeeps : yaml.Keeps session.settings)
    (hasked : args.saveConfig = true) (hsave : session.saveSettings args = .ok saved)
    (hlevel : later.logLevel = none) (hlimit : later.timeoutMs = none) (wanted : Option String) :
    (Session.start later saved.dir wanted).settings = session.settings := by
  rw [Session.saveSettings, if_pos hasked] at hsave
  obtain ⟨dir, hdir, rfl⟩ : ∃ dir, session.settings.save session.dir = .ok dir ∧ saved.dir = dir := by
    cases hdir : session.settings.save session.dir with
    | error e => simp [hdir, bind, Except.bind] at hsave
    | ok dir =>
      simp only [hdir, bind, Except.bind, pure, Except.pure, Except.ok.injEq] at hsave
      refine ⟨dir, rfl, ?_⟩
      rw [← hsave, Session.note]
      split <;> rfl
  have hload : Settings.load saved.dir = .ok session.settings := Format.load_of_save hkeeps hdir
  rw [Session.start, hload]
  exact overriddenBy_none _ hlevel hlimit

/-- Settings that a format keeps are loaded after any successful save as they were saved; saving succeeds unless they
have no text or something else is in the way. A file with some of the settings, each once at most and in whatever
order, is loaded as the defaults with these settings in their place. When settings were saved with some arguments
laid over them, laying the same arguments over what is loaded again changes nothing, and arguments that give neither
a log level nor a limit lead to the same log level and the same options of a prompt. -/
theorem settings_survive (f : Format) (d : DataDir) :
    (∀ s, (∃ d', f.save s d = .ok d') ↔
      (∃ text, f.print s = .ok text) ∧ d.isFile = false ∧ d.settings ≠ .directory) ∧
    (∀ s d', f.Keeps s → f.save s d = .ok d' → f.load d' = .ok s) ∧
    (∀ text fields, (fields.map Field.name).Nodup → f.holds text fields = true →
      f.load { d with settings := .file text.toUTF8 } = .ok (({} : Settings).overlaid fields)) ∧
    (∀ (s : Settings) (args : Args) d', f.Keeps (s.overriddenBy args) →
      f.save (s.overriddenBy args) d = .ok d' →
      ∃ saved, f.load d' = .ok saved ∧ saved.overriddenBy args = saved ∧
        ∀ later : Args, later.logLevel = none → later.timeoutMs = none →
          (saved.overriddenBy later).logLevel = (s.overriddenBy args).logLevel ∧
          (saved.overriddenBy later).options = (s.overriddenBy args).options) := by
  refine ⟨fun s => ?_, fun s d' => Format.load_of_save, fun text fields hnodup hholds => ?_,
    fun s args d' hkeeps hsave => ?_⟩
  · simp only [Format.save_eq_ok_iff]
    constructor
    · rintro ⟨-, text, hprint, hfile, hentry, -⟩
      exact ⟨⟨text, hprint⟩, hfile, hentry⟩
    · rintro ⟨⟨text, hprint⟩, hfile, hentry⟩
      exact ⟨_, text, hprint, hfile, hentry, rfl⟩
  · refine Format.load_file f d text ?_
    rw [Format.read_of_holds hholds, foldl_set _ hnodup]
  · refine ⟨_, Format.load_of_save hkeeps hsave, overriddenBy_twice s args, fun later hlevel hlimit => ?_⟩
    rw [overriddenBy_none _ hlevel hlimit]
    exact ⟨rfl, rfl⟩

/-- Settings with every one given, the level as a text that could be read as something else. -/
def quotedLevel : Settings where
  logLevel := "off"
  waitTimeoutMs := some 1500
  reportInterruption := true

/-- Arguments that give a level of several lines and leave the limit. -/
def linesOfLevel : Args where
  caption := "Save"
  message := "Save the file?"
  logLevel := some "info\ndebug\n"

/-- Arguments without a level and a limit. -/
def bareArgs : Args where
  caption := "Save"
  message := "Save the file?"

/-- A quoted level and a level of several lines are kept by the format of the settings file, and two settings in
another order are laid over the defaults. -/
theorem settings_survive_yaml :
    (∃ text, yaml.print quotedLevel = .ok text ∧
      yaml.load { path := "data", settings := .file text.toUTF8 } = .ok quotedLevel) ∧
    yaml.load { path := "data", settings := .file "report_interruption: true\nlog_level: warn\n".toUTF8 } =
      .ok ⟨"warn", none, true⟩ ∧
    ∃ d' saved, yaml.save (quotedLevel.overriddenBy linesOfLevel) { path := "data" } = .ok d' ∧
      yaml.load d' = .ok saved ∧ (saved.overriddenBy bareArgs).logLevel = "info\ndebug\n" ∧
      (saved.overriddenBy bareArgs).options = ⟨some 1500, true⟩ := by
  obtain ⟨hsaves, hloads, hpartial, hruns⟩ := settings_survive yaml { path := "data" }
  have hquoted : yaml.Keeps quotedLevel := by
    intro text hprint
    cases hprint
    decide +kernel
  have hlines : yaml.Keeps (quotedLevel.overriddenBy linesOfLevel) := by
    intro text hprint
    cases hprint
    decide +kernel
  refine ⟨⟨_, rfl, hloads quotedLevel _ hquoted rfl⟩, ?_, ?_⟩
  · exact hpartial "report_interruption: true\nlog_level: warn\n" [.reportInterruption true, .logLevel "warn"]
      (by simp [Field.name]) (by decide +kernel)
  · obtain ⟨d', hsave⟩ := (hsaves (quotedLevel.overriddenBy linesOfLevel)).2 ⟨⟨_, rfl⟩, rfl, nofun⟩
    obtain ⟨saved, hload, -, hlater⟩ := hruns quotedLevel linesOfLevel d' hlines hsave
    obtain ⟨hlevel, hoptions⟩ := hlater bareArgs rfl rfl
    exact ⟨d', saved, hsave, hload, hlevel, hoptions⟩

end MessageBox.Settings
