import QueryConsole.Proofs.Settings.Verbosity
import QueryConsole.Proofs.Text.Utf8
import QueryConsole.Session
/-!
# The log level only filters

No part of a session looks at the log level but what writes the log, so a
session at a higher level is the session without the log lines below that
level (`transcript_quieter`). With `Sources.settings_of_verbosity` this is
carried to whole runs, which read the level from the environment or from a
file: `verbosity_only_filters`.
-/

namespace QueryConsole.Session

open Settings EnvFile

/-- Whether a line is printed at a log level: plain text always is, and a
record of the log if its level is not below. -/
def Line.isShown (v : Verbosity) : Line → Bool
  | .text _ => true
  | .log r => v.level.number ≤ r.level.number

/-- A transcript without the log lines below a level. -/
def Transcript.above (v : Verbosity) (t : Transcript) : Transcript :=
  { t with lines := t.lines.filter (Line.isShown v) }

variable {settings : Settings} {v v' : Verbosity}

/-! ## Settings that differ in the log level -/

theorem filter_textLines (v : Verbosity) (t : Text) :
    (textLines t).filter (Line.isShown v) = textLines t := by
  refine List.filter_eq_self.2 fun line mem => ?_
  obtain ⟨_, -, rfl⟩ := List.mem_map.1 mem
  rfl

/-- The lines of a log that are printed are those of the records that the level
admits. -/
theorem filter_log (v : Verbosity) (records : List Log.Record) :
    (records.map Line.log).filter (Line.isShown v) =
      (Log.filter v.threshold records).map Line.log := by
  rw [List.filter_map]
  rfl

/-- A higher level admits no more. -/
theorem filter_quieter (quieter : v.level.number ≤ v'.level.number) (records : List Log.Record) :
    Log.filter v'.threshold (Log.filter v.threshold records) =
      Log.filter v'.threshold records := by
  rw [Log.filter, Log.filter, List.filter_filter]
  refine List.filter_congr fun r _ => Bool.and_eq_left_iff_imp.2 fun admitted => ?_
  have above : v'.level.number ≤ r.level.number := of_decide_eq_true admitted
  exact decide_eq_true (Nat.le_trans quieter above)

theorem logLines_quieter (quieter : settings.verbosity.level.number ≤ v.level.number)
    (events : List Event) :
    logLines { settings with verbosity := v } events =
      (logLines settings events).filter (Line.isShown v) := by
  rw [logLines, logLines, filter_log, filter_quieter quieter]

theorem viewLines_quieter (m : Submission.Machine) :
    viewLines { settings with verbosity := v } m = viewLines settings m :=
  rfl

/-- What shows a view shows no log. -/
theorem filter_viewLines {m : Submission.Machine} {lines : List Line}
    (shown : viewLines settings m = .ok lines) : lines.filter (Line.isShown v) = lines := by
  rw [viewLines] at shown
  cases caption : m.state.view.shown (messages settings) with
  | error fault => rw [caption] at shown; simp [Except.map] at shown
  | ok message =>
    rw [caption] at shown
    obtain rfl : textLines (printed message) = lines := Except.ok.inj shown
    exact filter_textLines v _

theorem filter_conclusion (m : Submission.Machine) :
    (conclusion settings m).1.filter (Line.isShown v) = (conclusion settings m).1 := by
  rw [conclusion]
  split
  · rfl
  · rfl
  · split
    · next shown => exact filter_viewLines shown
    · rfl

/-- **A session at a higher level** prints less of the log, and is the same
otherwise. -/
theorem runQuery_quieter (quieter : settings.verbosity.level.number ≤ v.level.number)
    (prompts : List Text) (query : Text) (reply : Reply) :
    runQuery { settings with verbosity := v } prompts query reply =
      (runQuery settings prompts query reply).above v := by
  have messages_eq : messages { settings with verbosity := v } = messages settings := rfl
  have finished_eq : finished { settings with verbosity := v } query reply =
      finished settings query reply := rfl
  have conclusion_eq (m : Submission.Machine) :
      conclusion { settings with verbosity := v } m = conclusion settings m := rfl
  simp only [runQuery, messages_eq, finished_eq, conclusion_eq, viewLines_quieter,
    logLines_quieter quieter]
  cases (messages settings).get "ui.title" none [] with
  | error fault => rfl
  | ok title =>
    cases shown : viewLines settings (submitted query reply) with
    | error fault =>
      simp only [Transcript.above, List.filter_append, filter_textLines]
    | ok loading =>
      simp only [Transcript.above, List.filter_append, filter_textLines, filter_viewLines shown,
        filter_conclusion]

theorem transcript_quieter (quieter : settings.verbosity.level.number ≤ v.level.number)
    (input : Input) (reply : Reply) :
    transcript { settings with verbosity := v } input reply =
      (transcript settings input reply).above v := by
  have query_eq : query { settings with verbosity := v } input = query settings input := rfl
  rw [transcript, transcript, query_eq]
  obtain ⟨prompts, asked⟩ := query settings input
  cases asked with
  | error ending => rfl
  | ok query => exact runQuery_quieter quieter prompts query reply

/-- The same of sources that differ in the log level. -/
theorem ofSources_quieter {s s' : Sources} (same : s.without .verbosity = s'.without .verbosity)
    (configured : s.Configures v) (configured' : s'.Configures v')
    (quieter : v.level.number ≤ v'.level.number) (input : Input) (reply : Reply) :
    ofSources s' input reply = (ofSources s input reply).map (Transcript.above v') := by
  rw [ofSources, ofSources, Sources.settings_of_verbosity same configured configured']
  cases made : s.settings with
  | error wrong => rfl
  | ok settings =>
    have level : settings.verbosity = v := configured.verbosity made
    exact congrArg Except.ok (transcript_quieter (level ▸ quieter) input reply)

/-! ## Whole runs -/

/-- What a run of the program comes to: its settings are those of the
environment and of the bytes of a file. -/
def ofFile (environment : List (Text × Text)) (content : Bytes) (input : Input) (reply : Reply) :
    Except DecodeFault (Except (List Violation) Transcript) :=
  (Sources.ofBytes [] environment content).map fun sources => ofSources sources input reply

/-- The assignments of a file to anything but the log level. -/
def otherAssignments (text : Text) : List Assignment :=
  (Assignment.ofFile text).filter fun a => Field.verbosity.isOther a.name

/-- Environments and files that differ only in what they have for the log
level; and nothing else in the file refers to that. -/
structure SameButVerbosity (environment environment' : List (Text × Text))
    (content content' : Bytes) : Prop where
  environment : (environment.filter fun v => Field.verbosity.isOther v.1) =
    environment'.filter fun v => Field.verbosity.isOther v.1
  file : (Document.fileText content).map otherAssignments =
    (Document.fileText content').map otherAssignments
  unreferenced : ∀ text, Document.fileText content = .ok text → ∀ a ∈ otherAssignments text,
    ∀ value, a.value = some value → ∀ name, RefersTo value name →
      Field.verbosity.isOther name = true

theorem without_ofText (environment : List (Text × Text)) {text : Text}
    (unreferenced : ∀ a ∈ otherAssignments text, ∀ value, a.value = some value →
      ∀ name, RefersTo value name → Field.verbosity.isOther name = true) :
    (Sources.ofText [] environment text).without .verbosity =
      ⟨[], environment.filter fun v => Field.verbosity.isOther v.1,
        values (environment.filter fun v => Field.verbosity.isOther v.1)
          (otherAssignments text)⟩ := by
  rw [otherAssignments, ← values_filter environment fun a mem kept =>
    unreferenced a (List.mem_filter.2 ⟨mem, kept⟩)]
  rfl

theorem fileText_encode {text : Text} (scalar : text.isScalar = true)
    (unified : Document.unifyNewlines text = text) :
    Document.fileText (Utf8.encode text) = .ok text := by
  rw [Document.fileText, Utf8.decode_encode_of_isScalar scalar]
  exact congrArg Except.ok unified

/-- **The log level only filters.** Two runs with environments and files that
differ in the log level alone, of which the second has a level that is no
lower, end in the same way, ask the same and send the same requests, and the
second prints what the first does without the log lines below its level. And
if there is no session, the settings being wrong or the file no text, there is
none for the same reasons. -/
theorem verbosity_only_filters {environment environment' : List (Text × Text)}
    {content content' : Bytes} (same : SameButVerbosity environment environment' content content')
    (configured : ∀ sources, Sources.ofBytes [] environment content = .ok sources →
      sources.Configures v)
    (configured' : ∀ sources, Sources.ofBytes [] environment' content' = .ok sources →
      sources.Configures v')
    (quieter : v.level.number ≤ v'.level.number) (input : Input) (reply : Reply) :
    ofFile environment' content' input reply =
      (ofFile environment content input reply).map fun made => made.map (Transcript.above v') := by
  obtain ⟨environment_eq, file_eq, unreferenced⟩ := same
  rw [ofFile, ofFile]
  simp only [Sources.ofBytes] at configured configured' ⊢
  -- a file that is no text is none in both runs, for the same reason
  cases read : Document.fileText content with
  | error fault =>
    rw [read] at file_eq
    cases read' : Document.fileText content' with
    | error fault' =>
      rw [read'] at file_eq
      obtain rfl := Except.error.inj file_eq
      rfl
    | ok text' => rw [read'] at file_eq; simp [Except.map] at file_eq
  | ok text =>
    rw [read] at file_eq configured
    cases read' : Document.fileText content' with
    | error fault' => rw [read'] at file_eq; simp [Except.map] at file_eq
    | ok text' =>
      rw [read'] at file_eq configured'
      have file_eq : otherAssignments text = otherAssignments text' := Except.ok.inj file_eq
      have sources : (Sources.ofText [] environment text).without .verbosity =
          (Sources.ofText [] environment' text').without .verbosity := by
        rw [without_ofText environment (unreferenced text read), environment_eq, file_eq,
          without_ofText environment' (file_eq ▸ unreferenced text read)]
      exact congrArg Except.ok
        (ofSources_quieter sources (configured _ rfl) (configured' _ rfl) quieter input reply)

/-- A file that sets the initial query by a variable of the environment. -/
def queryFile : Text := "QUERYPAD_INITIAL_QUERY=$\x7bHOME\x7d"

/-- The file with a log level before that. -/
def levelFile : Text := "Querypad_Log_Level=error\n" ++ queryFile

theorem verbosity_only_filters_exported_or_assigned :
    ofFile [("HOME", "/")] (Utf8.encode levelFile) ⟨["q"], none⟩ (.response 200 [0x31]) =
      (ofFile [("QUERYPAD_LOG_LEVEL", " debug "), ("HOME", "/")] (Utf8.encode queryFile)
        ⟨["q"], none⟩ (.response 200 [0x31])).map fun made =>
          made.map (Transcript.above .error) := by
  have query : Document.fileText (Utf8.encode queryFile) = .ok queryFile :=
    fileText_encode (by decide) (by cbv)
  have level : Document.fileText (Utf8.encode levelFile) = .ok levelFile :=
    fileText_encode (by decide) (by cbv)
  have others : otherAssignments queryFile =
      [⟨"QUERYPAD_INITIAL_QUERY", some "$\x7bHOME\x7d"⟩] := by cbv
  have others' : otherAssignments levelFile =
      [⟨"QUERYPAD_INITIAL_QUERY", some "$\x7bHOME\x7d"⟩] := by cbv
  have same : SameButVerbosity [("QUERYPAD_LOG_LEVEL", " debug "), ("HOME", "/")] [("HOME", "/")]
      (Utf8.encode queryFile) (Utf8.encode levelFile) := by
    refine ⟨by decide, ?_, ?_⟩
    · rw [query, level]
      exact congrArg Except.ok (others.trans others'.symm)
    · rintro text read a mem value assigned name ⟨fallback, refers⟩
      obtain rfl := Except.ok.inj (query.symm.trans read)
      rw [others, List.mem_singleton] at mem
      subst mem
      obtain rfl := Option.some.inj assigned
      have parts : Part.parse (Text.ofString "$\x7bHOME\x7d").length "$\x7bHOME\x7d" =
          [.reference "HOME" none] := by cbv
      rw [parts, List.mem_singleton] at refers
      obtain ⟨rfl, -⟩ := Part.reference.inj refers
      decide
  have debug : ∀ sources, Sources.ofBytes [] [("QUERYPAD_LOG_LEVEL", " debug "), ("HOME", "/")]
      (Utf8.encode queryFile) = .ok sources → sources.Configures .debug := by
    intro sources made
    rw [Sources.ofBytes, query] at made
    obtain rfl := Except.ok.inj made
    exact .inl ⟨" debug ", by cbv, by decide⟩
  have error : ∀ sources, Sources.ofBytes [] [("HOME", "/")] (Utf8.encode levelFile) =
      .ok sources → sources.Configures .error := by
    intro sources made
    rw [Sources.ofBytes, level] at made
    obtain rfl := Except.ok.inj made
    exact .inl ⟨"error", by cbv, by decide⟩
  exact verbosity_only_filters same debug error (by decide) ⟨["q"], none⟩ (.response 200 [0x31])

end QueryConsole.Session
