import Mathlib.Data.List.Permutation
import QueryConsole.Catalog.English
import QueryConsole.Proofs.Json.ReadingBack
import QueryConsole.Proofs.Template.Pieces
/-!
# The catalog that comes with the console

Whatever language is asked for, the directory that comes with the console
has the English catalog for it or none (`load_bundled`), so a message that
is looked up in it is the English one or the key itself. Both can be shown:
`describe_bundled` says so for the messages with a placeholder, and
`describe_english` which of the two it is when English is asked for.
-/

namespace QueryConsole.Catalog

/-! ## The file -/

/-- A text without a carriage return has its ends of line unified. -/
theorem unifyNewlines_eq {t : Text} (unified : ∀ p ∈ t, p ≠ .scalar '\r') :
    Document.unifyNewlines t = t := by
  fun_induction Document.unifyNewlines t with
  | case1 => rfl
  | case2 => exact absurd rfl (unified _ List.mem_cons_self)
  | case3 => exact absurd rfl (unified _ List.mem_cons_self)
  | case4 p t _ _ ih => rw [ih fun q mem => unified q (List.mem_cons_of_mem p mem)]

/-- Whether a file may hold a text as it is: no surrogate, no carriage
return, and no byte order mark. -/
def isUnified (t : Text) : Bool :=
  t.all fun p => !p.isSurrogate && p != .scalar '\r' && p != .scalar '\uFEFF'

/-- **A file that holds what a value is shown as is read as the value.** -/
theorem readFile_pretty {v : Json} (showable : v.Showable) (shallow : v.depth ≤ Json.Reader.maxDepth)
    (unified : isUnified v.pretty = true) : Document.readFile (Utf8.encode v.pretty) = .ok v := by
  have read := Json.read_pretty showable shallow
  generalize v.pretty = t at unified read
  have each : ∀ p ∈ t, p.isSurrogate = false ∧ p ≠ .scalar '\r' ∧ p ≠ .scalar '\uFEFF' := by
    intro p mem
    have := List.all_eq_true.1 unified p mem
    simpa [and_assoc] using this
  have scalar : t.isScalar = true := List.all_eq_true.2 fun p mem => by simp [(each p mem).1]
  have text : Document.fileText (Utf8.encode t) = .ok t := by
    rw [Document.fileText, Utf8.decode_encode_of_isScalar scalar, Except.map,
      unifyNewlines_eq fun p mem => (each p mem).2.1]
  rw [Document.readFile, text]
  cases t with
  | nil => simp only [read]; rfl
  | cons p t =>
    have unmarked := (each p List.mem_cons_self).2.2
    simp only [read]
    split
    · next same => exact absurd (List.cons.inj same).1 unmarked
    · rfl

theorem nodup_english :
    ((english.map fun e => (Text.ofString e.1, Json.string (Text.ofString e.2))).map
      Prod.fst).Nodup := by
  decide +kernel

theorem showable_english : englishCatalog.Showable := by
  refine .object nodup_english fun m mem => ?_
  obtain ⟨e, -, rfl⟩ := List.mem_map.1 mem
  exact .string

set_option maxRecDepth 4000 in
/-- The file of the English catalog is read as the English catalog. -/
theorem readFile_english :
    Document.readFile (Utf8.encode englishCatalog.pretty) = .ok englishCatalog :=
  readFile_pretty showable_english (by decide) (by cbv)

/-- A path leads to nothing else than the content of a file. -/
theorem mem_files_of_follow? {d : Directory} {place path : List Text} {content : Bytes}
    (found : d.follow? place path = some content) : ∃ f ∈ d.files, f.2 = content := by
  fun_induction Directory.follow? d place path with
  | case1 => simp at found
  | case2 place name =>
    obtain ⟨before, after, same, -⟩ := List.lookup_eq_some_iff.1 found
    have mem : (place ++ [name], content) ∈ d.entries := by simp [same]
    obtain ⟨f, hf, eq⟩ := List.mem_map.1 mem
    exact ⟨f, hf, congrArg Prod.snd eq⟩
  | case3 => simp at found
  | case4 _ _ _ _ ih => exact ih found
  | case5 _ _ _ _ _ _ ih => exact ih found
  | case6 => simp at found

/-- **Whatever is asked for, there is the English catalog or none.** -/
theorem load_bundled (language : Text) :
    bundled.load language = .ok englishCatalog ∨ bundled.load language = .ok (.object []) := by
  rw [Directory.load]
  cases found : bundled.find? (language ++ ".json") with
  | none => exact .inr rfl
  | some content =>
    have single : content = Utf8.encode englishCatalog.pretty := by
      have followed : ∃ place path, bundled.follow? place path = some content := by
        rw [Directory.find?.eq_def] at found
        split at found
        · simp at found
        · exact ⟨_, _, found⟩
      obtain ⟨place, path, followed⟩ := followed
      obtain ⟨f, mem, rfl⟩ := mem_files_of_follow? followed
      rw [List.mem_singleton.1 mem]
    exact .inl (single ▸ readFile_english)

/-- And for English there is. -/
theorem load_english : bundled.load "en" = .ok englishCatalog :=
  readFile_english

/-! ## Messages -/

variable {m : Messages} {languages : List Text}

/-- The English catalog has the English messages. -/
theorem entry?_english {e : String × String} (known : e ∈ english) :
    entry? (Text.ofString e.1) englishCatalog = .ok (some (.string (Text.ofString e.2))) := by
  have found := Json.Members.lookup_of_mem nodup_english (List.mem_map_of_mem known)
  simp only [englishCatalog, entry?, Json.Members.find?, found]

/-- **A message that comes with the console is the English one** if English
is among the languages that are asked for. -/
theorem find_english (h : m.directory = bundled) {e : String × String} (known : e ∈ english)
    (asked : Text.ofString "en" ∈ languages) :
    m.find (Text.ofString e.1) languages = .ok (.string (Text.ofString e.2)) := by
  induction languages with
  | nil => simp at asked
  | cons language rest ih =>
    rw [Messages.find, h]
    rcases load_bundled language with english | none
    · rw [english]
      simp only [entry?_english known]
    · rcases List.mem_cons.1 asked with rfl | later
      · rw [load_english]
        simp only [entry?_english known]
      · rw [none]
        exact ih later

/-- In any case it is the English one or the key. -/
theorem find_bundled (h : m.directory = bundled) {e : String × String} (known : e ∈ english)
    (languages : List Text) :
    m.find (Text.ofString e.1) languages = .ok (.string (Text.ofString e.2)) ∨
      m.find (Text.ofString e.1) languages = .ok (.string (Text.ofString e.1)) := by
  induction languages with
  | nil => exact .inr rfl
  | cons language rest ih =>
    rw [Messages.find, h]
    rcases load_bundled language with english | none
    · rw [english]
      simp only [entry?_english known, true_or]
    · rw [none]
      exact ih

/-- **A message that is asked for in English.** -/
theorem get_english (h : m.directory = bundled) {e : String × String} (known : e ∈ english)
    {locale : Option Text} (asked : Text.ofString "en" ∈ m.languages locale) :
    m.get (Text.ofString e.1) locale [] = .ok (.string (Text.ofString e.2)) := by
  rw [Messages.get, find_english h known asked]
  rfl

/-- With arguments a message is what it is described as. -/
theorem get_eq_describe {key : Text} {locale : Option Text} {arguments : Template.Arguments}
    (filled : arguments.isEmpty = false) :
    m.get key locale arguments = (m.describe key locale arguments).map Json.string := by
  rw [Messages.get, Messages.describe]
  cases m.find key (m.languages locale) with
  | error fault => rfl
  | ok message => simp [present, filled]

/-! ## Messages with a placeholder -/

/-- A message with one placeholder: its key, and its text before the
placeholder, the word in it, and the text after it. -/
structure Framed where
  key : String
  before : String
  word : String
  after : String

/-- The message as the catalog has it. -/
def Framed.template (f : Framed) : Text :=
  Text.ofString f.before ++ Template.placeholder f.word ++ Text.ofString f.after

/-- **The English messages with a placeholder.** -/
def framed : List Framed :=
  [ ⟨"ui.error", "Error: ", "message", ""⟩,
    ⟨"errors.transport", "Failed to reach the query endpoint: ", "detail", ""⟩,
    ⟨"errors.http_status", "Network response was not ok (status ", "status_code", ")"⟩,
    ⟨"errors.parse", "Endpoint response is not valid JSON: ", "detail", ""⟩,
    ⟨"errors.unexpected", "Query submission failed unexpectedly: ", "detail", ""⟩ ]

/-- They are messages of the catalog. -/
theorem mem_english_of_framed : ∀ f ∈ framed, ∃ e ∈ english,
    Text.ofString e.1 = Text.ofString f.key ∧ Text.ofString e.2 = f.template := by
  decide +kernel

/-- Their placeholders are words, and there are no other braces in them or
in their keys. -/
theorem word_of_framed : ∀ f ∈ framed, Template.Field.IsWord (Text.ofString f.word) ∧
    Template.isPlain (Text.ofString f.before) = true ∧
    Template.isPlain (Text.ofString f.after) = true ∧
    Template.isPlain (Text.ofString f.key) = true := by
  decide +kernel

variable {f : Framed} {arguments : Template.Arguments} {v : Template.Value} {shown : Text}

/-- A message with a placeholder is filled with the text of its argument. -/
theorem fillMessage_framed (known : f ∈ framed)
    (given : arguments.lookup (Text.ofString f.word) = some v) (text : v.toText = .ok shown) :
    fillMessage arguments (.string f.template) =
      .ok (Text.ofString f.before ++ shown ++ Text.ofString f.after) := by
  obtain ⟨word, before, after, -⟩ := word_of_framed f known
  rw [fillMessage, Template.fillOrKeep, Framed.template,
    Template.fill_placeholder word before after given, text]
  rfl

/-- And its key is shown as it is. -/
theorem fillMessage_key (known : f ∈ framed) :
    fillMessage arguments (.string (Text.ofString f.key)) = .ok (Text.ofString f.key) := by
  obtain ⟨-, -, -, key⟩ := word_of_framed f known
  rw [fillMessage, Template.fillOrKeep, Template.fill_plain key]

/-- **What is shown in English.** -/
theorem describe_english (h : m.directory = bundled) (known : f ∈ framed)
    (given : arguments.lookup (Text.ofString f.word) = some v) (text : v.toText = .ok shown)
    {locale : Option Text} (asked : Text.ofString "en" ∈ m.languages locale) :
    m.describe (Text.ofString f.key) locale arguments =
      .ok (Text.ofString f.before ++ shown ++ Text.ofString f.after) := by
  obtain ⟨e, mem, key, template⟩ := mem_english_of_framed f known
  rw [Messages.describe, ← key, find_english h mem asked, template]
  exact fillMessage_framed known given text

/-- **What is shown in any language**: the English message or the key. -/
theorem describe_bundled (h : m.directory = bundled) (known : f ∈ framed)
    (given : arguments.lookup (Text.ofString f.word) = some v) (text : v.toText = .ok shown)
    (locale : Option Text) :
    ∃ message, m.describe (Text.ofString f.key) locale arguments = .ok message := by
  obtain ⟨e, mem, key, template⟩ := mem_english_of_framed f known
  rw [Messages.describe, ← key]
  rcases find_bundled h mem (m.languages locale) with english | alone
  · rw [english, template]
    exact ⟨_, fillMessage_framed known given text⟩
  · rw [alone, key]
    exact ⟨_, fillMessage_key known⟩

end QueryConsole.Catalog
